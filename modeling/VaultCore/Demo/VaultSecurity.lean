import VaultCore.Demo.VaultPage

/-!
# The security settings of the demo page

Changing the password, rotating the recovery phrase in two steps, upgrading
envelopes, linking a passkey and deleting the vault, and with the handlers of
the page before them the calls that the page can make in any order.
-/

namespace VaultCore

section Settings

variable {Value : Type} (app : DemoApp Value)

/-- A rotation of the stored password envelope. -/
def demoPasswordRotation (input : ChangeDemoVaultPasswordInput)
    (vaultKey : CryptoKey) (currentEnvelope : PasswordEnvelope) :
    RotateVaultPasswordOptions :=
  { vaultKey
    currentPassword := input.currentPassword
    newPassword := input.newPassword
    currentEnvelope
    scope := vaultScope demoUserId
    profile := app.vaultProfile }

/-- Rotates the password and stores the new envelope. -/
def changeDemoVaultPassword (random : RotationRandomness)
    (input : ChangeDemoVaultPasswordInput) : DemoAsync Unit :=
  runDemoSecurityAttempt app .password do
    let record ← Async.lift (requireRecord app)
    let vaultKey ← Async.lift requireVaultKey
    let currentEnvelope ← Async.lift (Sync.ofExcept (parseRecord
      (passwordEnvelopeSchema app.platform) record.passwordEnvelope))
    let result ← Async.awaitOutcome (rotateVaultPassword app.platform
      random.iv random.salt
      (demoPasswordRotation app input vaultKey currentEnvelope))
    Async.lift (saveVaultRecord app
      { record with passwordEnvelope := result.envelope })

/-- A rotation of the phrase, authorized by the password. -/
def demoRecoveryRotation (input : GenerateDemoRecoveryRotationInput)
    (vaultKey : CryptoKey) (passwordEnvelope : PasswordEnvelope) :
    RotateRecoveryPhraseOptions :=
  { vaultKey
    authorization := .password input.currentPassword passwordEnvelope
    scope := vaultScope demoUserId
    profile := app.vaultProfile
    wordCount := some input.wordCount
    recoveryKit := some
      { productName := js "Vault Core Demo", createdAt := input.createdAt } }

/-- A new phrase with its envelope, which is not stored yet. -/
def generateDemoRecoveryRotation (random : RotationRandomness)
    (input : GenerateDemoRecoveryRotationInput) :
    DemoAsync RotateRecoveryPhraseResult :=
  runDemoSecurityAttempt app .password do
    let record ← Async.lift (requireRecord app)
    let vaultKey ← Async.lift requireVaultKey
    let passwordEnvelope ← Async.lift (Sync.ofExcept (parseRecord
      (passwordEnvelopeSchema app.platform) record.passwordEnvelope))
    Async.awaitOutcome (rotateRecoveryPhrase app.platform random.iv
      random.salt random.entropy
      (demoRecoveryRotation app input vaultKey passwordEnvelope))

/-- Stores the envelope of the new phrase. -/
def commitDemoRecoveryRotation (envelope : RecoveryPhraseEnvelope) :
    DemoAsync Unit := do
  let record ← Async.lift (requireRecord app)
  Async.lift (saveVaultRecord app { record with recoveryEnvelope := envelope })

/-- Show a new phrase.  What goes wrong is shown as a message. -/
def handleGenerate (random : RotationRandomness)
    (input : GenerateDemoRecoveryRotationInput) : DemoAsync Unit := do
  let result ← Async.await (generateDemoRecoveryRotation app random input)
  Async.lift (Sync.modify fun page =>
    { page with
      pendingRotation := some
        { pendingPhrase := result.recoveryPhrase
          pendingKit := result.recoveryKitText
          pendingEnvelope := result.envelope } })

/-- Store the phrase that is shown, once it has been typed again. -/
def handleCommit (confirmPhrase : JsString) : DemoAsync Unit := do
  let page ← Async.lift Sync.get
  match page.pendingRotation.filter fun pending =>
      !pending.pendingPhrase.isEmpty with
  | none => return ()
  | some pending => do
      Async.lift (Sync.ofExcept (assertRecoveryPhraseConfirmation app.platform
        pending.pendingPhrase confirmPhrase))
      Async.await (commitDemoRecoveryRotation app pending.pendingEnvelope)
      Async.lift (Sync.modify fun page =>
        { page with pendingRotation := none })

/-- The session key cannot be wrapped, and no inner blob is passed along. -/
def linkDemoPasskeyPrf (iv : Iv)
    (registerDemoPasskey : Except VaultError DemoRegistration) :
    DemoAsync Unit := do
  let record ← Async.lift (requireRecord app)
  let vaultKey ← Async.lift requireVaultKey
  let registration ← Async.awaitOutcome registerDemoPasskey
  let passkeyPrfEnvelope ← Async.awaitOutcome (createPasskeyPrfEnvelope
    app.platform iv vaultKey registration.prfOutput (vaultScope demoUserId)
    app.vaultProfile none)
  Async.lift do
    saveVaultRecord app
      { record with passkeyPrfEnvelope := some passkeyPrfEnvelope }
    (DemoStorage.savePasskeyCredentialId registration.credentialId).within
      demoStorage

def unlinkDemoPasskeyPrf : DemoSync Unit := do
  let record ← requireRecord app
  saveVaultRecord app { record with passkeyPrfEnvelope := none }
  DemoStorage.clearPasskeyCredentialId.within demoStorage

/-- What an upgrade of the password envelope is asked with. -/
def demoPasswordUpgrade (currentPassword : JsString) (vaultKey : CryptoKey)
    (envelope : PasswordEnvelope) : MaybeUpgradePasswordEnvelopeOptions :=
  { vaultKey
    vaultPassword := currentPassword
    envelope
    scope := vaultScope demoUserId
    profile := app.vaultProfile }

/-- Upgrades the password envelope if it is old, and stores it. -/
def upgradeDemoPasswordEnvelope (random : RotationRandomness)
    (currentPassword : JsString) : DemoAsync Bool :=
  runDemoSecurityAttempt app .password do
    let record ← Async.lift (requireRecord app)
    let vaultKey ← Async.lift requireVaultKey
    let envelope ← Async.lift (Sync.ofExcept (parseRecord
      (passwordEnvelopeSchema app.platform) record.passwordEnvelope))
    let result ← Async.awaitOutcome (maybeUpgradePasswordEnvelopeAfterUnlock
      app.platform random.iv random.salt
      (demoPasswordUpgrade app currentPassword vaultKey envelope))
    match result.upgradedEnvelope with
    | none => return false
    | some upgradedEnvelope => do
        Async.lift (saveVaultRecord app
          { record with passwordEnvelope := upgradedEnvelope })
        return true

/-- What an upgrade of the recovery envelope is asked with. -/
def demoRecoveryUpgrade (input : UpgradeDemoRecoveryEnvelopeInput)
    (vaultKey : CryptoKey) (envelope : RecoveryPhraseEnvelope) :
    MaybeUpgradeRecoveryEnvelopeOptions :=
  { vaultKey
    recoveryPhrase := input.recoveryPhrase
    envelope
    scope := vaultScope demoUserId
    profile := app.vaultProfile
    expectedWordCount := some input.wordCount }

/-- Upgrades the recovery envelope if it is old, and stores it. -/
def upgradeDemoRecoveryEnvelope (random : RotationRandomness)
    (input : UpgradeDemoRecoveryEnvelopeInput) : DemoAsync Bool :=
  runDemoSecurityAttempt app .recoveryPhrase do
    let record ← Async.lift (requireRecord app)
    let vaultKey ← Async.lift requireVaultKey
    let envelope ← Async.lift (Sync.ofExcept (parseRecord
      (recoveryPhraseEnvelopeSchema app.platform) record.recoveryEnvelope))
    let result ← Async.awaitOutcome (maybeUpgradeRecoveryEnvelopeAfterUnlock
      app.platform random.iv random.salt
      (demoRecoveryUpgrade app input vaultKey envelope))
    match result.upgradedEnvelope with
    | none => return false
    | some upgradedEnvelope => do
        Async.lift (saveVaultRecord app
          { record with recoveryEnvelope := upgradedEnvelope })
        return true

/-- `deleteVaultWithPasswordAuthorization` with the purge of the demo. -/
def deleteWithAuthorization (currentPassword : JsString)
    (passwordEnvelope : PasswordEnvelope)
    (purgePersistedVault : DemoSync Unit) : DemoAsync Unit := do
  Async.lift ((assertVaultSessionMutationAllowed none).within demoSession)
  let _ ← Async.awaitOutcome (unlockWithPasswordEnvelope app.platform
    currentPassword passwordEnvelope (vaultScope demoUserId) app.vaultProfile)
  Async.await do
    Async.lift ((assertVaultSessionMutationAllowed none).within demoSession)
    Async.lift purgePersistedVault
    Async.awaitOutcome (.ok ())
    Async.lift (Sync.within demoSession do
      assertVaultSessionMutationAllowed none
      lockVaultSession
      resetVaultSessionLockState)

/-- Removes everything that is stored of the vault. -/
def purgeDemoVault : DemoSync Unit := do
  DemoStorage.clearVaultRecord.within demoStorage
  DemoStorage.clearPasskeyCredentialId.within demoStorage

/-- Deletes the vault once the password has opened it. -/
def deleteDemoVault (currentPassword : JsString) : DemoAsync Unit :=
  runDemoSecurityAttempt app .password do
    let record ← Async.lift (requireRecord app)
    let envelope ← Async.lift (Sync.ofExcept (parseRecord
      (passwordEnvelopeSchema app.platform) record.passwordEnvelope))
    Async.await (deleteWithAuthorization app currentPassword envelope
      purgeDemoVault)

end Settings

/-! ## Calls of the page -/

/-- What the handlers of a set up page can be called with. -/
inductive DemoCall (Value : Type) where
  | unlockDemoVault (vaultPassword : JsString)
  | unlockDemoVaultWithRecoveryPhrase (recoveryPhrase : JsString)
  | unlockDemoVaultWithPasskey (metadataCredentialId : Option JsString)
      (authenticateDemoPasskey : JsString → Except VaultError Bytes)
  | loadDecryptedDemoPayload
  | saveDemoPayload (iv : Iv) (payload : Value)
  | changeDemoVaultPassword (random : RotationRandomness)
      (input : ChangeDemoVaultPasswordInput)
  | handleGenerate (random : RotationRandomness)
      (input : GenerateDemoRecoveryRotationInput)
  | handleCommit (confirmPhrase : JsString)
  | linkDemoPasskeyPrf (iv : Iv)
      (registerDemoPasskey : Except VaultError DemoRegistration)
  | unlinkDemoPasskeyPrf
  | upgradeDemoPasswordEnvelope (random : RotationRandomness)
      (currentPassword : JsString)
  | upgradeDemoRecoveryEnvelope (random : RotationRandomness)
      (input : UpgradeDemoRecoveryEnvelopeInput)
  | deleteDemoVault (currentPassword : JsString)
  | lockVaultSession
  | touchVaultSession
  | hydrateDemoEmergencyFromServer

/-- What a handler resolves to. -/
inductive DemoAnswer (Value : Type) where
  | unit
  | payload (payload : Option Value)
  | encryptedBlob (encryptedBlob : EncryptedVaultPayload)
  | upgraded (upgraded : Bool)

/-- What happens around the handlers: to the session, to the clock of the
limiter and its other users, to the storage, and to the settings page, which
forgets a pending rotation when it is left. -/
inductive DemoEvent where
  | session (event : SessionEvent)
  | limiter (event : RateLimit.LimiterEvent)
  | storage (getThrows setThrows removeThrows : Bool)
  | settingsPageLeft

section Machine

variable {Value : Type} (app : DemoApp Value)

def demoProgram : DemoCall Value → DemoAsync (DemoAnswer Value)
  | .unlockDemoVault vaultPassword => do
      let payload ← unlockDemoVault app vaultPassword
      return .payload (some payload)
  | .unlockDemoVaultWithRecoveryPhrase recoveryPhrase => do
      let payload ← unlockDemoVaultWithRecoveryPhrase app recoveryPhrase
      return .payload (some payload)
  | .unlockDemoVaultWithPasskey metadataCredentialId
      authenticateDemoPasskey => do
      let payload ← unlockDemoVaultWithPasskey app metadataCredentialId
        authenticateDemoPasskey
      return .payload (some payload)
  | .loadDecryptedDemoPayload => do
      let payload ← loadDecryptedDemoPayload app
      return .payload payload
  | .saveDemoPayload iv payload => do
      let encryptedBlob ← saveDemoPayload app iv payload
      return .encryptedBlob encryptedBlob
  | .changeDemoVaultPassword random input => do
      changeDemoVaultPassword app random input
      return .unit
  | .handleGenerate random input => do
      handleGenerate app random input
      return .unit
  | .handleCommit confirmPhrase => do
      handleCommit app confirmPhrase
      return .unit
  | .linkDemoPasskeyPrf iv registerDemoPasskey => do
      linkDemoPasskeyPrf app iv registerDemoPasskey
      return .unit
  | .unlinkDemoPasskeyPrf => do
      Async.lift (unlinkDemoPasskeyPrf app)
      return .unit
  | .upgradeDemoPasswordEnvelope random currentPassword => do
      let upgraded ← upgradeDemoPasswordEnvelope app random currentPassword
      return .upgraded upgraded
  | .upgradeDemoRecoveryEnvelope random input => do
      let upgraded ← upgradeDemoRecoveryEnvelope app random input
      return .upgraded upgraded
  | .deleteDemoVault currentPassword => do
      deleteDemoVault app currentPassword
      return .unit
  | .lockVaultSession => do
      Async.lift (VaultCore.lockVaultSession.within demoSession)
      return .unit
  | .touchVaultSession => do
      Async.lift ((VaultCore.touchVaultSession none).within demoSession)
      return .unit
  | .hydrateDemoEmergencyFromServer => do
      Async.lift (VaultCore.hydrateDemoEmergencyFromServer.within demoSession)
      return .unit

/-- What happens to a page by itself. -/
def demoEnvironment : DemoEvent → DemoPage → DemoPage
  | .session event, page =>
      { page with session := sessionEnvironment event page.session }
  | .limiter event, page =>
      { page with limiter := event.apply app.unlockRateLimit page.limiter }
  | .storage getThrows setThrows removeThrows, page =>
      { page with
        storage := { page.storage with getThrows, setThrows, removeThrows } }
  | .settingsPageLeft, page => { page with pendingRotation := none }

/-- The handlers of one page, in any interleaving. -/
def demoMachine :
    Machine (DemoCall Value) DemoEvent DemoPage VaultError
      (DemoAnswer Value) :=
  { program := demoProgram app
    environment := demoEnvironment app }

end Machine

end VaultCore
