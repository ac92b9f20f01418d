import VaultCore.Async.Alone
import VaultCore.Browser.WebStorage
import VaultCore.Emergency.DecoyEnrollment
import VaultCore.RateLimit.UnlockBudget
import VaultCore.Rotation.Password
import VaultCore.Rotation.Recovery
import VaultCore.Session.Calls

/-!
# The vault of the demo page

The demo keeps one vault record in `localStorage` and its key in the session.
Every handler reads the record, awaits what it needs and writes a whole record
back, so handlers that overlap may overwrite each other.  The page runs with
the emergency mode switched off.
-/

namespace VaultCore

/-- What the demo is built on.  The vault profile and the limits come from its
environment, the schema and the first payload are those of its notes. -/
structure DemoApp (Value : Type) where
  platform : Platform
  codec : JsonCodec Value
  demoVaultPayloadSchema : Schema Value Value
  emptyPayload : Value
  vaultProfile : VaultCryptoProfile
  unlockRateLimit : RateLimit.VaultUnlockRateLimitConfig

/-- The items of `localStorage` that the vault is kept in.  The record is the
one whose JSON text is stored. -/
structure DemoStorage where
  record : Option VaultSetupWithDecoy := none
  passkeyCredentialId : Option JsString := none
  getThrows : Bool := false
  setThrows : Bool := false
  removeThrows : Bool := false

/-- A rotated phrase that is shown and not committed yet. -/
structure PendingRotation where
  pendingPhrase : JsString
  pendingKit : Option JsString
  pendingEnvelope : RecoveryPhraseEnvelope

/-- The storage, the session and the limiter of one page, with a rotation that
waits for its commit. -/
structure DemoPage where
  storage : DemoStorage
  session : SessionState
  limiter : RateLimit.LimiterState
  pendingRotation : Option PendingRotation := none

abbrev DemoSync (α : Type) := Sync DemoPage VaultError α

abbrev DemoAsync (α : Type) := Async DemoPage VaultError α

/-- The storage as a part of the page. -/
def demoStorage : Component DemoPage DemoStorage where
  read := DemoPage.storage
  write := fun storage page => { page with storage }
  read_write := fun _ _ => rfl

/-- The session as a part of the page. -/
def demoSession : Component DemoPage SessionState where
  read := DemoPage.session
  write := fun session page => { page with session }
  read_write := fun _ _ => rfl

/-- The limiter as a part of the page. -/
def demoLimiter : Component DemoPage RateLimit.LimiterState where
  read := DemoPage.limiter
  write := fun limiter page => { page with limiter }
  read_write := fun _ _ => rfl

def demoUserId : JsString := js "00000000-0000-4000-8000-000000000001"

/-- The user is the resource as well. -/
def vaultScope (userId : JsString) : VaultScope :=
  { userId, resourceId := userId }

/-- `schema.parse` -/
def parseRecord {α : Type} (schema : α → Option α) (record : α) :
    Except VaultError α :=
  match schema record with
  | some parsed => .ok parsed
  | none => .error .zodError

namespace DemoStorage

variable (platform : Platform)

/-- A record that the schema refuses counts as none. -/
def loadVaultRecord :
    Sync DemoStorage VaultError (Option VaultSetupWithDecoy) := fun storage =>
  if storage.getThrows then
    (.error (.domException "SecurityError"), storage)
  else
    (.ok (storage.record.bind (vaultSetupWithDecoySchema platform)), storage)

/-- Stores a record that its schema reads. -/
def saveVaultRecord (record : VaultSetupWithDecoy) :
    Sync DemoStorage VaultError Unit := fun storage =>
  match parseRecord (vaultSetupWithDecoySchema platform) record with
  | .error error => (.error error, storage)
  | .ok parsed =>
      if storage.setThrows then
        (.error (.domException "QuotaExceededError"), storage)
      else (.ok (), { storage with record := some parsed })

def clearVaultRecord : Sync DemoStorage VaultError Unit := fun storage =>
  if storage.removeThrows then
    (.error (.domException "SecurityError"), storage)
  else (.ok (), { storage with record := none })

def loadPasskeyCredentialId :
    Sync DemoStorage VaultError (Option JsString) := fun storage =>
  if storage.getThrows then
    (.error (.domException "SecurityError"), storage)
  else (.ok storage.passkeyCredentialId, storage)

def savePasskeyCredentialId (credentialId : JsString) :
    Sync DemoStorage VaultError Unit := fun storage =>
  if storage.setThrows then
    (.error (.domException "QuotaExceededError"), storage)
  else (.ok (), { storage with passkeyCredentialId := some credentialId })

def clearPasskeyCredentialId : Sync DemoStorage VaultError Unit :=
  fun storage =>
    if storage.removeThrows then
      (.error (.domException "SecurityError"), storage)
    else (.ok (), { storage with passkeyCredentialId := none })

end DemoStorage

/-- What a rotation draws from the random generator. -/
structure RotationRandomness where
  iv : Iv
  salt : Argon2idSalt
  entropy : Bytes := []

structure CreateDemoVaultInput where
  vaultPassword : JsString
  recoveryWordCount : RecoveryPhraseWordCount

structure ChangeDemoVaultPasswordInput where
  currentPassword : JsString
  newPassword : JsString

structure GenerateDemoRecoveryRotationInput where
  currentPassword : JsString
  wordCount : RecoveryPhraseWordCount
  /-- The time that the recovery kit shows. -/
  createdAt : JsString

structure UpgradeDemoRecoveryEnvelopeInput where
  recoveryPhrase : JsString
  wordCount : RecoveryPhraseWordCount

/-- What the browser answers to a passkey ceremony. -/
structure DemoRegistration where
  prfOutput : Bytes
  credentialId : JsString

section Page

variable {Value : Type} (app : DemoApp Value)

def loadVaultRecord : DemoSync (Option VaultSetupWithDecoy) :=
  (DemoStorage.loadVaultRecord app.platform).within demoStorage

def saveVaultRecord (record : VaultSetupWithDecoy) : DemoSync Unit :=
  (DemoStorage.saveVaultRecord app.platform record).within demoStorage

def requireRecord : DemoSync VaultSetupWithDecoy := do
  match ← loadVaultRecord app with
  | some record => pure record
  | none => Sync.throw (.error "Vault is not configured")

/-- `getSessionVaultKey()` -/
def getSessionVaultKey : DemoSync (Option CryptoKey) := do
  let page ← Sync.get
  return page.session.sessionVaultKey

/-- The key of the session, or an error. -/
def requireVaultKey : DemoSync CryptoKey := do
  match ← getSessionVaultKey with
  | some vaultKey => pure vaultKey
  | none => Sync.throw (.error "Vault is locked")

/-- `withVaultUnlockRateLimit` with the limiter of the page. -/
def withDemoRateLimit {α : Type} (scopeKey : JsString)
    (action : RateLimit.VaultUnlockRateLimitAction) (attempt : DemoAsync α) :
    DemoAsync α := do
  Async.lift ((RateLimit.assertVaultUnlockAllowed app.unlockRateLimit scopeKey
    action).within demoLimiter)
  Async.tryCatch
    (do
      let result ← Async.await attempt
      Async.lift ((RateLimit.recordVaultUnlockSuccess scopeKey action).within
        demoLimiter)
      return result)
    fun error => do
      if !error.isVaultRateLimitError then
        Async.lift ((RateLimit.recordVaultUnlockFailure app.unlockRateLimit
          scopeKey action).within demoLimiter)
      Async.throw error

/-- An attempt that the limiter counts as an unlock. -/
def runDemoUnlockAttempt {α : Type}
    (action : RateLimit.VaultUnlockRateLimitAction) (attempt : DemoAsync α) :
    DemoAsync α :=
  Async.await (withDemoRateLimit app (js "demo") action attempt)

/-- An attempt that the limiter counts as a change of the security settings. -/
def runDemoSecurityAttempt {α : Type}
    (action : RateLimit.VaultUnlockRateLimitAction) (attempt : DemoAsync α) :
    DemoAsync α :=
  Async.await (withDemoRateLimit app (js "demo-security") action attempt)

/-- What `decryptVaultPayloadForSession` reads the record with. -/
def demoDecryption (record : VaultSetupWithDecoy) (vaultKey : CryptoKey) :
    DecryptVaultPayloadForSessionInput Value Value :=
  { record
    vaultKey
    scope := vaultScope demoUserId
    profile := app.vaultProfile
    schema := app.demoVaultPayloadSchema }

/-- `decryptVaultPayloadForSession` with `null` for a key comes as far as the
decryption itself. -/
def decryptVaultPayloadWithoutKey (record : VaultSetupWithDecoy)
    (core : SessionCore) : Except VaultError Value := do
  let mode := core.getVaultSessionMode
  let targetBlob ← resolveSessionEncryptedBlob mode record.encryptedBlob
    (record.decoy.map VaultDecoyRecord.encryptedBlob)
  assertSessionPayloadDecryptAllowed mode targetBlob record.encryptedBlob
  assertVaultPayloadAad (vaultScope demoUserId) targetBlob app.vaultProfile
  let _ ← decodeBoundedBase64Url targetBlob.iv maxVaultIvBytes
  let _ ← decodeBoundedBase64Url targetBlob.ciphertext maxVaultCiphertextBytes
  .error (.typeError ("Failed to execute 'decrypt' on 'SubtleCrypto': " ++
    "parameter 2 is not of type 'CryptoKey'."))

/-- Decrypt the record under the key that the session holds now. -/
def decryptUnderSessionKey (record : VaultSetupWithDecoy) :
    DemoAsync Value := do
  let page ← Async.lift Sync.get
  Async.awaitOutcome
    (match page.session.sessionVaultKey with
    | some vaultKey =>
        decryptVaultPayloadForSession app.platform app.codec
          page.session.toSessionCore (demoDecryption app record vaultKey)
    | none =>
        decryptVaultPayloadWithoutKey app record page.session.toSessionCore)

/-- The page leaves the emergency mode and locks, since it is off. -/
def hydrateDemoEmergencyFromServer : SessionSync Unit := do
  lockVaultSession
  clearEmergencyModePin none

/-- A new key with its envelopes and an empty payload, stored and unlocked. -/
def createDemoVault (random : EnrollmentRandomness)
    (input : CreateDemoVaultInput) :
    DemoAsync (JsString × VaultSetupWithDecoy) := do
  let scope := vaultScope demoUserId
  let vaultKey ← Async.awaitOutcome (.ok (createUserVaultKey random.vaultKey))
  let recoveryPhrase := createRecoveryPhrase app.platform
    input.recoveryWordCount random.entropy
  let passwordEnvelope ← Async.awaitOutcome (createPasswordEnvelope
    app.platform random.passwordIv vaultKey input.vaultPassword scope
    app.vaultProfile random.passwordSalt.val none)
  let recoveryEnvelope ← Async.awaitOutcome (createRecoveryEnvelope
    app.platform random.recoveryIv vaultKey recoveryPhrase scope
    app.vaultProfile (some input.recoveryWordCount) random.recoverySalt.val
    none)
  let encryptedBlob ← Async.awaitOutcome (encryptVaultPayload app.platform
    app.codec random.payloadIv app.emptyPayload vaultKey scope
    app.vaultProfile)
  let record ← Async.lift (Sync.ofExcept (parseRecord
    (vaultSetupWithDecoySchema app.platform)
    { encryptedBlob, passwordEnvelope, recoveryEnvelope
      passkeyPrfEnvelope := none
      decoy := none }))
  Async.lift (saveVaultRecord app record)
  let sessionKey ← Async.awaitOutcome (unlockWithPasswordEnvelope app.platform
    input.vaultPassword passwordEnvelope scope app.vaultProfile)
  let _ ← Async.await ((unlockVaultSession sessionKey (some .primary)
    none).within demoSession)
  return (recoveryPhrase, record)

/-- The password unlock that the demo asks the session for. -/
def demoPasswordUnlock (record : VaultSetupWithDecoy)
    (vaultPassword : JsString) : EmergencyUnlockPasswordInput :=
  { record
    password := vaultPassword
    duressSequence := none
    emergencyModeActive := false
    scope := vaultScope demoUserId
    profile := app.vaultProfile
    onEmergencyEntered := some (.ok ())
    operation := none }

/-- Unlocks with the password and reads the payload. -/
def unlockDemoVault (vaultPassword : JsString) : DemoAsync Value :=
  runDemoUnlockAttempt app .password do
    let record ← Async.lift (requireRecord app)
    let _ ← Async.await ((unlockVaultWithPasswordRouting app.platform
      (demoPasswordUnlock app record vaultPassword)).within demoSession)
    decryptUnderSessionKey app record

/-- Unlocks with the phrase and reads the payload. -/
def unlockDemoVaultWithRecoveryPhrase (recoveryPhrase : JsString) :
    DemoAsync Value :=
  runDemoUnlockAttempt app .recoveryPhrase do
    let record ← Async.lift (requireRecord app)
    let envelope ← Async.lift (Sync.ofExcept (parseRecord
      (recoveryPhraseEnvelopeSchema app.platform) record.recoveryEnvelope))
    let vaultKey ← Async.awaitOutcome (unlockWithRecoveryEnvelope app.platform
      recoveryPhrase envelope (vaultScope demoUserId) app.vaultProfile none)
    let page ← Async.lift Sync.get
    let payload ← Async.awaitOutcome (decryptVaultPayloadForSession
      app.platform app.codec page.session.toSessionCore
      (demoDecryption app record vaultKey))
    let _ ← Async.await ((unlockVaultSession vaultKey (some .primary)
      none).within demoSession)
    return payload

/-- The passkey unlock that the demo asks the session for. -/
def demoPasskeyUnlock (record : VaultSetupWithDecoy) (prfOutput : Bytes) :
    EmergencyUnlockPasskeyInput :=
  { record
    prfOutput
    duressSignaled := false
    emergencyModeActive := false
    scope := vaultScope demoUserId
    profile := app.vaultProfile
    onEmergencyEntered := some (.ok ())
    operation := none }

/-- `metadataCredentialId` is the identifier in the metadata of the stored
envelope, when it is a text without blanks around it. -/
def unlockDemoVaultWithPasskey (metadataCredentialId : Option JsString)
    (authenticateDemoPasskey : JsString → Except VaultError Bytes) :
    DemoAsync Value :=
  runDemoUnlockAttempt app .passkeyPrf do
    let stored ← Async.lift (loadVaultRecord app)
    match stored.filter fun record => record.passkeyPrfEnvelope.isSome with
    | none => Async.throw (.error "Passkey unlock is not configured")
    | some record => do
        let saved ← Async.lift
          (DemoStorage.loadPasskeyCredentialId.within demoStorage)
        match (saved.or metadataCredentialId).filter fun credentialId =>
            !credentialId.isEmpty with
        | none => Async.throw (.error
            "No verified passkey credential is linked to this vault")
        | some credentialId => do
            let prfOutput ← Async.awaitOutcome
              (authenticateDemoPasskey credentialId)
            let _ ← Async.await ((unlockVaultWithPasskeyRouting app.platform
              (demoPasskeyUnlock app record prfOutput)).within demoSession)
            decryptUnderSessionKey app record

/-- `none` where the vault is not configured or locked. -/
def loadDecryptedDemoPayload : DemoAsync (Option Value) := do
  match ← Async.lift (loadVaultRecord app) with
  | none => return none
  | some record => do
      match ← Async.lift getSessionVaultKey with
      | none => return none
      | some _ => do
          let payload ← decryptUnderSessionKey app record
          return some payload

/-- The record in which a save puts the new blob. -/
def withSavedBlob (core : SessionCore) (record : VaultSetupWithDecoy)
    (encryptedBlob : EncryptedVaultPayload) : VaultSetupWithDecoy :=
  match core.isVaultEmergencyMode, record.decoy with
  | true, some decoy =>
      { record with decoy := some { decoy with encryptedBlob } }
  | _, _ => { record with encryptedBlob }

/-- Seals a payload under the key of the session and stores it. -/
def saveDemoPayload (iv : Iv) (payload : Value) :
    DemoAsync EncryptedVaultPayload := do
  let record ← Async.lift (requireRecord app)
  let vaultKey ← Async.lift requireVaultKey
  let encryptedBlob ← Async.awaitOutcome (encryptVaultPayload app.platform
    app.codec iv payload vaultKey (vaultScope demoUserId) app.vaultProfile)
  let page ← Async.lift Sync.get
  Async.lift (saveVaultRecord app
    (withSavedBlob page.session.toSessionCore record encryptedBlob))
  return encryptedBlob

end Page

end VaultCore
