import VaultCore.Rotation.Authorization
import VaultCore.Envelopes.Recovery

/-!
# Recovery phrase rotation
-/

namespace VaultCore

/-- The heading of a recovery kit. -/
structure RecoveryKit where
  productName : JsString
  createdAt : JsString

/-- What a change of the recovery phrase is given. -/
structure RotateRecoveryPhraseOptions where
  vaultKey : CryptoKey
  authorization : VaultRotationAuthorization
  scope : VaultScope
  profile : VaultCryptoProfile
  newRecoveryPhrase : Option JsString := none
  wordCount : Option RecoveryPhraseWordCount := none
  confirmNewRecoveryPhrase : Option JsString := none
  /-- The product name, with the time of the call. -/
  recoveryKit : Option RecoveryKit := none

/-- The new envelope with its phrase, and a kit to keep. -/
structure RotateRecoveryPhraseResult where
  envelope : RecoveryPhraseEnvelope
  recoveryPhrase : JsString
  recoveryKitText : Option JsString
  replacedKdfVersion : Option KdfVersion

/-- What an upgrade after an unlock is given. -/
structure MaybeUpgradeRecoveryEnvelopeOptions where
  vaultKey : CryptoKey
  recoveryPhrase : JsString
  envelope : RecoveryPhraseEnvelope
  scope : VaultScope
  profile : VaultCryptoProfile
  expectedWordCount : Option RecoveryPhraseWordCount := none

/-- The upgraded envelope, when an upgrade was recommended. -/
structure MaybeUpgradeRecoveryEnvelopeResult where
  upgradedEnvelope : Option RecoveryPhraseEnvelope
  upgradeRecommended : Bool

def lineFeed : JsString := [10]

def createRecoveryKitText (kit : RecoveryKit) (recoveryPhrase : JsString)
    (wordCount : RecoveryPhraseWordCount) : JsString :=
  lineFeed.intercalate
    [kit.productName ++ js " Vault Recovery Kit", [],
      js "Recovery phrase type: " ++ js (toString wordCount.toNat) ++
        js "-word recovery phrase",
      js "Created: " ++ kit.createdAt,
      js "Product: " ++ kit.productName, [],
      js "Recovery phrase:", recoveryPhrase, [],
      js "Important:",
      js "- Store this offline in a safe place.",
      js "- Anyone with this phrase may be able to unlock your " ++
        kit.productName ++ js " vault.",
      js "- " ++ kit.productName ++ js " cannot recover your vault if you " ++
        js "lose both your vault password and this phrase.",
      js "- This recovery phrase was generated in your browser and should " ++
        js "never be shared.", []]

section

variable (platform : Platform)

/-- The keys that open the authorizing envelope. -/
def authorizationKeys (authorization : VaultRotationAuthorization) :
    Except VaultError (EncryptedVaultPayload × DerivedKeys) :=
  match authorization with
  | .password currentPassword passwordEnvelope => do
      let derivedKeys ← deriveVaultPasswordKeyPairFromMetadata platform
        currentPassword passwordEnvelope.kdfMetadata
      return (passwordEnvelope.encryptedVaultKey, derivedKeys)
  | .passkeyPrf prfOutput passkeyEnvelope => do
      let encryptionKey ← importPrfAesGcmKey prfOutput
      let wrappingKey ← importPrfAesKwKey prfOutput
      return (passkeyEnvelope.encryptedVaultKey, { encryptionKey, wrappingKey })

/-- A new phrase is valid, of its length, and confirmed. -/
def assertNewRecoveryPhrase (normalized : JsString)
    (wordCount : RecoveryPhraseWordCount)
    (confirmNewRecoveryPhrase : Option JsString) : Except VaultError Unit :=
  if !validateRecoveryPhraseFormat platform normalized then
    .error (.vaultAuthorizationError "New recovery phrase is not valid")
  else
    let actualCount := getRecoveryPhraseWordCount platform normalized
    if actualCount ≠ some wordCount then
      let received :=
        match actualCount with
        | some count => toString count.toNat
        | none => "invalid input"
      .error (.vaultAuthorizationError ("Expected a " ++
        toString wordCount.toNat ++ "-word recovery phrase, received " ++
        received))
    else
      match confirmNewRecoveryPhrase with
      | none => .ok ()
      | some confirmation =>
          assertRecoveryPhraseConfirmation platform normalized confirmation

/-- Seal the vault key under a new phrase, once the authorization opens it. -/
def rotateRecoveryPhrase (iv : Iv) (salt : Argon2idSalt) (entropy : Bytes)
    (options : RotateRecoveryPhraseOptions) :
    Except VaultError RotateRecoveryPhraseResult := do
  assertVaultRotationAuthorized platform options.vaultKey
    options.authorization options.scope options.profile
  let wordCount := options.wordCount.getD .twentyFour
  let recoveryPhrase := options.newRecoveryPhrase.getD
    (createRecoveryPhrase platform wordCount entropy)
  let normalized := normalizeRecoveryPhrase platform recoveryPhrase
  assertNewRecoveryPhrase platform normalized wordCount
    options.confirmNewRecoveryPhrase
  let (recoveryKeys, recoveryKdfMetadata) ← deriveRecoveryPhraseKey platform
    normalized salt.val
  let recoverySalt ← base64UrlToBytes recoveryKdfMetadata.salt
  let (encryptedVaultKey, derivedKeys) ← authorizationKeys platform
    options.authorization
  let inner ← extractInnerVaultKeyBlob platform encryptedVaultKey
    derivedKeys.encryptionKey
  let innerVaultKeyBlob ← rewrapInnerVaultKeyMaterialForWrappingKeys platform
    inner derivedKeys.wrappingKey recoveryKeys.wrappingKey options.vaultKey
  let envelope ← createRecoveryEnvelope platform iv options.vaultKey
    normalized options.scope options.profile (some wordCount) recoverySalt
    (some innerVaultKeyBlob)
  return {
    envelope
    recoveryPhrase := normalized
    recoveryKitText := options.recoveryKit.map fun kit =>
      createRecoveryKitText kit normalized wordCount
    replacedKdfVersion := none }

/-- Derive the envelope anew when its parameters are too weak. -/
def maybeUpgradeRecoveryEnvelopeAfterUnlock (iv : Iv) (salt : Argon2idSalt)
    (options : MaybeUpgradeRecoveryEnvelopeOptions) :
    Except VaultError MaybeUpgradeRecoveryEnvelopeResult :=
  if !isEnvelopeKdfUpgradeRecommended options.envelope.kdfMetadata then
    .ok { upgradedEnvelope := none, upgradeRecommended := false }
  else do
    let unlockedKey ← unlockWithRecoveryEnvelope platform
      options.recoveryPhrase options.envelope options.scope options.profile
      options.expectedWordCount
    assertSameVaultKey platform options.vaultKey unlockedKey
      "Vault key mismatch during recovery envelope upgrade"
    let phraseLength :=
      (((options.expectedWordCount.map RecoveryPhraseWordCount.value).or
        (presentMember options.envelope.publicMetadata
          (js "phraseLength"))).or
        ((getRecoveryPhraseWordCount platform options.recoveryPhrase).map
          RecoveryPhraseWordCount.value)).getD
        RecoveryPhraseWordCount.twentyFour.value
    let oldDerivedKeys ← deriveRecoveryPhraseKeyFromMetadata platform
      options.recoveryPhrase options.envelope.kdfMetadata
    let (newDerivedKeys, metadata) ← deriveRecoveryPhraseKey platform
      options.recoveryPhrase salt.val
    let encryptedVaultKey ← rewrapEncryptedVaultKeyForDerivedKeys platform iv
      options.envelope.encryptedVaultKey oldDerivedKeys newDerivedKeys
      options.vaultKey options.scope options.profile
    return {
      upgradedEnvelope := some {
        encryptedVaultKey
        kdfMetadata := metadata
        publicMetadata := some (phraseLengthMetadata phraseLength) }
      upgradeRecommended := true }

end

end VaultCore
