import VaultCore.Emergency.RoutedUnlock
import VaultCore.Envelopes.Reference

/-!
# Reference records with a decoy

On the reference platform the key an envelope opens to can be read off its
ciphertext, whatever secret opens it.  The records below hold one key in the
primary envelopes and another one in the decoy's.
-/

namespace VaultCore

namespace Reference

section

variable {ledger : List Sealing} {secret : Bytes} {material : AesKeyMaterial}
  {scope : VaultScope} {profile : VaultCryptoProfile} {vaultKey : CryptoKey}

/-- The text sealed for a key is read whatever secret opens it. -/
theorem extract_material {stored : EncryptedVaultPayload} {key : CryptoKey}
    {inner : Bytes}
    (sameCiphertext : stored.ciphertext =
      (vaultKeyPayload ledger secret material scope profile).ciphertext)
    (extracted : extractInnerVaultKeyBlob (platform ledger) stored key =
      .ok inner) : inner = wrap material.val := by
  obtain ⟨text, decrypted, decoded⟩ := Outcome.bind_eq_ok_iff.mp extracted
  obtain ⟨iv, ciphertext, aadBytes, plaintext, -, bytes, -, opened, written⟩ :=
    decryptField_sound decrypted
  rw [sameCiphertext, vaultKeyPayload_ciphertext] at bytes
  rw [decodeBoundedBase64Url_bytes bytes] at opened
  have plain : plaintext = stringToBytes (bytesToBase64Url
      (wrap material.val)) := (open_sealed opened).1
  rw [written, plain, bytesToString_base64Url,
    base64UrlToBytes_bytesToBase64Url] at decoded
  exact (Except.ok.inj decoded).symm

/-- Opened under any secret, the sealing of a key gives that key. -/
theorem unwrap_material (long : material.val.length = 32)
    {stored : EncryptedVaultPayload} {keys : DerivedKeys}
    (sameCiphertext : stored.ciphertext =
      (vaultKeyPayload ledger secret material scope profile).ciphertext)
    (unwrapped : unwrapUserVaultKeyWithDerivedKeys (platform ledger) stored
      keys = .ok vaultKey) : vaultKey.material = material := by
  obtain ⟨inner, extracted, restored⟩ :=
    unwrapUserVaultKeyWithDerivedKeys_ok_iff.mp unwrapped
  have wrapped : ¬ isLegacyRawVaultKeyMaterial (wrap material.val) = true := by
    simp [isLegacyRawVaultKeyMaterial, wrap, long]
  rw [extract_material sameCiphertext extracted, restoreInnerVaultKey,
    if_neg wrapped] at restored
  obtain ⟨-, unwrappedMaterial, -⟩ := subtleUnwrapKey_ok restored
  have again : unwrap (wrap material.val) = some vaultKey.material.val :=
    unwrappedMaterial
  rw [unwrap_eq_some_iff.mpr rfl] at again
  exact Subtype.ext (Option.some.inj again).symm

theorem routed_material (long : material.val.length = 32)
    {keys : DerivedKeys} {expectedScope : VaultScope}
    {unlockProfile : VaultCryptoProfile}
    (unlocked : unlockVaultKeyEnvelopeWithAadRouting
      (vaultKeyPayload ledger secret material scope profile) expectedScope
      unlockProfile (fun candidate => unwrapUserVaultKeyWithDerivedKeys
        (platform ledger) candidate keys) = .ok vaultKey) :
    vaultKey.material = material := by
  obtain ⟨candidate, unwrapped, readdressed, -⟩ :=
    unlockVaultKeyEnvelopeWithAadRouting_sound unlocked
  exact unwrap_material long readdressed.ciphertext unwrapped

def passwordEnvelope (ledger : List Sealing) (secret : Bytes)
    (material : AesKeyMaterial) : PasswordEnvelope :=
  { encryptedVaultKey :=
      vaultKeyPayload ledger secret material referenceScope referenceProfile
    kdfMetadata := kdfMetadata }

def passkeyEnvelope (ledger : List Sealing) (prfOutput : Bytes)
    (material : AesKeyMaterial) : PasskeyPrfEnvelope :=
  { encryptedVaultKey := vaultKeyPayload ledger prfOutput material
      referenceScope referenceProfile }

theorem passwordEnvelope_holds (long : material.val.length = 32) :
    HoldsByPassword (platform ledger)
      (passwordEnvelope ledger secret material) material := by
  intro password expectedScope unlockProfile vaultKey unlocked
  obtain ⟨-, derived, -, routed⟩ := unlockWithPasswordEnvelope_ok unlocked
  exact routed_material long routed

theorem passkeyEnvelope_holds (long : material.val.length = 32) :
    HoldsByPasskey (platform ledger) (passkeyEnvelope ledger secret material)
      material := by
  intro prfOutput expectedScope unlockProfile vaultKey unlocked
  obtain ⟨output, -, unwrapped⟩ := unlockWithPasskeyPrfEnvelope_ok unlocked
  obtain ⟨-, derived, -, -, routed⟩ := unwrapVaultKeyFromPasskey_ok unwrapped
  exact routed_material long routed

/-- The handle an envelope opens to. -/
def openedKey (material : AesKeyMaterial) : CryptoKey :=
  { algorithm := .aesGcm, material, extractable := false }

theorem unlock_passwordEnvelope (long : material.val.length = 32)
    (password : JsString) :
    unlockWithPasswordEnvelope (platform ledger) password
      (passwordEnvelope ledger (stringToBytes password) material)
      referenceScope referenceProfile = .ok (openedKey material) := by
  have derived : deriveVaultPasswordKeyPairFromMetadata (platform ledger)
      password kdfMetadata = .ok (keysOf (stringToBytes password)) :=
    deriveFromMetadata _
  have routed := @unlockWithPasswordEnvelope_eq (platform ledger) password
    (passwordEnvelope ledger (stringToBytes password) material)
    referenceScope referenceProfile _ rfl derived
  rw [routed, unlockVaultKeyEnvelopeWithAadRouting_canonical rfl]
  apply unwrap_vaultKeyPayload
  · rw [long]
    decide
  · rfl
  · rfl
  · rfl

theorem import_prf {prfOutput : Bytes} (bound : 32 ≤ prfOutput.length)
    (algorithm : KeyAlgorithm) :
    importPrfAesKey prfOutput algorithm =
      .ok { algorithm, material := (derive prfOutput).material
            extractable := false } := by
  have head : prfOutput.take 32 = (derive prfOutput).material.val := by
    simp only [Bytes32.material, derive]
    rw [List.take_append_of_le_length bound]
  rw [importPrfAesKey, if_neg (not_lt.mpr bound), head, importKey_material]

theorem unlock_passkeyEnvelope (long : material.val.length = 32)
    {prfOutput : Bytes} (bound : 32 ≤ prfOutput.length) :
    unlockWithPasskeyPrfEnvelope (platform ledger)
      (passkeyEnvelope ledger prfOutput material) (some prfOutput)
      referenceScope referenceProfile true = .ok (openedKey material) := by
  obtain ⟨derivedMaterial, gcm, -, same⟩ :=
    @importPrfAesKey_eq (platform ledger) prfOutput bound
  have imported : importPrfAesGcmKey prfOutput =
      .ok (keysOf prfOutput).encryptionKey := import_prf bound .aesGcm
  have keys : derivedKeys derivedMaterial = keysOf prfOutput := by
    rw [gcm] at imported
    have materials : derivedMaterial.material = (derive prfOutput).material :=
      congrArg CryptoKey.material (Except.ok.inj imported)
    have bytes : derivedMaterial.material.val =
        (derive prfOutput).material.val := congrArg Subtype.val materials
    have same : derivedMaterial = derive prfOutput := Subtype.ext bytes
    rw [keysOf, same]
  have unwrapped : unwrapVaultKeyFromPasskey (platform ledger)
      (passkeyEnvelope ledger prfOutput material).encryptedVaultKey prfOutput
      referenceScope referenceProfile false = .ok (openedKey material) := by
    simp only [keys] at gcm same
    simp only [unwrapVaultKeyFromPasskey, if_neg (not_lt.mpr bound), gcm,
      Outcome.ok_bind, same, Bool.false_eq_true, if_false]
    have canonical : (passkeyEnvelope ledger prfOutput
        material).encryptedVaultKey.aad.scope =
        (referenceScope.userId, referenceScope.resourceId, .vaultKey,
          .text referenceProfile.aadContextEnvelope) := rfl
    rw [unlockVaultKeyEnvelopeWithAadRouting_canonical canonical]
    apply unwrap_vaultKeyPayload
    · rw [long]
      decide
    · rfl
    · rfl
    · rfl
  rw [unlockWithPasskeyPrfEnvelope, unwrapped]

def recoveryEnvelope (ledger : List Sealing) (recoveryPhrase : JsString)
    (material : AesKeyMaterial) : RecoveryPhraseEnvelope :=
  { encryptedVaultKey := vaultKeyPayload ledger (stringToBytes recoveryPhrase)
      material referenceScope referenceProfile
    kdfMetadata := kdfMetadata
    publicMetadata := some (phraseLengthMetadata
      RecoveryPhraseWordCount.twentyFour.value) }

/-- An empty payload sealed under a vault key. -/
def emptyBlob (ledger : List Sealing) (material : AesKeyMaterial) :
    EncryptedVaultPayload :=
  { version := encryptionVersion
    alg := encryptionAlg
    iv := bytesToBase64Url referenceIv.val
    ciphertext := bytesToBase64Url (sealed ledger
      { key := material
        iv := referenceIv.val
        aad := stringToBytes (canonicalAadString (aadWithContext
          (referenceScope.withField .vaultPayload) referenceProfile))
        plaintext := stringToBytes (js "\x7b\x7d") })
    aad := aadWithContext (referenceScope.withField .vaultPayload)
      referenceProfile }

end

def duressSecret : JsString := js "duress secret"

def primaryPrf : Bytes := List.replicate 32 5

def decoyPrf : Bytes := List.replicate 32 6

def primaryMaterial : AesKeyMaterial := material 7

def decoyMaterial : AesKeyMaterial := material 9

/-- Every sealing of a vault key in the records below. -/
def emergencyLedger : List Sealing :=
  [vaultKeySealing (stringToBytes unlockSecret) primaryMaterial referenceScope
      referenceProfile,
    vaultKeySealing primaryPrf primaryMaterial referenceScope
      referenceProfile,
    vaultKeySealing (stringToBytes (phrase 256)) primaryMaterial
      referenceScope referenceProfile,
    vaultKeySealing (stringToBytes duressSecret) decoyMaterial referenceScope
      referenceProfile,
    vaultKeySealing decoyPrf decoyMaterial referenceScope referenceProfile,
    vaultKeySealing (stringToBytes (phrase 128)) decoyMaterial referenceScope
      referenceProfile]

def emergencyPlatform : Platform := platform emergencyLedger

def decoyRecord (passkeyPrfEnvelope : Option PasskeyPrfEnvelope) :
    VaultDecoyRecord :=
  { encryptedBlob := emptyBlob emergencyLedger decoyMaterial
    passwordEnvelope := passwordEnvelope emergencyLedger
      (stringToBytes duressSecret) decoyMaterial
    recoveryEnvelope := recoveryEnvelope emergencyLedger (phrase 128)
      decoyMaterial
    passkeyPrfEnvelope }

/-- A record whose decoy has the given passkey envelope. -/
def emergencyRecord (decoyPasskey : Option PasskeyPrfEnvelope) :
    VaultSetupWithDecoy :=
  { encryptedBlob := emptyBlob emergencyLedger primaryMaterial
    passwordEnvelope := passwordEnvelope emergencyLedger
      (stringToBytes unlockSecret) primaryMaterial
    recoveryEnvelope := recoveryEnvelope emergencyLedger (phrase 256)
      primaryMaterial
    passkeyPrfEnvelope := some
      (passkeyEnvelope emergencyLedger primaryPrf primaryMaterial)
    decoy := some (decoyRecord decoyPasskey) }

theorem length_primaryMaterial : primaryMaterial.val.length = 32 :=
  List.length_replicate

theorem length_decoyMaterial : decoyMaterial.val.length = 32 :=
  List.length_replicate

theorem decoyMaterial_ne : decoyMaterial ≠ primaryMaterial := by
  decide

end Reference

end VaultCore
