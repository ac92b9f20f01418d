import VaultCore.Envelopes.Password
import VaultCore.Envelopes.Recovery
import VaultCore.Envelopes.PasskeyPrf
import VaultCore.Payload.EncryptedPayload

/-!
# Reference envelopes

Envelopes sealed on the reference platform, under the keys it derives from a
secret.
-/

namespace VaultCore

namespace Reference

def keysOf (secret : Bytes) : DerivedKeys := derivedKeys (derive secret)

def vaultKeyAad (scope : VaultScope) (profile : VaultCryptoProfile) :
    VaultAad :=
  aadWithContext (scope.withField .vaultKey) profile

def vaultKeySealing (secret : Bytes) (material : AesKeyMaterial)
    (scope : VaultScope) (profile : VaultCryptoProfile) : Sealing :=
  { key := (keysOf secret).encryptionKey.material
    iv := referenceIv.val
    aad := stringToBytes (canonicalAadString (vaultKeyAad scope profile))
    plaintext := stringToBytes (bytesToBase64Url (wrap material.val)) }

def vaultKeyPayload (ledger : List Sealing) (secret : Bytes)
    (material : AesKeyMaterial) (scope : VaultScope)
    (profile : VaultCryptoProfile) : EncryptedVaultPayload :=
  { version := encryptionVersion
    alg := encryptionAlg
    iv := bytesToBase64Url referenceIv.val
    ciphertext := bytesToBase64Url
      (sealed ledger (vaultKeySealing secret material scope profile))
    aad := vaultKeyAad scope profile }

def salt : Argon2idSalt := ⟨List.replicate 16 0, rfl⟩

def kdfMetadata : Argon2idKdfMetadata :=
  { kdf := argon2idName
    version := .kdfV2
    salt := bytesToBase64Url salt.val
    memory := recommendedArgon2idParams.memory
    iterations := recommendedArgon2idParams.iterations
    parallelism := recommendedArgon2idParams.parallelism }

section

variable {ledger : List Sealing} {secret : Bytes} {material : AesKeyMaterial}
  {scope : VaultScope} {profile : VaultCryptoProfile}

theorem vaultKeyPayload_encrypted :
    encryptInnerVaultKeyBlob (platform ledger) referenceIv
      (wrap material.val) (keysOf secret).encryptionKey scope profile =
        .ok (vaultKeyPayload ledger secret material scope profile) := rfl

theorem vaultKeyPayload_ciphertext :
    (vaultKeyPayload ledger secret material scope profile).ciphertext =
      bytesToBase64Url (sealed ledger
        (vaultKeySealing secret material scope profile)) := by
  simp only [vaultKeyPayload]

/-- The payload opens to its key, in whatever order its record is stored. -/
theorem unwrap_vaultKeyPayload (length : material.val.length ≠ 24)
    {stored : EncryptedVaultPayload}
    (sameIv : stored.iv =
      (vaultKeyPayload ledger secret material scope profile).iv)
    (sameCiphertext : stored.ciphertext =
      (vaultKeyPayload ledger secret material scope profile).ciphertext)
    (sameScope : stored.aad.scope = (vaultKeyAad scope profile).scope) :
    unwrapUserVaultKeyWithDerivedKeys (platform ledger) stored
      (keysOf secret) =
        .ok { algorithm := .aesGcm, material, extractable := false } := by
  have crypto := platform_lawful ledger
  apply unwrapUserVaultKeyWithDerivedKeys_ok_iff.mpr
  refine ⟨wrap material.val, ?_, ?_⟩
  · apply extractInnerVaultKeyBlob_encrypted crypto vaultKeyPayload_encrypted
    · exact @length_wrap_le (platform ledger) (keysOf secret).wrappingKey
        crypto material
    · exact sameIv
    · exact sameCiphertext
    · exact sameScope
  · exact restoreInnerVaultKey_wrap crypto rfl length false

theorem deriveFromMetadata (passwordBytes : Bytes) :
    deriveArgon2idKeyPairFromMetadata (platform ledger) passwordBytes
      kdfMetadata = .ok (keysOf passwordBytes) :=
  deriveArgon2idKeyPairFromMetadata_serialized
    (assertSafeArgon2idSalt_random salt)
    (serializeArgon2idMetadata_eq (assertSafeArgon2idSalt_random salt))

theorem eq_of_open_single {sealing : Sealing} {key : AesKeyMaterial}
    {iv aad plaintext : Bytes}
    (opened : openSealed [sealing] key iv aad (sealed [sealing] sealing) =
      some plaintext) :
    { key, iv, aad, plaintext } = sealing := by
  obtain ⟨-, member⟩ := mem_ledger_of_open List.mem_cons_self opened
  exact List.mem_singleton.mp member

end

private theorem lowerUnit_lowerUnit (unit : UInt16) :
    lowerUnit (lowerUnit unit) = lowerUnit unit := by
  unfold lowerUnit
  split
  · rename_i upper
    have lowered : (unit + 32).toNat = unit.toNat + 32 := by
      rw [UInt16.toNat_add]
      exact Nat.mod_eq_of_lt (by simp; omega)
    rw [if_neg (by omega)]
  · rfl

theorem platform_lowerCaseStable (ledger : List Sealing) :
    (platform ledger).LowerCaseStable := by
  intro text
  have lowered : ∀ unit ∈ joinWords (splitWords (text.map lowerUnit)),
      lowerUnit unit = unit := by
    intro unit member
    rcases mem_joinWords member with space | ⟨word, listed, inside⟩
    · rw [space]
      rfl
    · obtain ⟨original, -, same⟩ :=
        List.mem_map.mp (mem_of_mem_splitWords listed inside)
      rw [← same]
      exact lowerUnit_lowerUnit original
  exact (List.map_congr_left lowered).trans (List.map_id _)

private theorem phrase_words (wordCount : RecoveryPhraseWordCount) :
    phrase (strengthBits wordCount) =
      joinWords (List.replicate wordCount.toNat (js "abandon")) := by
  cases wordCount <;> decide +kernel

theorem platform_generatesMnemonics (ledger : List Sealing) :
    (platform ledger).GeneratesMnemonics := by
  intro wordCount entropy
  refine ⟨List.replicate wordCount.toNat (js "abandon"),
    List.length_replicate, ?_, phrase_words wordCount, ?_, ?_⟩
  · intro word member
    rw [List.eq_of_mem_replicate member]
    have plain : ((js "abandon").all fun unit =>
        isWhitespaceUnit unit == false) = true := by
      decide
    refine ⟨List.cons_ne_nil _ _, ?_⟩
    intro unit inside
    exact beq_iff_eq.mp (List.all_eq_true.mp plain unit inside)
  · rw [← phrase_words]
    change (phrase (strengthBits wordCount)).map lowerUnit = _
    cases wordCount <;> decide +kernel
  · rw [← phrase_words]
    change (phrase (strengthBits wordCount) == phrase 128 ||
      phrase (strengthBits wordCount) == phrase 256) = true
    cases wordCount <;> decide +kernel

def unlockSecret : JsString := js "secret"

def unlockKeys : DerivedKeys := keysOf (stringToBytes unlockSecret)

def soleSealing : Sealing :=
  vaultKeySealing (stringToBytes unlockSecret) (material 7) referenceScope
    referenceProfile

/-- The platform on which one vault key has been sealed. -/
def idealPlatform : Platform := platform [soleSealing]

def sealedVaultKey : EncryptedVaultPayload :=
  vaultKeyPayload [soleSealing] (stringToBytes unlockSecret) (material 7)
    referenceScope referenceProfile

/-- The same vault key, stored without its context. -/
def contextlessVaultKey : EncryptedVaultPayload :=
  { sealedVaultKey with
    aad := { sealedVaultKey.aad with context := .missing } }

def openedVaultKey : CryptoKey :=
  { algorithm := .aesGcm, material := material 7, extractable := false }

private theorem length_material (byte : UInt8) :
    (material byte).val.length = 32 :=
  List.length_replicate

private theorem sealedVaultKey_ciphertext :
    sealedVaultKey.ciphertext =
      bytesToBase64Url (sealed [soleSealing] soleSealing) := by
  simp only [sealedVaultKey, vaultKeyPayload, soleSealing]

private theorem idealPlatform_open :
    idealPlatform.aesGcmOpen = openSealed [soleSealing] := rfl

theorem contextlessVaultKey_ciphertext :
    contextlessVaultKey.ciphertext = sealedVaultKey.ciphertext := by
  simp only [contextlessVaultKey]

theorem sealedVaultKey_opens_once {iv ciphertext : Bytes}
    {key : AesKeyMaterial} {aad plaintext : Bytes}
    (decoded : decodeBoundedBase64Url sealedVaultKey.ciphertext
      maxVaultCiphertextBytes = .ok ciphertext)
    (opened : idealPlatform.aesGcmOpen key iv aad ciphertext =
      some plaintext) :
    key = unlockKeys.encryptionKey.material ∧
      aad = stringToBytes (canonicalAadString sealedVaultKey.aad) := by
  rw [sealedVaultKey_ciphertext] at decoded
  have stored := decodeBoundedBase64Url_bytes decoded
  rw [stored, idealPlatform_open] at opened
  have same : { key, iv, aad, plaintext } = soleSealing :=
    eq_of_open_single opened
  exact ⟨congrArg Sealing.key same, congrArg Sealing.aad same⟩

theorem sealedVaultKey_encrypted :
    encryptField idealPlatform referenceIv
      (bytesToBase64Url (wrap (material 7).val)) unlockKeys.encryptionKey
      (referenceScope.withField .vaultKey) referenceProfile =
        .ok sealedVaultKey := by
  unfold idealPlatform unlockKeys sealedVaultKey
  exact vaultKeyPayload_encrypted

theorem derive_unlockKeys :
    deriveVaultPasswordKeyPairFromMetadata idealPlatform unlockSecret
      kdfMetadata = .ok unlockKeys :=
  deriveFromMetadata _

theorem unwrap_sealedVaultKey {stored : EncryptedVaultPayload}
    (sameIv : stored.iv = sealedVaultKey.iv)
    (sameCiphertext : stored.ciphertext = sealedVaultKey.ciphertext)
    (sameScope : stored.aad.scope = sealedVaultKey.aad.scope) :
    unwrapUserVaultKeyWithDerivedKeys idealPlatform stored unlockKeys =
      .ok openedVaultKey := by
  apply unwrap_vaultKeyPayload
  · rw [length_material]
    decide
  · exact sameIv
  · exact sameCiphertext
  · exact sameScope

theorem unlock_sealedVaultKey :
    unlockWithPasswordEnvelope idealPlatform unlockSecret
      { encryptedVaultKey := sealedVaultKey, kdfMetadata := kdfMetadata }
      referenceScope referenceProfile = .ok openedVaultKey := by
  rw [unlockWithPasswordEnvelope_eq rfl derive_unlockKeys,
    unlockVaultKeyEnvelopeWithAadRouting_canonical rfl]
  exact unwrap_sealedVaultKey rfl rfl rfl

theorem unlock_contextlessVaultKey :
    unlockWithPasswordEnvelope idealPlatform unlockSecret
      { encryptedVaultKey := contextlessVaultKey, kdfMetadata := kdfMetadata }
      referenceScope referenceProfile = .ok openedVaultKey := by
  rw [unlockWithPasswordEnvelope_eq rfl derive_unlockKeys]
  apply unlockVaultKeyEnvelopeWithAadRouting_legacy rfl rfl rfl rfl
  · intro canonical
    cases canonical
  · rfl
  · exact unwrap_sealedVaultKey rfl rfl rfl

end Reference

end VaultCore
