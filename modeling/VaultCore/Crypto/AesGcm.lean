import VaultCore.Crypto.Platform
import VaultCore.Data.Outcome
import VaultCore.Profile

/-!
# Encrypted fields

`encryptField` seals a text under the canonical serialization of its scope.
`decryptField` reads both binary fields within their bounds and tries every
candidate serialization of the stored record; only the reading side bounds
the size.
-/

namespace VaultCore

def encryptionVersion : JsString := js "enc-v1"

def encryptionAlg : JsString := js "AES-GCM"

/-- A sealed field with its associated data. -/
structure EncryptedVaultPayload where
  version : JsString
  alg : JsString
  iv : JsString
  ciphertext : JsString
  aad : VaultAad
deriving DecidableEq

/-- An initialization vector drawn from the random generator. -/
abbrev Iv := { bytes : Bytes // bytes.length = maxVaultIvBytes }

/-- The record `{ ...aad, context }` that is authenticated and stored. -/
def aadWithContext (scope : VaultAadScope) (profile : VaultCryptoProfile) :
    VaultAad :=
  { userId := scope.userId
    resourceId := scope.resourceId
    field := scope.field
    context := .text (resolveAadContext scope profile)
    order := scope.order }

/-- Seals a text under the canonical text of its scope. -/
def encryptField (platform : Platform) (iv : Iv) (plaintext : JsString)
    (key : CryptoKey) (scope : VaultAadScope) (profile : VaultCryptoProfile) :
    Except VaultError EncryptedVaultPayload := do
  let aad := aadWithContext scope profile
  let aadBytes := stringToBytes (canonicalAadString aad)
  let ciphertext ← subtleEncrypt platform key iv.val aadBytes
    (stringToBytes plaintext)
  return {
    version := encryptionVersion
    alg := encryptionAlg
    iv := bytesToBase64Url iv.val
    ciphertext := bytesToBase64Url ciphertext
    aad := aad }

/-- Tries the candidates of the stored record until one opens. -/
def decryptField (platform : Platform) (payload : EncryptedVaultPayload)
    (key : CryptoKey) : Except VaultError JsString := do
  let iv ← decodeBoundedBase64Url payload.iv maxVaultIvBytes
  let ciphertext ← decodeBoundedBase64Url payload.ciphertext
    maxVaultCiphertextBytes
  Outcome.firstSuccess
    (fun aadBytes => do
      let plaintext ← subtleDecrypt platform key iv aadBytes ciphertext
      return bytesToString plaintext)
    (aadByteCandidates payload.aad) (.error "Decryption failed")

section

variable {platform : Platform} {key : CryptoKey}

/-- What a successful encryption stores. -/
theorem encryptField_ok {iv : Iv} {plaintext : JsString}
    {scope : VaultAadScope} {profile : VaultCryptoProfile}
    {payload : EncryptedVaultPayload}
    (encrypted : encryptField platform iv plaintext key scope profile =
      .ok payload) :
    key.algorithm = .aesGcm ∧
      payload =
        { version := encryptionVersion
          alg := encryptionAlg
          iv := bytesToBase64Url iv.val
          ciphertext := bytesToBase64Url
            (platform.aesGcmSeal key.material iv.val
              (stringToBytes (canonicalAadString (aadWithContext scope profile)))
              (stringToBytes plaintext))
          aad := aadWithContext scope profile } := by
  unfold encryptField at encrypted
  obtain ⟨ciphertext, sealed, built⟩ := Outcome.bind_eq_ok_iff.mp encrypted
  unfold subtleEncrypt at sealed
  cases algorithm : key.algorithm with
  | aesKw =>
      rw [algorithm] at sealed
      cases sealed
  | aesGcm =>
      rw [algorithm] at sealed
      cases sealed
      cases built
      exact ⟨rfl, rfl⟩

theorem encryptField_of_aesGcm {iv : Iv} {plaintext : JsString}
    {scope : VaultAadScope} {profile : VaultCryptoProfile}
    (algorithm : key.algorithm = .aesGcm) :
    ∃ payload, encryptField platform iv plaintext key scope profile =
      .ok payload := by
  unfold encryptField subtleEncrypt
  rw [algorithm]
  exact ⟨_, rfl⟩

/-- A successful decryption opened the stored ciphertext under one of the
candidate serializations. -/
theorem decryptField_sound {payload : EncryptedVaultPayload}
    {text : JsString} (decrypted : decryptField platform payload key = .ok text) :
    ∃ iv ciphertext aadBytes plaintext,
      decodeBoundedBase64Url payload.iv maxVaultIvBytes = .ok iv ∧
      decodeBoundedBase64Url payload.ciphertext maxVaultCiphertextBytes =
        .ok ciphertext ∧
      aadBytes ∈ aadByteCandidates payload.aad ∧
      platform.aesGcmOpen key.material iv aadBytes ciphertext =
        some plaintext ∧
      text = bytesToString plaintext := by
  unfold decryptField at decrypted
  obtain ⟨iv, ivDecoded, rest⟩ := Outcome.bind_eq_ok_iff.mp decrypted
  obtain ⟨ciphertext, decoded, search⟩ := Outcome.bind_eq_ok_iff.mp rest
  obtain ⟨aadBytes, member, opened⟩ := Outcome.firstSuccess_sound search
  obtain ⟨plaintext, subtle, written⟩ := Outcome.bind_eq_ok_iff.mp opened
  refine ⟨iv, ciphertext, aadBytes, plaintext, ivDecoded, decoded, member,
    ?_, ?_⟩
  · unfold subtleDecrypt at subtle
    split at subtle
    · cases subtle
    · split at subtle
      · cases subtle
        assumption
      · cases subtle
  · cases written
    rfl

theorem decryptField_algorithm {payload : EncryptedVaultPayload}
    {text : JsString} (decrypted : decryptField platform payload key = .ok text) :
    key.algorithm = .aesGcm := by
  unfold decryptField at decrypted
  obtain ⟨iv, -, rest⟩ := Outcome.bind_eq_ok_iff.mp decrypted
  obtain ⟨ciphertext, -, search⟩ := Outcome.bind_eq_ok_iff.mp rest
  obtain ⟨aadBytes, -, opened⟩ := Outcome.firstSuccess_sound search
  obtain ⟨plaintext, subtle, -⟩ := Outcome.bind_eq_ok_iff.mp opened
  unfold subtleDecrypt at subtle
  cases algorithm : key.algorithm with
  | aesGcm => rfl
  | aesKw =>
      rw [algorithm] at subtle
      cases subtle

private theorem decryptField_search {payload : EncryptedVaultPayload}
    {iv ciphertext : Bytes}
    (ivDecoded : decodeBoundedBase64Url payload.iv maxVaultIvBytes = .ok iv)
    (decoded : decodeBoundedBase64Url payload.ciphertext
      maxVaultCiphertextBytes = .ok ciphertext) :
    decryptField platform payload key =
      Outcome.firstSuccess
        (fun aadBytes => do
          let plaintext ← subtleDecrypt platform key iv aadBytes ciphertext
          return bytesToString plaintext)
        (aadByteCandidates payload.aad) (.error "Decryption failed") := by
  simp only [decryptField, ivDecoded, decoded, Outcome.ok_bind]

private theorem candidates_head (aad : VaultAad) :
    ∃ rest, aadByteCandidates aad =
      stringToBytes (canonicalAadString aad) :: rest := by
  unfold aadByteCandidates
  rw [List.eraseDups_cons]
  exact ⟨_, rfl⟩

theorem decryptField_canonical {payload : EncryptedVaultPayload}
    {iv ciphertext plaintext : Bytes}
    (algorithm : key.algorithm = .aesGcm)
    (ivDecoded : decodeBoundedBase64Url payload.iv maxVaultIvBytes = .ok iv)
    (decoded : decodeBoundedBase64Url payload.ciphertext
      maxVaultCiphertextBytes = .ok ciphertext)
    (opened : platform.aesGcmOpen key.material iv
      (stringToBytes (canonicalAadString payload.aad)) ciphertext =
        some plaintext) :
    decryptField platform payload key = .ok (bytesToString plaintext) := by
  obtain ⟨rest, head⟩ := candidates_head payload.aad
  rw [decryptField_search ivDecoded decoded, head]
  apply Outcome.firstSuccess_head
  simp only [subtleDecrypt, algorithm, opened]
  rfl

/-- When one authenticated record is the only one the ciphertext opens under,
decryption succeeds exactly when that record is among the candidates. -/
theorem decryptField_iff_of_unique {payload : EncryptedVaultPayload}
    {iv ciphertext aadBytes plaintext : Bytes}
    (algorithm : key.algorithm = .aesGcm)
    (ivDecoded : decodeBoundedBase64Url payload.iv maxVaultIvBytes = .ok iv)
    (decoded : decodeBoundedBase64Url payload.ciphertext
      maxVaultCiphertextBytes = .ok ciphertext)
    (opened : platform.aesGcmOpen key.material iv aadBytes ciphertext =
      some plaintext)
    (unique : ∀ otherAad otherPlaintext,
      platform.aesGcmOpen key.material iv otherAad ciphertext =
        some otherPlaintext → otherAad = aadBytes) :
    (∃ text, decryptField platform payload key = .ok text) ↔
      aadBytes ∈ aadByteCandidates payload.aad := by
  constructor
  · rintro ⟨text, decrypted⟩
    obtain ⟨otherIv, otherCiphertext, otherAad, otherPlaintext, ivAgain,
      again, member, otherOpened, -⟩ := decryptField_sound decrypted
    rw [ivDecoded] at ivAgain
    rw [decoded] at again
    cases ivAgain
    cases again
    rw [← unique otherAad otherPlaintext otherOpened]
    exact member
  · intro member
    refine ⟨bytesToString plaintext, ?_⟩
    rw [decryptField_search ivDecoded decoded]
    apply (Outcome.firstSuccess_eq_ok_iff ?_).mpr
    · refine ⟨aadBytes, member, ?_⟩
      simp only [subtleDecrypt, algorithm, opened]
      rfl
    · intro candidate _ other success
      simp only [subtleDecrypt, algorithm] at success
      cases tried : platform.aesGcmOpen key.material iv candidate ciphertext with
      | none =>
          rw [tried] at success
          cases success
      | some found =>
          have same := unique candidate found tried
          rw [same, opened] at tried
          cases tried
          rw [same, opened] at success
          cases success
          rfl

/-- Under this key the stored ciphertext opens for one authenticated byte
string only. -/
def AuthenticatedAs (platform : Platform) (payload : EncryptedVaultPayload)
    (key : CryptoKey) (aadBytes : Bytes) : Prop :=
  ∀ iv ciphertext other plaintext,
    decodeBoundedBase64Url payload.iv maxVaultIvBytes = .ok iv →
    decodeBoundedBase64Url payload.ciphertext maxVaultCiphertextBytes =
      .ok ciphertext →
    platform.aesGcmOpen key.material iv other ciphertext = some plaintext →
    other = aadBytes

/-- Two records of one authenticated ciphertext: when one of them decrypts,
the other decrypts to the same text exactly when the authenticated bytes are
among its candidates, and otherwise not at all. -/
theorem decryptField_iff_of_authenticated
    {payload opened : EncryptedVaultPayload} {aadBytes : Bytes}
    {text : JsString} (sameIv : payload.iv = opened.iv)
    (sameCiphertext : payload.ciphertext = opened.ciphertext)
    (authentic : AuthenticatedAs platform opened key aadBytes)
    (decrypted : decryptField platform opened key = .ok text) :
    (∀ other, decryptField platform payload key = .ok other → other = text) ∧
      (decryptField platform payload key = .ok text ↔
        aadBytes ∈ aadByteCandidates payload.aad) := by
  obtain ⟨iv, ciphertext, openedAad, plaintext, ivDecoded, decoded, -, found,
    written⟩ := decryptField_sound decrypted
  have algorithm := decryptField_algorithm decrypted
  have sealing := authentic iv ciphertext openedAad plaintext ivDecoded decoded
    found
  rw [sealing] at found
  have unique : ∀ otherAad otherPlaintext,
      platform.aesGcmOpen key.material iv otherAad ciphertext =
        some otherPlaintext → otherAad = aadBytes := by
    intro otherAad otherPlaintext otherFound
    exact authentic iv ciphertext otherAad otherPlaintext ivDecoded decoded
      otherFound
  rw [← sameIv] at ivDecoded
  rw [← sameCiphertext] at decoded
  have agrees : ∀ other, decryptField platform payload key = .ok other →
      other = text := by
    intro other otherDecrypted
    obtain ⟨otherIv, otherCiphertext, otherAad, otherPlaintext, otherIvDecoded,
      otherDecoded, -, otherFound, otherWritten⟩ :=
      decryptField_sound otherDecrypted
    rw [ivDecoded] at otherIvDecoded
    rw [decoded] at otherDecoded
    cases otherIvDecoded
    cases otherDecoded
    have same := unique otherAad otherPlaintext otherFound
    rw [same, found] at otherFound
    cases otherFound
    rw [otherWritten, written]
  refine ⟨agrees, ?_⟩
  rw [← decryptField_iff_of_unique algorithm ivDecoded decoded found unique]
  constructor
  · intro success
    exact ⟨text, success⟩
  · rintro ⟨other, success⟩
    rw [success, agrees other success]

/-- The longest text whose ciphertext is within the reader's bound. -/
def maxVaultPlaintextBytes : Nat := 64 * 1024

section RoundTrip

variable {iv : Iv} {plaintext : JsString} {sealingKey : CryptoKey}
  {scope : VaultAadScope} {profile : VaultCryptoProfile}
  {payload : EncryptedVaultPayload}

private theorem decode_iv
    (encrypted : encryptField platform iv plaintext sealingKey scope profile =
      .ok payload) :
    decodeBoundedBase64Url payload.iv maxVaultIvBytes = .ok iv.val := by
  rw [(encryptField_ok encrypted).2]
  exact decodeBoundedBase64Url_of_le (le_of_eq iv.property)

/-- Within the bound, the bytes sealed under the canonical serialization of
the stored record are opened and decoded. -/
theorem decryptField_sealed (crypto : platform.Lawful)
    (algorithm : key.algorithm = .aesGcm)
    (storedIv : payload.iv = bytesToBase64Url iv.val)
    (storedCiphertext : payload.ciphertext = bytesToBase64Url
      (platform.aesGcmSeal key.material iv.val
        (stringToBytes (canonicalAadString payload.aad))
        (stringToBytes plaintext)))
    (within : (stringToBytes plaintext).length ≤ maxVaultPlaintextBytes) :
    decryptField platform payload key =
      .ok (bytesToString (stringToBytes plaintext)) := by
  have ivDecoded : decodeBoundedBase64Url payload.iv maxVaultIvBytes =
      .ok iv.val := by
    rw [storedIv]
    exact decodeBoundedBase64Url_of_le (le_of_eq iv.property)
  have decoded : decodeBoundedBase64Url payload.ciphertext
      maxVaultCiphertextBytes = .ok (platform.aesGcmSeal key.material
        iv.val (stringToBytes (canonicalAadString payload.aad))
        (stringToBytes plaintext)) := by
    rw [storedCiphertext]
    apply decodeBoundedBase64Url_of_le
    rw [crypto.length_seal]
    exact Nat.add_le_add_right within 16
  have opened := crypto.open_seal key.material iv.val
    (stringToBytes (canonicalAadString payload.aad))
    (stringToBytes plaintext)
  exact decryptField_canonical algorithm ivDecoded decoded opened

/-- Within the bound, an encrypted text is read back under any handle of its
key, in whatever order the keys of its record were stored. -/
theorem decryptField_encryptField (crypto : platform.Lawful)
    (encrypted : encryptField platform iv plaintext sealingKey scope profile =
      .ok payload)
    (algorithm : key.algorithm = .aesGcm)
    (material : key.material = sealingKey.material)
    (readable : bytesToString (stringToBytes plaintext) = plaintext)
    (within : (stringToBytes plaintext).length ≤ maxVaultPlaintextBytes)
    {stored : EncryptedVaultPayload} (sameIv : stored.iv = payload.iv)
    (sameCiphertext : stored.ciphertext = payload.ciphertext)
    (sameScope : stored.aad.scope = payload.aad.scope) :
    decryptField platform stored key = .ok plaintext := by
  have written := (encryptField_ok encrypted).2
  have canonical := canonicalAadString_eq_of_scope sameScope
  have decrypted : decryptField platform stored key =
      .ok (bytesToString (stringToBytes plaintext)) := by
    apply decryptField_sealed crypto algorithm
    · rw [sameIv, written]
    · rw [sameCiphertext, canonical, material, written]
    · exact within
  rw [decrypted, readable]

/-- Beyond the bound no key reads the text back. -/
theorem decryptField_oversized (crypto : platform.Lawful)
    (encrypted : encryptField platform iv plaintext sealingKey scope profile =
      .ok payload)
    (beyond : maxVaultPlaintextBytes < (stringToBytes plaintext).length)
    (key : CryptoKey) :
    ∃ message, decryptField platform payload key =
      .error (.vaultPayloadSizeError message) := by
  have stored := (encryptField_ok encrypted).2
  have long : maxVaultCiphertextBytes < (platform.aesGcmSeal
      sealingKey.material iv.val
      (stringToBytes (canonicalAadString (aadWithContext scope profile)))
      (stringToBytes plaintext)).length := by
    rw [crypto.length_seal]
    exact Nat.add_lt_add_right beyond 16
  obtain ⟨message, refused⟩ := decodeBoundedBase64Url_of_gt long
  refine ⟨message, ?_⟩
  have decoded : decodeBoundedBase64Url payload.ciphertext
      maxVaultCiphertextBytes = .error (.vaultPayloadSizeError message) := by
    rw [stored]
    exact refused
  simp only [decryptField, decode_iv encrypted, decoded, Outcome.ok_bind,
    Outcome.error_bind]

end RoundTrip

end

end VaultCore
