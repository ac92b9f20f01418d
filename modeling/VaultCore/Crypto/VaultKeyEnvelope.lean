import VaultCore.Keys.UserVaultKey
import VaultCore.Kdf.Argon2id

/-!
# Vault key envelopes

An envelope seals an inner blob as an encrypted field.  The blob is the vault
key under AES-KW, or in older envelopes the 32 raw bytes of the key.  Opening
restores a non-extractable handle; re-wrapping restores an extractable one for
the time of the wrap and compares it with the session key.
-/

namespace VaultCore

/-- Old envelopes hold the vault key itself. -/
def isLegacyRawVaultKeyMaterial (bytes : Bytes) : Bool := bytes.length == 32

/-- A user vault key from its bytes. -/
def importUserVaultAesKey (rawKey : Bytes) (extractable : Bool) :
    Except VaultError CryptoKey :=
  importKey .aesGcm rawKey extractable

/-- The first 32 bytes of a PRF output, imported for one of the two uses. -/
def importPrfAesKey (prfOutput : Bytes) (algorithm : KeyAlgorithm) :
    Except VaultError CryptoKey :=
  if prfOutput.length < 32 then
    .error (.error "PRF output must be a Uint8Array with at least 32 bytes")
  else importKey algorithm (prfOutput.take 32) false

/-- The key that a PRF output encrypts with. -/
def importPrfAesGcmKey (prfOutput : Bytes) : Except VaultError CryptoKey :=
  importPrfAesKey prfOutput .aesGcm

/-- The key that a PRF output wraps with. -/
def importPrfAesKwKey (prfOutput : Bytes) : Except VaultError CryptoKey :=
  importPrfAesKey prfOutput .aesKw

section Operations

variable (platform : Platform)

/-- The vault key an inner blob holds. -/
def restoreInnerVaultKey (inner : Bytes) (wrappingKey : CryptoKey)
    (extractable : Bool) : Except VaultError CryptoKey :=
  if isLegacyRawVaultKeyMaterial inner then
    importUserVaultAesKey inner extractable
  else subtleUnwrapKey platform inner wrappingKey extractable

/-- The blob unwraps to a key that does the same as the vault key. -/
def assertInnerVaultKeyBlobMatchesVaultKey (inner : Bytes)
    (vaultKey wrappingKey : CryptoKey) : Except VaultError Unit := do
  let uvkFromInner ← restoreInnerVaultKey platform inner wrappingKey false
  let equal ← userVaultKeysEqual platform uvkFromInner vaultKey
  if equal then return ()
  else throw (.vaultAuthorizationError
    "Inner vault key blob does not match the session vault key")

/-- The blob that the caller has, checked, or a new one of an extractable
key. -/
def materializeInnerVaultKeyBlob (vaultKey wrappingKey : CryptoKey)
    (innerVaultKeyBlob : Option Bytes) : Except VaultError Bytes :=
  match innerVaultKeyBlob with
  | some inner => do
      assertInnerVaultKeyBlobMatchesVaultKey platform inner vaultKey
        wrappingKey
      return inner
  | none =>
      match subtleWrapKey platform vaultKey wrappingKey with
      | .ok inner => .ok inner
      | .error _ => .error (.vaultKeyNotExtractableError
          ("Cannot wrap a non-extractable vault key. Re-wrap using " ++
            "innerVaultKeyBlob from the current envelope, or create the " ++
            "first envelope immediately after createUserVaultKey()."))

/-- The blob inside an envelope. -/
def extractInnerVaultKeyBlob (encryptedVaultKey : EncryptedVaultPayload)
    (encryptionKey : CryptoKey) : Except VaultError Bytes := do
  let text ← decryptField platform encryptedVaultKey encryptionKey
  base64UrlToBytes text

/-- Seals the inner blob, as a text, for its scope. -/
def encryptInnerVaultKeyBlob (iv : Iv) (inner : Bytes)
    (encryptionKey : CryptoKey) (scope : VaultScope)
    (profile : VaultCryptoProfile) : Except VaultError EncryptedVaultPayload :=
  encryptField platform iv (bytesToBase64Url inner) encryptionKey
    (scope.withField .vaultKey) profile

/-- The vault key wrapped by one derived key and sealed by the other. -/
def wrapUserVaultKeyWithDerivedKeys (iv : Iv) (vaultKey : CryptoKey)
    (derivedKeys : DerivedKeys) (scope : VaultScope)
    (profile : VaultCryptoProfile) (innerVaultKeyBlob : Option Bytes) :
    Except VaultError EncryptedVaultPayload := do
  let inner ← materializeInnerVaultKeyBlob platform vaultKey
    derivedKeys.wrappingKey innerVaultKeyBlob
  encryptInnerVaultKeyBlob platform iv inner derivedKeys.encryptionKey scope
    profile

/-- The vault key with the inner blob it was unwrapped from. -/
def unwrapUserVaultKeyWithDerivedKeysAndInnerMaterial
    (encryptedVaultKey : EncryptedVaultPayload) (derivedKeys : DerivedKeys) :
    Except VaultError (CryptoKey × Bytes) := do
  let inner ← extractInnerVaultKeyBlob platform encryptedVaultKey
    derivedKeys.encryptionKey
  let vaultKey ← restoreInnerVaultKey platform inner derivedKeys.wrappingKey
    false
  return (vaultKey, inner)

def unwrapUserVaultKeyWithDerivedKeys
    (encryptedVaultKey : EncryptedVaultPayload) (derivedKeys : DerivedKeys) :
    Except VaultError CryptoKey := do
  let unwrapped ← unwrapUserVaultKeyWithDerivedKeysAndInnerMaterial platform
    encryptedVaultKey derivedKeys
  return unwrapped.1

/-- The inner blob under another wrapping key, checked against the key of the
session. -/
def rewrapInnerVaultKeyMaterialForWrappingKeys (inner : Bytes)
    (oldWrappingKey newWrappingKey sessionVaultKey : CryptoKey) :
    Except VaultError Bytes := do
  let uvkForRewrap ← restoreInnerVaultKey platform inner oldWrappingKey true
  let equal ← userVaultKeysEqual platform uvkForRewrap sessionVaultKey
  if equal then subtleWrapKey platform uvkForRewrap newWrappingKey
  else throw (.vaultAuthorizationError
    "Vault key mismatch during envelope re-wrap")

/-- The envelope under other derived keys. -/
def rewrapEncryptedVaultKeyForDerivedKeys (iv : Iv)
    (encryptedVaultKey : EncryptedVaultPayload)
    (oldDerivedKeys newDerivedKeys : DerivedKeys)
    (sessionVaultKey : CryptoKey) (scope : VaultScope)
    (profile : VaultCryptoProfile) :
    Except VaultError EncryptedVaultPayload := do
  let inner ← extractInnerVaultKeyBlob platform encryptedVaultKey
    oldDerivedKeys.encryptionKey
  let rewrappedInner ← rewrapInnerVaultKeyMaterialForWrappingKeys platform
    inner oldDerivedKeys.wrappingKey newDerivedKeys.wrappingKey
    sessionVaultKey
  encryptInnerVaultKeyBlob platform iv rewrappedInner
    newDerivedKeys.encryptionKey scope profile

/-- The vault key under the two keys of a PRF output. -/
def wrapUserVaultKeyWithPrfOutput (iv : Iv) (vaultKey : CryptoKey)
    (prfOutput : Bytes) (scope : VaultScope) (profile : VaultCryptoProfile)
    (prfEncryptionKey : CryptoKey) (innerVaultKeyBlob : Option Bytes) :
    Except VaultError EncryptedVaultPayload := do
  let wrappingKey ← importPrfAesKwKey prfOutput
  let inner ← materializeInnerVaultKeyBlob platform vaultKey wrappingKey
    innerVaultKeyBlob
  encryptInnerVaultKeyBlob platform iv inner prfEncryptionKey scope profile

/-- The vault key from under the two keys of a PRF output. -/
def unwrapUserVaultKeyWithPrfOutput
    (encryptedVaultKey : EncryptedVaultPayload) (prfOutput : Bytes)
    (prfEncryptionKey : CryptoKey) : Except VaultError CryptoKey := do
  let inner ← extractInnerVaultKeyBlob platform encryptedVaultKey
    prfEncryptionKey
  if isLegacyRawVaultKeyMaterial inner then importUserVaultAesKey inner false
  else
    let wrappingKey ← importPrfAesKwKey prfOutput
    subtleUnwrapKey platform inner wrappingKey false

end Operations

section

variable {platform : Platform} {inner : Bytes}
  {key sessionVaultKey wrappingKey newWrappingKey encryptionKey : CryptoKey}
  {extractable : Bool}

/-- A restored handle is an AES-GCM key, and the blob restores the same key
with any extractability. -/
theorem restoreInnerVaultKey_ok
    (restored : restoreInnerVaultKey platform inner wrappingKey extractable =
      .ok key) :
    key.algorithm = .aesGcm ∧ key.extractable = extractable ∧
      ∀ other, restoreInnerVaultKey platform inner wrappingKey other =
        .ok { key with extractable := other } := by
  unfold restoreInnerVaultKey at restored ⊢
  split at restored
  · rename_i legacy
    obtain ⟨material, algorithm, exportable⟩ := importKey_ok restored
    refine ⟨algorithm, exportable, ?_⟩
    intro other
    rw [if_pos legacy, importUserVaultAesKey, ← material,
      importKey_material, ← algorithm]
  · rename_i wrapped
    obtain ⟨unwrapping, opened, algorithm, exportable⟩ :=
      subtleUnwrapKey_ok restored
    refine ⟨algorithm, exportable, ?_⟩
    intro other
    rw [if_neg wrapped]
    simp only [subtleUnwrapKey, unwrapping, opened, importKey_material,
      algorithm]

/-- A restored key never has 24 bytes: the wrapping of such a key has 32 bytes
and would have been read as a raw key. -/
theorem restoreInnerVaultKey_length (crypto : platform.Lawful)
    (restored : restoreInnerVaultKey platform inner wrappingKey extractable =
      .ok key) :
    key.material.val.length ≠ 24 := by
  unfold restoreInnerVaultKey isLegacyRawVaultKeyMaterial at restored
  split at restored
  · rename_i legacy
    obtain ⟨material, -, -⟩ := importKey_ok restored
    rw [material, beq_iff_eq.mp legacy]
    decide
  · rename_i wrapped
    obtain ⟨-, opened, -, -⟩ := subtleUnwrapKey_ok restored
    have length := crypto.length_unwrap _ _ _ opened
    intro short
    apply wrapped
    rw [beq_iff_eq, length, short]

theorem restoreInnerVaultKey_wrap (crypto : platform.Lawful)
    {material : AesKeyMaterial} (algorithm : wrappingKey.algorithm = .aesKw)
    (length : material.val.length ≠ 24) (extractable : Bool) :
    restoreInnerVaultKey platform
      (platform.aesKwWrap wrappingKey.material material.val) wrappingKey
      extractable = .ok { algorithm := .aesGcm, material, extractable } := by
  have wrapped : ¬ isLegacyRawVaultKeyMaterial
      (platform.aesKwWrap wrappingKey.material material.val) = true := by
    rw [isLegacyRawVaultKeyMaterial, beq_iff_eq, crypto.length_wrap]
    omega
  rw [restoreInnerVaultKey, if_neg wrapped]
  simp only [subtleUnwrapKey, algorithm, crypto.unwrap_wrap,
    importKey_material]

theorem length_wrap_le (crypto : platform.Lawful) (material : AesKeyMaterial) :
    (platform.aesKwWrap wrappingKey.material material.val).length ≤ 40 := by
  have bound := material.property
  simp only [isAesKeyLength, Bool.or_eq_true, beq_iff_eq] at bound
  rw [crypto.length_wrap]
  omega

/-- Re-wrapping a blob under a new wrapping key wraps the key it holds. -/
theorem rewrapInnerVaultKeyMaterialForWrappingKeys_eq
    (crypto : platform.Lawful)
    (restored : restoreInnerVaultKey platform inner wrappingKey false =
      .ok key)
    (algorithm : sessionVaultKey.algorithm = .aesGcm)
    (material : sessionVaultKey.material = key.material)
    (wrapping : newWrappingKey.algorithm = .aesKw) :
    rewrapInnerVaultKeyMaterialForWrappingKeys platform inner wrappingKey
      newWrappingKey sessionVaultKey =
        .ok (platform.aesKwWrap newWrappingKey.material key.material.val) := by
  obtain ⟨restoredAlgorithm, -, again⟩ := restoreInnerVaultKey_ok restored
  have equal : userVaultKeysEqual platform { key with extractable := true }
      sessionVaultKey = .ok true :=
    userVaultKeysEqual_of_material crypto restoredAlgorithm algorithm
      material.symm
  simp only [rewrapInnerVaultKeyMaterialForWrappingKeys, again true, equal,
    Outcome.ok_bind, if_true, subtleWrapKey, wrapping]

theorem assertInnerVaultKeyBlobMatchesVaultKey_ok (crypto : platform.Lawful)
    (restored : restoreInnerVaultKey platform inner wrappingKey false =
      .ok key)
    (algorithm : sessionVaultKey.algorithm = .aesGcm)
    (material : sessionVaultKey.material = key.material) :
    assertInnerVaultKeyBlobMatchesVaultKey platform inner sessionVaultKey
      wrappingKey = .ok () := by
  obtain ⟨restoredAlgorithm, -, -⟩ := restoreInnerVaultKey_ok restored
  have equal := userVaultKeysEqual_of_material crypto restoredAlgorithm
    algorithm material.symm
  simp only [assertInnerVaultKeyBlobMatchesVaultKey, restored, equal,
    Outcome.ok_bind, if_true]
  rfl

/-- The sealed blob of a wrapped key is extracted again, in whatever order the
keys of its record were stored. -/
theorem extractInnerVaultKeyBlob_encrypted (crypto : platform.Lawful)
    {iv : Iv} {scope : VaultScope} {profile : VaultCryptoProfile}
    {payload stored : EncryptedVaultPayload}
    (encrypted : encryptInnerVaultKeyBlob platform iv inner encryptionKey
      scope profile = .ok payload)
    (short : inner.length ≤ 40) (sameIv : stored.iv = payload.iv)
    (sameCiphertext : stored.ciphertext = payload.ciphertext)
    (sameScope : stored.aad.scope = payload.aad.scope) :
    extractInnerVaultKeyBlob platform stored encryptionKey = .ok inner := by
  have algorithm := (encryptField_ok encrypted).1
  have within : (stringToBytes (bytesToBase64Url inner)).length ≤
      maxVaultPlaintextBytes := by
    rw [stringToBytes, Utf8.length_encode_ascii (bytesToBase64Url_ascii inner),
      length_bytesToBase64Url, maxVaultPlaintextBytes]
    split <;> omega
  have decrypted := decryptField_encryptField crypto encrypted algorithm rfl
    (bytesToString_base64Url inner) within sameIv sameCiphertext sameScope
  rw [extractInnerVaultKeyBlob, decrypted, Outcome.ok_bind,
    base64UrlToBytes_bytesToBase64Url]

theorem unwrapUserVaultKeyWithDerivedKeys_ok_iff
    {payload : EncryptedVaultPayload} {keys : DerivedKeys} :
    unwrapUserVaultKeyWithDerivedKeys platform payload keys = .ok key ↔
      ∃ inner,
        extractInnerVaultKeyBlob platform payload keys.encryptionKey =
          .ok inner ∧
        restoreInnerVaultKey platform inner keys.wrappingKey false =
          .ok key := by
  simp only [unwrapUserVaultKeyWithDerivedKeys,
    unwrapUserVaultKeyWithDerivedKeysAndInnerMaterial,
    Outcome.bind_eq_ok_iff]
  constructor
  · rintro ⟨unwrapped, ⟨inner, extracted, vaultKey, restored, built⟩, result⟩
    cases built
    cases result
    exact ⟨inner, extracted, restored⟩
  · rintro ⟨inner, extracted, restored⟩
    exact ⟨_, ⟨inner, extracted, key, restored, rfl⟩, rfl⟩

/-- The key pair of a PRF output is the one derived from its first bytes. -/
def prfKeys (prfOutput : Bytes) (long : 32 ≤ prfOutput.length) : DerivedKeys :=
  derivedKeys ⟨prfOutput.take 32, by
    rw [List.length_take]
    omega⟩

theorem importPrfAesKey_prfKeys {prfOutput : Bytes}
    (long : 32 ≤ prfOutput.length) :
    importPrfAesGcmKey prfOutput = .ok (prfKeys prfOutput long).encryptionKey ∧
      importPrfAesKwKey prfOutput =
        .ok (prfKeys prfOutput long).wrappingKey := by
  have taken : (prfOutput.take 32).length = 32 := by
    rw [List.length_take]
    omega
  have imported : ∀ algorithm, importPrfAesKey prfOutput algorithm =
      .ok { algorithm
            material := Bytes32.material ⟨prfOutput.take 32, taken⟩
            extractable := false } := by
    intro algorithm
    rw [importPrfAesKey, if_neg (not_lt.mpr long)]
    exact importKey_material algorithm
      (Bytes32.material ⟨prfOutput.take 32, taken⟩) false
  exact ⟨imported .aesGcm, imported .aesKw⟩

/-- Unwrapping with a PRF output is unwrapping with its key pair. -/
theorem unwrapUserVaultKeyWithPrfOutput_eq {prfOutput : Bytes}
    (long : 32 ≤ prfOutput.length) (payload : EncryptedVaultPayload) :
    unwrapUserVaultKeyWithPrfOutput platform payload prfOutput
        (prfKeys prfOutput long).encryptionKey =
      unwrapUserVaultKeyWithDerivedKeys platform payload
        (prfKeys prfOutput long) := by
  have wrapping := (importPrfAesKey_prfKeys long).2
  unfold unwrapUserVaultKeyWithPrfOutput unwrapUserVaultKeyWithDerivedKeys
    unwrapUserVaultKeyWithDerivedKeysAndInnerMaterial
  cases extractInnerVaultKeyBlob platform payload
      (prfKeys prfOutput long).encryptionKey with
  | error error => rfl
  | ok inner =>
      simp only [Outcome.ok_bind, restoreInnerVaultKey, wrapping]
      split
      · cases importUserVaultAesKey inner false <;> rfl
      · cases subtleUnwrapKey platform inner
          (prfKeys prfOutput long).wrappingKey false <;> rfl

theorem importPrfAesKey_eq {prfOutput : Bytes}
    (long : 32 ≤ prfOutput.length) :
    ∃ material : Bytes32,
      importPrfAesGcmKey prfOutput = .ok (derivedKeys material).encryptionKey ∧
      importPrfAesKwKey prfOutput = .ok (derivedKeys material).wrappingKey ∧
      ∀ payload,
        unwrapUserVaultKeyWithPrfOutput platform payload prfOutput
          (derivedKeys material).encryptionKey =
        unwrapUserVaultKeyWithDerivedKeys platform payload
          (derivedKeys material) := by
  obtain ⟨gcm, kw⟩ := importPrfAesKey_prfKeys long
  exact ⟨_, gcm, kw, unwrapUserVaultKeyWithPrfOutput_eq long⟩

/-- A blob that passed the comparison restores the vault key. -/
theorem assertInnerVaultKeyBlobMatchesVaultKey_restores
    {vaultKey : CryptoKey} (probe : platform.IdealProbe vaultKey.material)
    (matching : assertInnerVaultKeyBlobMatchesVaultKey platform inner vaultKey
      wrappingKey = .ok ()) :
    restoreInnerVaultKey platform inner wrappingKey false =
      .ok vaultKey.restored := by
  unfold assertInnerVaultKeyBlobMatchesVaultKey at matching
  obtain ⟨restored, restoring, rest⟩ := Outcome.bind_eq_ok_iff.mp matching
  obtain ⟨equal, comparison, verdict⟩ := Outcome.bind_eq_ok_iff.mp rest
  cases equal with
  | false => cases verdict
  | true =>
      obtain ⟨algorithm, handle, -⟩ := restoreInnerVaultKey_ok restoring
      have material := material_eq_of_userVaultKeysEqual (.inr probe)
        comparison
      rw [restoring, CryptoKey.restored, ← material, ← algorithm, ← handle]

theorem length_of_restored (crypto : platform.Lawful)
    (restored : restoreInnerVaultKey platform inner wrappingKey extractable =
      .ok key) (long : key.material.val.length = 32) : inner.length ≤ 40 := by
  unfold restoreInnerVaultKey isLegacyRawVaultKeyMaterial at restored
  split at restored
  · rename_i legacy
    rw [beq_iff_eq.mp legacy]
    decide
  · obtain ⟨-, opened, -, -⟩ := subtleUnwrapKey_ok restored
    rw [crypto.length_unwrap _ _ _ opened, long]

/-- The blob an envelope is created with restores the vault key. -/
theorem materializeInnerVaultKeyBlob_restores (crypto : platform.Lawful)
    {vaultKey : CryptoKey} {supplied : Option Bytes}
    (user : IsUserVaultKey vaultKey)
    (probe : supplied = none ∨ platform.IdealProbe vaultKey.material)
    (wrapping : wrappingKey.algorithm = .aesKw)
    (materialized : materializeInnerVaultKeyBlob platform vaultKey wrappingKey
      supplied = .ok inner) :
    restoreInnerVaultKey platform inner wrappingKey false =
      .ok vaultKey.restored := by
  unfold materializeInnerVaultKeyBlob at materialized
  cases supplied with
  | some blob =>
      obtain ⟨_, matching, built⟩ := Outcome.bind_eq_ok_iff.mp materialized
      cases built
      rcases probe with impossible | ideal
      · cases impossible
      · exact assertInnerVaultKeyBlobMatchesVaultKey_restores ideal matching
  | none =>
      have long : vaultKey.material.val.length ≠ 24 := by
        rw [user.length]
        decide
      cases exportable : vaultKey.extractable with
      | false =>
          simp [subtleWrapKey, wrapping, exportable] at materialized
      | true =>
          simp only [subtleWrapKey, wrapping, exportable, if_true,
            Except.ok.injEq] at materialized
          rw [← materialized]
          exact restoreInnerVaultKey_wrap crypto wrapping long false

/-- What was wrapped under derived keys is unwrapped under them, in whatever
order the keys of the record are stored. -/
theorem unwrap_wrapUserVaultKeyWithDerivedKeys (crypto : platform.Lawful)
    {vaultKey : CryptoKey} {supplied : Option Bytes} {keys : DerivedKeys}
    {iv : Iv} {scope : VaultScope} {profile : VaultCryptoProfile}
    {payload stored : EncryptedVaultPayload}
    (user : IsUserVaultKey vaultKey)
    (probe : supplied = none ∨ platform.IdealProbe vaultKey.material)
    (wrapping : keys.wrappingKey.algorithm = .aesKw)
    (wrapped : wrapUserVaultKeyWithDerivedKeys platform iv vaultKey keys scope
      profile supplied = .ok payload)
    (sameIv : stored.iv = payload.iv)
    (sameCiphertext : stored.ciphertext = payload.ciphertext)
    (sameScope : stored.aad.scope = payload.aad.scope) :
    unwrapUserVaultKeyWithDerivedKeys platform stored keys =
      .ok vaultKey.restored := by
  obtain ⟨inner, materialized, encrypted⟩ :=
    Outcome.bind_eq_ok_iff.mp wrapped
  have restored := materializeInnerVaultKeyBlob_restores crypto user probe
    wrapping materialized
  have short := length_of_restored crypto restored user.length
  apply unwrapUserVaultKeyWithDerivedKeys_ok_iff.mpr
  exact ⟨inner, extractInnerVaultKeyBlob_encrypted crypto encrypted short
    sameIv sameCiphertext sameScope, restored⟩

end

end VaultCore
