import VaultCore.Crypto.AesGcm

/-!
# User vault keys

A vault key is created extractable so that the first envelopes can wrap it,
and is restored from envelopes as a non-extractable handle.  Two handles are
compared by their exported bytes, or by a probe when one of them cannot be
exported.
-/

namespace VaultCore

/-- A fresh extractable vault key. -/
def createUserVaultKey (material : Bytes32) : CryptoKey :=
  { algorithm := .aesGcm
    material := material.material
    extractable := true }

/-- The bytes of the vault key, when it is extractable. -/
def exportUserVaultKey (key : CryptoKey) : Except VaultError Bytes :=
  match exportKey key with
  | .ok raw => .ok raw
  | .error (.domException "InvalidAccessError") =>
      .error (.vaultKeyNotExtractableError "User vault key is non-extractable")
  | .error error => .error error

/-- The vault key cannot be exported. -/
def assertUserVaultKeyNonExtractable (key : CryptoKey) :
    Except VaultError Unit :=
  match exportUserVaultKey key with
  | .ok _ => .error
      (.vaultAuthorizationError "Session vault key must be non-extractable")
  | .error (.vaultKeyNotExtractableError _) => .ok ()
  | .error error => .error error

def uvkEqualityProbe : Bytes :=
  stringToBytes (js "vault-core-uvk-equality:v1")

def uvkEqualityIv : Bytes := List.replicate 12 0

section

variable (platform : Platform)

/-- Two keys are equal when one decrypts what the other encrypted. -/
def userVaultKeysEqualViaEncrypt (a b : CryptoKey) :
    Except VaultError Bool := do
  let ciphertext ← subtleEncrypt platform a uvkEqualityIv [] uvkEqualityProbe
  match subtleDecrypt platform b uvkEqualityIv [] ciphertext with
  | .ok bytes => return bytes == uvkEqualityProbe
  | .error _ => return false

/-- Compare two exportable keys by their bytes, others by a probe. -/
def userVaultKeysEqual (a b : CryptoKey) : Except VaultError Bool :=
  match exportUserVaultKey a, exportUserVaultKey b with
  | .ok bytesA, .ok bytesB => .ok (bytesA == bytesB)
  | .error (.vaultKeyNotExtractableError _), _ =>
      userVaultKeysEqualViaEncrypt platform a b
  | .error error, _ => .error error
  | .ok _, .error (.vaultKeyNotExtractableError _) =>
      userVaultKeysEqualViaEncrypt platform a b
  | .ok _, .error error => .error error

end

theorem exportUserVaultKey_eq (key : CryptoKey) :
    exportUserVaultKey key =
      if key.extractable then .ok key.material.val
      else .error
        (.vaultKeyNotExtractableError "User vault key is non-extractable") := by
  unfold exportUserVaultKey exportKey
  cases key.extractable <;> rfl

theorem assertUserVaultKeyNonExtractable_ok_iff {key : CryptoKey} :
    assertUserVaultKeyNonExtractable key = .ok () ↔
      key.extractable = false := by
  unfold assertUserVaultKeyNonExtractable
  rw [exportUserVaultKey_eq]
  cases key.extractable <;> simp

/-- Two handles of one AES-GCM key are equal. -/
theorem userVaultKeysEqual_of_material {platform : Platform}
    (crypto : platform.Lawful) {a b : CryptoKey}
    (aAlgorithm : a.algorithm = .aesGcm) (bAlgorithm : b.algorithm = .aesGcm)
    (material : a.material = b.material) :
    userVaultKeysEqual platform a b = .ok true := by
  have probe : userVaultKeysEqualViaEncrypt platform a b = .ok true := by
    have opened := crypto.open_seal b.material uvkEqualityIv []
      uvkEqualityProbe
    simp only [userVaultKeysEqualViaEncrypt, subtleEncrypt, aAlgorithm,
      subtleDecrypt, bAlgorithm, material, Outcome.ok_bind, opened,
      beq_self_eq_true]
    rfl
  unfold userVaultKeysEqual
  rw [exportUserVaultKey_eq, exportUserVaultKey_eq]
  cases a.extractable with
  | false => simpa using probe
  | true =>
      cases b.extractable with
      | false => simpa using probe
      | true => simp [material]

/-- The probe of the comparison, sealed under one key, opens under no other. -/
structure Platform.IdealProbe (platform : Platform)
    (material : AesKeyMaterial) : Prop where
  opens : ∀ other,
    platform.aesGcmOpen material uvkEqualityIv []
      (platform.aesGcmSeal other uvkEqualityIv [] uvkEqualityProbe) =
        some uvkEqualityProbe → other = material
  opened : ∀ other,
    platform.aesGcmOpen other uvkEqualityIv []
      (platform.aesGcmSeal material uvkEqualityIv [] uvkEqualityProbe) =
        some uvkEqualityProbe → other = material

private theorem probe_opened {platform : Platform} {a b : CryptoKey}
    (equal : userVaultKeysEqualViaEncrypt platform a b = .ok true) :
    platform.aesGcmOpen b.material uvkEqualityIv []
      (platform.aesGcmSeal a.material uvkEqualityIv [] uvkEqualityProbe) =
        some uvkEqualityProbe := by
  unfold userVaultKeysEqualViaEncrypt at equal
  obtain ⟨ciphertext, sealed, rest⟩ := Outcome.bind_eq_ok_iff.mp equal
  unfold subtleEncrypt at sealed
  split at sealed
  · cases sealed
    unfold subtleDecrypt at rest
    cases algorithm : b.algorithm with
    | aesKw =>
        rw [algorithm] at rest
        cases rest
    | aesGcm =>
        rw [algorithm] at rest
        cases opened : platform.aesGcmOpen b.material uvkEqualityIv []
            (platform.aesGcmSeal a.material uvkEqualityIv []
              uvkEqualityProbe) with
        | none =>
            rw [opened] at rest
            cases rest
        | some plaintext =>
            rw [opened] at rest
            have same : (plaintext == uvkEqualityProbe) = true :=
              Except.ok.inj rest
            rw [beq_iff_eq.mp same]
  · cases sealed

/-- Handles that compare as equal hold the same key. -/
theorem material_eq_of_userVaultKeysEqual {platform : Platform}
    {a b : CryptoKey}
    (ideal : platform.IdealProbe a.material ∨ platform.IdealProbe b.material)
    (equal : userVaultKeysEqual platform a b = .ok true) :
    a.material = b.material := by
  have probed : userVaultKeysEqualViaEncrypt platform a b = .ok true →
      a.material = b.material := by
    intro viaEncrypt
    have opened := probe_opened viaEncrypt
    rcases ideal with first | second
    · exact (first.opened _ opened).symm
    · exact second.opens _ opened
  unfold userVaultKeysEqual at equal
  rw [exportUserVaultKey_eq, exportUserVaultKey_eq] at equal
  cases aExportable : a.extractable with
  | false =>
      rw [aExportable] at equal
      exact probed equal
  | true =>
      cases bExportable : b.extractable with
      | false =>
          rw [aExportable, bExportable] at equal
          exact probed equal
      | true =>
          rw [aExportable, bExportable] at equal
          have same : (a.material.val == b.material.val) = true :=
            Except.ok.inj equal
          exact Subtype.ext (beq_iff_eq.mp same)

/-- A key as `createUserVaultKey` generates it, in any handle. -/
structure IsUserVaultKey (vaultKey : CryptoKey) : Prop where
  algorithm : vaultKey.algorithm = .aesGcm
  length : vaultKey.material.val.length = 32

theorem createUserVaultKey_isUserVaultKey (material : Bytes32) :
    IsUserVaultKey (createUserVaultKey material) :=
  ⟨rfl, material.property⟩

/-- The non-extractable handle of a vault key. -/
def CryptoKey.restored (vaultKey : CryptoKey) : CryptoKey :=
  { algorithm := .aesGcm, material := vaultKey.material, extractable := false }

end VaultCore
