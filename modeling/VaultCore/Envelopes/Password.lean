import VaultCore.Envelopes.LegacyVaultKeyUnlock
import VaultCore.Validation.Schemas

/-!
# Password envelopes
-/

namespace VaultCore

section

variable (platform : Platform)

/-- An envelope of the vault key under a password. -/
def createPasswordEnvelope (iv : Iv) (vaultKey : CryptoKey)
    (vaultPassword : JsString) (scope : VaultScope)
    (profile : VaultCryptoProfile) (salt : Bytes)
    (innerVaultKeyBlob : Option Bytes) : Except VaultError PasswordEnvelope := do
  let (keys, metadata) ← deriveVaultPasswordKey platform vaultPassword salt
  let encryptedVaultKey ← wrapUserVaultKeyWithDerivedKeys platform iv vaultKey
    keys scope profile innerVaultKeyBlob
  return { encryptedVaultKey, kdfMetadata := metadata }

/-- The vault key from under a password. -/
def unlockWithPasswordEnvelope (vaultPassword : JsString)
    (envelope : PasswordEnvelope) (expectedScope : VaultScope)
    (profile : VaultCryptoProfile) : Except VaultError CryptoKey := do
  if envelope.kdfMetadata.kdf ≠ argon2idName then
    throw (.error "Vault password envelope requires Argon2id metadata")
  let derivedKeys ← deriveVaultPasswordKeyPairFromMetadata platform
    vaultPassword envelope.kdfMetadata
  unlockVaultKeyEnvelopeWithAadRouting envelope.encryptedVaultKey
    expectedScope profile fun candidate =>
      unwrapUserVaultKeyWithDerivedKeys platform candidate derivedKeys

end

section

variable {platform : Platform} {vaultPassword : JsString}
  {envelope : PasswordEnvelope} {expectedScope : VaultScope}
  {profile : VaultCryptoProfile} {key : CryptoKey}

/-- An opened envelope has usable metadata, and routing opened it with the
keys derived from the password. -/
theorem unlockWithPasswordEnvelope_ok
    (unlocked : unlockWithPasswordEnvelope platform vaultPassword envelope
      expectedScope profile = .ok key) :
    envelope.kdfMetadata.kdf = argon2idName ∧
      ∃ material,
        deriveVaultPasswordKeyPairFromMetadata platform vaultPassword
          envelope.kdfMetadata = .ok (derivedKeys material) ∧
        unlockVaultKeyEnvelopeWithAadRouting envelope.encryptedVaultKey
          expectedScope profile (fun candidate =>
            unwrapUserVaultKeyWithDerivedKeys platform candidate
              (derivedKeys material)) = .ok key := by
  unfold unlockWithPasswordEnvelope at unlocked
  by_cases kdf : envelope.kdfMetadata.kdf = argon2idName
  · rw [if_neg (not_not.mpr kdf)] at unlocked
    obtain ⟨keys, derived, opened⟩ := Outcome.bind_eq_ok_iff.mp unlocked
    obtain ⟨material, rfl⟩ := deriveArgon2idKeyPairFromMetadata_ok derived
    exact ⟨kdf, material, derived, opened⟩
  · rw [if_pos kdf] at unlocked
    cases unlocked

theorem unlockWithPasswordEnvelope_eq {material : Bytes32}
    (kdf : envelope.kdfMetadata.kdf = argon2idName)
    (derived : deriveVaultPasswordKeyPairFromMetadata platform vaultPassword
      envelope.kdfMetadata = .ok (derivedKeys material)) :
    unlockWithPasswordEnvelope platform vaultPassword envelope expectedScope
      profile =
      unlockVaultKeyEnvelopeWithAadRouting envelope.encryptedVaultKey
        expectedScope profile (fun candidate =>
          unwrapUserVaultKeyWithDerivedKeys platform candidate
            (derivedKeys material)) := by
  simp only [unlockWithPasswordEnvelope, kdf, derived, ne_eq,
    not_true_eq_false, if_false, Outcome.ok_bind]

end

end VaultCore
