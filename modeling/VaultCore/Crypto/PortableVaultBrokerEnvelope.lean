import VaultCore.Crypto.VaultKeyEnvelope
import VaultCore.Validation.AadAssert

/-!
# Portable broker envelopes

A portable unlock key derives one key for the outer field and another one for
the inner wrapping.  These envelopes are opened under exactly the expected
record: no older context is tried.
-/

namespace VaultCore

/-- The platform with HKDF over SHA-256, on key material, salt and info. -/
structure BrokerPlatform extends Platform where
  hkdfSha256 : Bytes → Bytes → Bytes → Bytes32

def portableVaultUnlockKeyBytes : Nat := 32

def hkdfSalt : Bytes :=
  stringToBytes (js "vault-core:portable-vault-broker:puk:v1")

def encryptionInfo : Bytes := stringToBytes
  (js "vault-core:portable-vault-broker:envelope-encryption:v1")

def wrappingInfo : Bytes := stringToBytes
  (js "vault-core:portable-vault-broker:vault-key-wrapping:v1")

/-- A portable unlock key has 32 bytes. -/
def assertPortableUnlockKey (puk : Bytes) : Except VaultError Unit :=
  if puk.length ≠ portableVaultUnlockKeyBytes then
    .error (.error "Portable unlock key must be exactly 32 bytes")
  else .ok ()

section Operations

variable (platform : BrokerPlatform)

/-- The two keys of a portable unlock key. -/
def portableVaultKeys (puk : Bytes) : DerivedKeys :=
  { encryptionKey :=
      { algorithm := .aesGcm
        material := (platform.hkdfSha256 puk hkdfSalt encryptionInfo).material
        extractable := false }
    wrappingKey :=
      { algorithm := .aesKw
        material := (platform.hkdfSha256 puk hkdfSalt wrappingInfo).material
        extractable := false } }

/-- The two keys that are derived from a portable unlock key. -/
def derivePortableVaultKeys (puk : Bytes) : Except VaultError DerivedKeys := do
  assertPortableUnlockKey puk
  return portableVaultKeys platform puk

/-- Wraps the vault key for a portable unlock key. -/
def createPortableVaultBrokerEncryptedVaultKey (iv : Iv) (vaultKey : CryptoKey)
    (puk : Bytes) (opaqueScope : VaultScope) (profile : VaultCryptoProfile)
    (innerVaultKeyBlob : Option Bytes) :
    Except VaultError EncryptedVaultPayload := do
  let derivedKeys ← derivePortableVaultKeys platform puk
  wrapUserVaultKeyWithDerivedKeys platform.toPlatform iv vaultKey derivedKeys
    opaqueScope profile innerVaultKeyBlob

/-- Opens only what was sealed for the expected scope. -/
def unlockPortableVaultBrokerEncryptedVaultKey
    (encryptedVaultKey : EncryptedVaultPayload) (puk : Bytes)
    (expectedOpaqueScope : VaultScope) (profile : VaultCryptoProfile) :
    Except VaultError CryptoKey := do
  assertVaultKeyAad expectedOpaqueScope encryptedVaultKey profile
  let derivedKeys ← derivePortableVaultKeys platform puk
  unwrapUserVaultKeyWithDerivedKeys platform.toPlatform encryptedVaultKey
    derivedKeys

end Operations

section

variable {platform : BrokerPlatform} {puk : Bytes} {keys : DerivedKeys}

theorem derivePortableVaultKeys_ok_iff :
    derivePortableVaultKeys platform puk = .ok keys ↔
      puk.length = portableVaultUnlockKeyBytes ∧
        keys = portableVaultKeys platform puk := by
  unfold derivePortableVaultKeys assertPortableUnlockKey
  constructor
  · intro derived
    split_ifs at derived with short
    · cases derived
    · cases derived
      exact ⟨not_not.mp short, rfl⟩
  · rintro ⟨exact, rfl⟩
    rw [if_neg (not_not.mpr exact)]
    rfl

end

end VaultCore
