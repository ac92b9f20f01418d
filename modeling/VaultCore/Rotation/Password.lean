import VaultCore.Rotation.Authorization

/-!
# Password rotation

The vault key is re-wrapped under keys derived from the new password, or from
the same password with the recommended parameters.  Encrypted payloads stay
unchanged.
-/

namespace VaultCore

/-- What a change of the password is given. -/
structure RotateVaultPasswordOptions where
  vaultKey : CryptoKey
  currentPassword : JsString
  newPassword : JsString
  currentEnvelope : PasswordEnvelope
  scope : VaultScope
  profile : VaultCryptoProfile

/-- The new envelope, and the version that it replaces. -/
structure RotateVaultPasswordResult where
  envelope : PasswordEnvelope
  replacedKdfVersion : KdfVersion

/-- What an upgrade after an unlock is given. -/
structure MaybeUpgradePasswordEnvelopeOptions where
  vaultKey : CryptoKey
  vaultPassword : JsString
  envelope : PasswordEnvelope
  scope : VaultScope
  profile : VaultCryptoProfile

/-- The upgraded envelope, when an upgrade was recommended. -/
structure MaybeUpgradePasswordEnvelopeResult where
  upgradedEnvelope : Option PasswordEnvelope
  upgradeRecommended : Bool

section

variable (platform : Platform)

/-- Unlock the envelope with the old password, then seal its key under the new
one. -/
def rewrapPasswordEnvelope (iv : Iv) (salt : Argon2idSalt)
    (vaultKey : CryptoKey) (oldPassword newPassword : JsString)
    (envelope : PasswordEnvelope) (scope : VaultScope)
    (profile : VaultCryptoProfile) (mismatchMessage : String) :
    Except VaultError PasswordEnvelope := do
  let unlockedKey ← unlockWithPasswordEnvelope platform oldPassword envelope
    scope profile
  assertSameVaultKey platform vaultKey unlockedKey mismatchMessage
  let oldDerivedKeys ← deriveVaultPasswordKeyPairFromMetadata platform
    oldPassword envelope.kdfMetadata
  let (newDerivedKeys, metadata) ← deriveVaultPasswordKey platform newPassword
    salt.val
  let encryptedVaultKey ← rewrapEncryptedVaultKeyForDerivedKeys platform iv
    envelope.encryptedVaultKey oldDerivedKeys newDerivedKeys vaultKey scope
    profile
  return { encryptedVaultKey, kdfMetadata := metadata }

/-- Seal the vault key under a new password, once the current one opens it. -/
def rotateVaultPassword (iv : Iv) (salt : Argon2idSalt)
    (options : RotateVaultPasswordOptions) :
    Except VaultError RotateVaultPasswordResult :=
  if options.currentPassword = options.newPassword then
    .error (.vaultPasswordUnchangedError
      "New vault password must differ from the current password")
  else do
    let envelope ← rewrapPasswordEnvelope platform iv salt options.vaultKey
      options.currentPassword options.newPassword options.currentEnvelope
      options.scope options.profile "Current vault password is incorrect"
    return {
      envelope
      replacedKdfVersion := options.currentEnvelope.kdfMetadata.version }

/-- Derive the envelope anew when its parameters are too weak. -/
def maybeUpgradePasswordEnvelopeAfterUnlock (iv : Iv) (salt : Argon2idSalt)
    (options : MaybeUpgradePasswordEnvelopeOptions) :
    Except VaultError MaybeUpgradePasswordEnvelopeResult :=
  if !isEnvelopeKdfUpgradeRecommended options.envelope.kdfMetadata then
    .ok { upgradedEnvelope := none, upgradeRecommended := false }
  else do
    let envelope ← rewrapPasswordEnvelope platform iv salt options.vaultKey
      options.vaultPassword options.vaultPassword options.envelope
      options.scope options.profile "Vault key mismatch during envelope upgrade"
    return { upgradedEnvelope := some envelope, upgradeRecommended := true }

end

end VaultCore
