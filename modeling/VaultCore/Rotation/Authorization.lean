import VaultCore.Envelopes.Password
import VaultCore.Envelopes.PasskeyPrf

/-!
# Authorization of a rotation

A sensitive change is authorized by unlocking an envelope again and comparing
the key with the one in memory.
-/

namespace VaultCore

/-- What authorizes a rotation: a password or a PRF output, with its
envelope. -/
inductive VaultRotationAuthorization where
  | password (currentPassword : JsString) (passwordEnvelope : PasswordEnvelope)
  | passkeyPrf (prfOutput : Bytes) (passkeyEnvelope : PasskeyPrfEnvelope)

section

variable (platform : Platform)

/-- The key that the authorization opens. -/
def unlockWithAuthorization (authorization : VaultRotationAuthorization)
    (scope : VaultScope) (profile : VaultCryptoProfile) :
    Except VaultError CryptoKey :=
  match authorization with
  | .password currentPassword passwordEnvelope =>
      unlockWithPasswordEnvelope platform currentPassword passwordEnvelope
        scope profile
  | .passkeyPrf prfOutput passkeyEnvelope =>
      if prfOutput.length < 32 then
        .error (.vaultAuthorizationError
          "PRF output must be at least 32 bytes")
      else
        unlockWithPasskeyPrfEnvelope platform passkeyEnvelope (some prfOutput)
          scope profile true

/-- Compare the key in memory with an unlocked one. -/
def assertSameVaultKey (vaultKey unlockedKey : CryptoKey) (message : String) :
    Except VaultError Unit := do
  let equal ← userVaultKeysEqual platform vaultKey unlockedKey
  if equal then return ()
  else throw (.vaultAuthorizationError message)

/-- The authorization opens the key of the session. -/
def assertVaultRotationAuthorized (vaultKey : CryptoKey)
    (authorization : VaultRotationAuthorization) (scope : VaultScope)
    (profile : VaultCryptoProfile) : Except VaultError Unit := do
  let authorizedKey ← unlockWithAuthorization platform authorization scope
    profile
  assertSameVaultKey platform vaultKey authorizedKey
    "Vault authorization failed"

end

theorem assertSameVaultKey_of_material {platform : Platform}
    (crypto : platform.Lawful) {vaultKey unlockedKey : CryptoKey}
    {message : String} (algorithm : vaultKey.algorithm = .aesGcm)
    (unlockedAlgorithm : unlockedKey.algorithm = .aesGcm)
    (material : vaultKey.material = unlockedKey.material) :
    assertSameVaultKey platform vaultKey unlockedKey message = .ok () := by
  have equal := userVaultKeysEqual_of_material crypto algorithm
    unlockedAlgorithm material
  simp only [assertSameVaultKey, equal, Outcome.ok_bind, if_true]
  rfl

end VaultCore
