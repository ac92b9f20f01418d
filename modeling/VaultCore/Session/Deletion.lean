import VaultCore.Session.AutoLock
import VaultCore.Envelopes.Password

/-!
# Vault deletion

The application purges its stored records; the session is locked and its lock
state reset afterwards, if the operation is still allowed to.
-/

namespace VaultCore

/-- Purge under a token that is current, then lock the session. -/
def deleteVaultAfterAuthorization
    (purgePersistedVault : Except VaultError Unit)
    (operation : Option VaultSessionOperation) : SessionAsync Unit := do
  Async.lift (assertVaultSessionMutationAllowed operation)
  Async.awaitOutcome purgePersistedVault
  Async.lift do
    assertVaultSessionMutationAllowed operation
    lockVaultSession
    resetVaultSessionLockState

/-- The same once the current password opens its envelope. -/
def deleteVaultWithPasswordAuthorization (platform : Platform)
    (currentPassword : JsString) (passwordEnvelope : PasswordEnvelope)
    (scope : VaultScope) (profile : VaultCryptoProfile)
    (purgePersistedVault : Except VaultError Unit)
    (operation : Option VaultSessionOperation) : SessionAsync Unit := do
  Async.lift (assertVaultSessionMutationAllowed operation)
  let _ ← Async.awaitOutcome (unlockWithPasswordEnvelope platform
    currentPassword passwordEnvelope scope profile)
  Async.await (deleteVaultAfterAuthorization purgePersistedVault operation)

end VaultCore
