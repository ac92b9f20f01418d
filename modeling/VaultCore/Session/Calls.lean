import VaultCore.Async.Interleaving
import VaultCore.Emergency.BrowserEmergency
import VaultCore.Session.Deletion

/-!
# Calls of the session

Every exported function that reads or changes the session, as the calls a
page can make in any order and in any number, and what the environment does
between their segments.
-/

namespace VaultCore

/-- A call of the session's functions, with its arguments. -/
inductive SessionCall where
  | beginVaultSessionUnlock (ownerId : JsString)
  | unlockVaultSession (vaultKey : CryptoKey)
      (role : Option VaultSessionKeyRole)
      (operation : Option VaultSessionOperation)
  | lockVaultSession
  | clearVaultSessionOwner
  | scheduleVaultAutoLock (lease : Option VaultSessionLease)
  | touchVaultSession (lease : Option VaultSessionLease)
  | clearVaultAutoLockTimer
  | resetVaultSessionLockState
  | captureVaultSessionLease (ownerId : JsString)
  | enterVaultEmergencyMode (operation : Option VaultSessionOperation)
  | clearEmergencyModePin (operation : Option VaultSessionOperation)
  | hydrateVaultEmergencyModeFromServer (emergencyModeActive : Bool)
      (operation : Option VaultSessionOperation)
  | getCachedVaultInnerKeyMaterial
      (operation : Option VaultSessionOperation)
  | clearVaultInnerKeyMaterialCache
      (operation : Option VaultSessionOperation)
  | resolveInnerVaultKeyBlobForWrap (sessionVaultKey : CryptoKey)
      (innerVaultKeyBlob : Option BufferRef)
      (operation : Option VaultSessionOperation)
  | cacheVaultInnerKeyMaterialFromEnvelopeDecrypt (inner : BufferRef)
      (wrappingKey sessionVaultKey : CryptoKey)
      (operation : Option VaultSessionOperation)
  | cacheVaultInnerKeyMaterialFromPasskeyEnvelope
      (encryptedVaultKey : EncryptedVaultPayload) (prfOutput : Bytes)
      (prfEncryptionKey sessionVaultKey : CryptoKey)
      (operation : Option VaultSessionOperation)
  | cacheVaultInnerKeyMaterialAfterPasswordUnlock
      (sessionVaultKey : CryptoKey) (envelope : PasswordEnvelope)
      (vaultPassword : JsString) (operation : Option VaultSessionOperation)
  | cacheVaultInnerKeyMaterialAfterRecoveryUnlock
      (sessionVaultKey : CryptoKey) (envelope : RecoveryPhraseEnvelope)
      (recoveryPhrase : JsString) (operation : Option VaultSessionOperation)
  | cacheVaultInnerKeyMaterialFromPasskeyUnlock
      (sessionVaultKey : CryptoKey) (envelope : PasskeyPrfEnvelope)
      (prfOutput : Bytes) (operation : Option VaultSessionOperation)
  | unlockVaultWithPasswordRouting (input : EmergencyUnlockPasswordInput)
  | unlockVaultWithPasskeyRouting (input : EmergencyUnlockPasskeyInput)
  | unlockVaultWithPasskeyCandidateRouting
      (input : EmergencyUnlockPasskeyCandidateInput)
  | exitEmergencyMode (input : ExitEmergencyModeInput)
  | deleteVaultAfterAuthorization
      (purgePersistedVault : Except VaultError Unit)
      (operation : Option VaultSessionOperation)
  | deleteVaultWithPasswordAuthorization (currentPassword : JsString)
      (passwordEnvelope : PasswordEnvelope) (scope : VaultScope)
      (profile : VaultCryptoProfile)
      (purgePersistedVault : Except VaultError Unit)
      (operation : Option VaultSessionOperation)

/-- What a call resolves to. -/
inductive SessionValue where
  | unit
  | operation (operation : VaultSessionOperation)
  | lease (lease : Option VaultSessionLease)
  | vaultKey (vaultKey : CryptoKey)
  | candidate (result : EmergencyUnlockPasskeyCandidateResult)
  | cacheEntry (entry : Option VaultInnerKeyMaterialCacheEntry)
  | innerVaultKeyBlob (inner : Option BufferRef)

/-- The token a call was given. -/
def SessionCall.token : SessionCall → Option VaultSessionOperation
  | .beginVaultSessionUnlock _ => none
  | .unlockVaultSession _ _ operation => operation
  | .lockVaultSession => none
  | .clearVaultSessionOwner => none
  | .scheduleVaultAutoLock _ => none
  | .touchVaultSession _ => none
  | .clearVaultAutoLockTimer => none
  | .resetVaultSessionLockState => none
  | .captureVaultSessionLease _ => none
  | .enterVaultEmergencyMode operation => operation
  | .clearEmergencyModePin operation => operation
  | .hydrateVaultEmergencyModeFromServer _ operation => operation
  | .getCachedVaultInnerKeyMaterial operation => operation
  | .clearVaultInnerKeyMaterialCache operation => operation
  | .resolveInnerVaultKeyBlobForWrap _ _ operation => operation
  | .cacheVaultInnerKeyMaterialFromEnvelopeDecrypt _ _ _ operation =>
      operation
  | .cacheVaultInnerKeyMaterialFromPasskeyEnvelope _ _ _ _ operation =>
      operation
  | .cacheVaultInnerKeyMaterialAfterPasswordUnlock _ _ _ operation =>
      operation
  | .cacheVaultInnerKeyMaterialAfterRecoveryUnlock _ _ _ operation =>
      operation
  | .cacheVaultInnerKeyMaterialFromPasskeyUnlock _ _ _ operation => operation
  | .unlockVaultWithPasswordRouting input => input.operation
  | .unlockVaultWithPasskeyRouting input => input.operation
  | .unlockVaultWithPasskeyCandidateRouting input => input.operation
  | .exitEmergencyMode input => input.operation
  | .deleteVaultAfterAuthorization _ operation => operation
  | .deleteVaultWithPasswordAuthorization _ _ _ _ _ operation => operation

/-- What happens to the session outside its calls: the clock moves on, an
auto-lock timeout fires, and the page configures the session, registers
callbacks or allocates byte arrays. -/
inductive SessionEvent where
  | clock (time : ℚ)
  | timerFires (handle : Nat)
  | configureVaultSession (config : VaultSessionConfig)
  | callbacks (listeners lockCleanupHandlers : List Callback)
  | allocate (bytes : Bytes)

/-- What can happen next to a session. -/
abbrev SessionStep := PoolEvent SessionCall SessionEvent

/-- What an event outside the calls does. -/
def sessionEnvironment : SessionEvent → SessionState → SessionState
  | .clock time, state =>
      { state with now := if state.now ≤ time then time else state.now }
  | .timerFires handle, state =>
      match state.timeouts.fire state.now handle with
      | some timeouts => (lockVaultSession { state with timeouts }).2
      | none => state
  | .configureVaultSession config, state =>
      { state with sessionConfig := config }
  | .callbacks listeners lockCleanupHandlers, state =>
      { state with listeners, lockCleanupHandlers }
  | .allocate bytes, state =>
      { state with buffers := state.buffers ++ [bytes] }

section

variable (platform : Platform)

/-- A call that runs without suspending. -/
def synchronousCall {α : Type} (value : α → SessionValue)
    (code : SessionSync α) : SessionAsync SessionValue := do
  let result ← Async.lift code
  pure (value result)

def asynchronousCall {α : Type} (value : α → SessionValue)
    (program : SessionAsync α) : SessionAsync SessionValue := do
  let result ← program
  pure (value result)

def sessionProgram : SessionCall → SessionAsync SessionValue
  | .beginVaultSessionUnlock ownerId =>
      synchronousCall .operation (beginVaultSessionUnlock ownerId)
  | .unlockVaultSession vaultKey role operation =>
      asynchronousCall .lease (unlockVaultSession vaultKey role operation)
  | .lockVaultSession => synchronousCall (fun _ => .unit) lockVaultSession
  | .clearVaultSessionOwner =>
      synchronousCall (fun _ => .unit) clearVaultSessionOwner
  | .scheduleVaultAutoLock lease =>
      synchronousCall (fun _ => .unit) (scheduleVaultAutoLock lease)
  | .touchVaultSession lease =>
      synchronousCall (fun _ => .unit) (touchVaultSession lease)
  | .clearVaultAutoLockTimer =>
      synchronousCall (fun _ => .unit) clearVaultAutoLockTimer
  | .resetVaultSessionLockState =>
      synchronousCall (fun _ => .unit) resetVaultSessionLockState
  | .captureVaultSessionLease ownerId =>
      synchronousCall (fun lease => .lease (some lease)) fun state =>
        (state.captureVaultSessionLease ownerId, state)
  | .enterVaultEmergencyMode operation =>
      synchronousCall (fun _ => .unit) (enterVaultEmergencyMode operation)
  | .clearEmergencyModePin operation =>
      synchronousCall (fun _ => .unit) (clearEmergencyModePin operation)
  | .hydrateVaultEmergencyModeFromServer emergencyModeActive operation =>
      synchronousCall (fun _ => .unit)
        (hydrateVaultEmergencyModeFromServer emergencyModeActive operation)
  | .getCachedVaultInnerKeyMaterial operation =>
      synchronousCall .cacheEntry (getCachedVaultInnerKeyMaterial operation)
  | .clearVaultInnerKeyMaterialCache operation =>
      synchronousCall (fun _ => .unit)
        (clearVaultInnerKeyMaterialCache operation)
  | .resolveInnerVaultKeyBlobForWrap sessionVaultKey innerVaultKeyBlob
      operation =>
      asynchronousCall .innerVaultKeyBlob
        (resolveInnerVaultKeyBlobForWrap platform sessionVaultKey
          innerVaultKeyBlob operation)
  | .cacheVaultInnerKeyMaterialFromEnvelopeDecrypt inner wrappingKey
      sessionVaultKey operation =>
      asynchronousCall (fun _ => .unit)
        (cacheVaultInnerKeyMaterialFromEnvelopeDecrypt platform inner
          wrappingKey sessionVaultKey operation)
  | .cacheVaultInnerKeyMaterialFromPasskeyEnvelope encryptedVaultKey
      prfOutput prfEncryptionKey sessionVaultKey operation =>
      asynchronousCall (fun _ => .unit)
        (cacheVaultInnerKeyMaterialFromPasskeyEnvelope platform
          encryptedVaultKey prfOutput prfEncryptionKey sessionVaultKey
          operation)
  | .cacheVaultInnerKeyMaterialAfterPasswordUnlock sessionVaultKey envelope
      vaultPassword operation =>
      asynchronousCall (fun _ => .unit)
        (cacheVaultInnerKeyMaterialAfterPasswordUnlock platform
          sessionVaultKey envelope vaultPassword operation)
  | .cacheVaultInnerKeyMaterialAfterRecoveryUnlock sessionVaultKey envelope
      recoveryPhrase operation =>
      asynchronousCall (fun _ => .unit)
        (cacheVaultInnerKeyMaterialAfterRecoveryUnlock platform
          sessionVaultKey envelope recoveryPhrase operation)
  | .cacheVaultInnerKeyMaterialFromPasskeyUnlock sessionVaultKey envelope
      prfOutput operation =>
      asynchronousCall (fun _ => .unit)
        (cacheVaultInnerKeyMaterialFromPasskeyUnlock platform
          sessionVaultKey envelope prfOutput operation)
  | .unlockVaultWithPasswordRouting input =>
      asynchronousCall .vaultKey
        (unlockVaultWithPasswordRouting platform input)
  | .unlockVaultWithPasskeyRouting input =>
      asynchronousCall .vaultKey
        (unlockVaultWithPasskeyRouting platform input)
  | .unlockVaultWithPasskeyCandidateRouting input =>
      asynchronousCall .candidate
        (unlockVaultWithPasskeyCandidateRouting platform input)
  | .exitEmergencyMode input =>
      asynchronousCall (fun _ => .unit) (exitEmergencyMode platform input)
  | .deleteVaultAfterAuthorization purgePersistedVault operation =>
      asynchronousCall (fun _ => .unit)
        (deleteVaultAfterAuthorization purgePersistedVault operation)
  | .deleteVaultWithPasswordAuthorization currentPassword passwordEnvelope
      scope profile purgePersistedVault operation =>
      asynchronousCall (fun _ => .unit)
        (deleteVaultWithPasswordAuthorization platform currentPassword
          passwordEnvelope scope profile purgePersistedVault operation)

/-- The session with its calls and its events. -/
def sessionMachine :
    Machine SessionCall SessionEvent SessionState VaultError SessionValue :=
  { program := sessionProgram platform
    environment := sessionEnvironment }

end

end VaultCore
