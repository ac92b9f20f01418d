import VaultCore.Session.State
import Mathlib.Data.Rat.Floor

/-!
# Unlocking, locking and the auto-lock timer

The functions of the session layer.  The lock clears the operation, the lease,
the timer, the cache and the key before any callback runs, so a callback that
throws leaves a locked session.
-/

namespace VaultCore

def defaultVaultAutoLockMinutes : ℚ := 15

def maxVaultAutoLockMinutes : ℚ := 24 * 60

def vaultUserAutoLockMinMinutes : ℚ := 1

/-- `Math.round` -/
def roundHalfUp (value : ℚ) : ℚ := (value + 1 / 2).floor

/-- Whole minutes within the bounds. -/
def clampVaultAutoLockMinutes (minutes : ConfiguredNumber) (min max : ℚ) : ℚ :=
  let upper := if min ≤ max then max else min
  match minutes with
  | .notFinite => min
  | .finite value =>
      let rounded := roundHalfUp value
      let raised := if rounded ≤ min then min else rounded
      if raised ≤ upper then raised else upper

/-- A configured number of minutes, or the default when it is not positive. -/
def positiveMinutes : ConfiguredNumber → ConfiguredNumber
  | .finite value =>
      if 0 < value then .finite value
      else .finite defaultVaultAutoLockMinutes
  | .notFinite => .finite defaultVaultAutoLockMinutes

/-- What the resolver of the configuration answers. -/
def VaultSessionConfig.resolved (config : VaultSessionConfig) :
    Except VaultError (Option ConfiguredNumber) :=
  match config.resolveAutoLockMinutes with
  | none => .ok none
  | some outcome => outcome

/-- The minutes until an idle session locks. -/
def getVaultAutoLockMinutes (config : VaultSessionConfig) :
    Except VaultError ℚ := do
  let preferred ← config.resolved
  let fallback := config.autoLockMinutes.getD
    (.finite defaultVaultAutoLockMinutes)
  let adminCeiling := clampVaultAutoLockMinutes (positiveMinutes fallback)
    vaultUserAutoLockMinMinutes maxVaultAutoLockMinutes
  return clampVaultAutoLockMinutes (positiveMinutes (preferred.getD fallback))
    vaultUserAutoLockMinMinutes adminCeiling

def getAutoLockTimeoutMs (config : VaultSessionConfig) :
    Except VaultError ℚ := do
  let minutes ← getVaultAutoLockMinutes config
  return minutes * 60 * 1000

/-- A callback returns or throws. -/
def callCallback : Callback → SessionSync Unit
  | none => pure ()
  | some error => Sync.throw error

/-- Call every listener in turn; the first that throws ends the loop. -/
def callListeners : List Callback → SessionSync Unit
  | [] => pure ()
  | listener :: rest => do
      callCallback listener
      callListeners rest

/-- Call every listener; one that throws ends the call. -/
def notifyVaultSessionChange : SessionSync Unit := do
  let state ← Sync.get
  callListeners state.listeners

/-- Call every handler in turn; what a handler throws is ignored. -/
def callCleanupHandlers : List Callback → SessionSync Unit
  | [] => pure ()
  | handler :: rest => do
      Sync.tryCatch (callCallback handler) fun _ => pure ()
      callCleanupHandlers rest

def runVaultLockCleanupHandlers : SessionSync Unit := do
  let state ← Sync.get
  callCleanupHandlers state.lockCleanupHandlers

def SessionState.clearTimer (state : SessionState) : SessionState :=
  { state with
    inactivityTimer := none
    timeouts := state.timeouts.clear state.inactivityTimer }

/-- `clearTimeout(inactivityTimer)` -/
def clearVaultAutoLockTimer : SessionSync Unit :=
  Sync.modify SessionState.clearTimer

/-- `inactivityTimer = setTimeout(lockVaultSession, timeout)`, which leaves
other timeouts pending.  A duration is at most a day, and no delay of a day is
cut off. -/
def SessionState.setTimer (timeout : ℚ) (state : SessionState) :
    SessionState :=
  let (handle, timeouts) := state.timeouts.set (state.now + timeout)
  { state with inactivityTimer := some handle, timeouts }

/-- `clearCachedEntry`: the cached bytes are zeroed before the entry goes. -/
def SessionState.clearCachedEntry (state : SessionState) : SessionState :=
  let zeroed :=
    match state.cachedEntry with
    | some entry => state.zeroBuffer entry.inner
    | none => state
  { zeroed with cachedEntry := none }

/-- The cache is cleared, whoever holds the operation. -/
def clearVaultInnerKeyMaterialCacheForSessionLock : SessionSync Unit :=
  Sync.modify SessionState.clearCachedEntry

/-- Start the timeout of an unlocked session anew. -/
def scheduleVaultAutoLockInternal : SessionSync Unit := do
  let state ← Sync.get
  if !state.isVaultUnlocked || state.manuallyLocked then return ()
  else do
    clearVaultAutoLockTimer
    Sync.modify fun state => { state with lastActivityAt := state.now }
    let timeout ← Sync.ofExcept (getAutoLockTimeoutMs state.sessionConfig)
    Sync.modify (SessionState.setTimer timeout)

/-- The same for a page that holds the lease. -/
def scheduleVaultAutoLock (lease : Option VaultSessionLease) :
    SessionSync Unit := do
  let state ← Sync.get
  if !state.isVaultUnlocked || state.manuallyLocked then return ()
  else do
    assertVaultSessionLeaseMutationAllowed lease
    scheduleVaultAutoLockInternal

/-- Activity of a page that holds the lease. -/
def touchVaultSession (lease : Option VaultSessionLease) :
    SessionSync Unit := do
  let state ← Sync.get
  if state.isVaultUnlocked && !state.manuallyLocked then do
    assertVaultSessionLeaseMutationAllowed lease
    scheduleVaultAutoLockInternal
  else return ()

/-- What follows the last await of an unlock. -/
def installVaultSessionKey (vaultKey : CryptoKey)
    (role : VaultSessionKeyRole)
    (operation : Option VaultSessionOperation) :
    SessionSync (Option VaultSessionLease) := do
  assertVaultSessionMutationAllowed operation
  mutate fun core => { core with manuallyLocked := false }
  mutate (SessionCore.setSessionKeyRole role)
  mutate (SessionCore.setSessionVaultKey (some vaultKey))
  let lease ← commitVaultSessionLease operation vaultKey role
  scheduleVaultAutoLockInternal
  notifyVaultSessionChange
  return lease

/-- Install the key, commit its lease and start the timeout. -/
def unlockVaultSession (vaultKey : CryptoKey)
    (role : Option VaultSessionKeyRole)
    (operation : Option VaultSessionOperation) :
    SessionAsync (Option VaultSessionLease) := do
  Async.lift (assertVaultSessionMutationAllowed operation)
  Async.awaitOutcome (assertUserVaultKeyNonExtractable vaultKey)
  Async.lift (installVaultSessionKey vaultKey (role.getD .primary) operation)

/-- Clear the key, the tokens and the timeout, and tell everyone. -/
def lockVaultSession : SessionSync Unit := do
  mutate SessionCore.invalidateVaultSessionOperation
  mutate SessionCore.invalidateVaultSessionLease
  clearVaultAutoLockTimer
  Sync.modify fun state => { state with lastActivityAt := 0 }
  clearVaultInnerKeyMaterialCacheForSessionLock
  mutate SessionCore.lockVault
  mutate fun core => { core with manuallyLocked := true }
  runVaultLockCleanupHandlers
  notifyVaultSessionChange

/-- Whether sensitive state stands in a session that has no owner. -/
def SessionCore.hasUnownedSensitiveState (core : SessionCore) : Bool :=
  core.currentOwnerId.isNone &&
    (core.isVaultUnlocked || core.cachedEntry.isSome ||
      core.isVaultEmergencyMode)

def SessionCore.ownerChanged (core : SessionCore) (ownerId : JsString) :
    Bool :=
  match core.currentOwnerId with
  | some current => current != ownerId
  | none => false

/-- A new token for the owner; another owner's session is purged first. -/
def beginVaultSessionUnlock (ownerId : JsString) :
    SessionSync VaultSessionOperation := do
  Sync.ofExcept (assertVaultSessionOperationOwnerId ownerId)
  let state ← Sync.get
  if state.ownerChanged ownerId || state.hasUnownedSensitiveState then do
    lockVaultSession
    mutate SessionCore.clearEmergencyModePin
  else pure ()
  let issuing ← Sync.get
  mutate (SessionCore.issueVaultSessionOperation ownerId)
  return issuing.nextOperation

/-- Lock, and give up the pin and the owner. -/
def clearVaultSessionOwner : SessionSync Unit := do
  lockVaultSession
  mutate SessionCore.clearEmergencyModePin
  mutate SessionCore.clearVaultSessionOperationOwner

/-- Pin the emergency mode under a token. -/
def enterVaultEmergencyMode (operation : Option VaultSessionOperation) :
    SessionSync Unit := do
  assertVaultSessionMutationAllowed operation
  mutate SessionCore.enterVaultEmergencyMode

/-- Give up the pin under a token. -/
def clearEmergencyModePin (operation : Option VaultSessionOperation) :
    SessionSync Unit := do
  assertVaultSessionMutationAllowed operation
  mutate SessionCore.clearEmergencyModePin

/-- Forget that the user locked, and when the session was last used. -/
def resetVaultSessionLockState : SessionSync Unit := do
  mutate fun core => { core with manuallyLocked := false }
  clearVaultAutoLockTimer
  Sync.modify fun state => { state with lastActivityAt := 0 }
  notifyVaultSessionChange

/-- `null` where there is nothing to count down. -/
def getVaultAutoLockRemainingMs (state : SessionState) :
    Except VaultError (Option ℚ) :=
  if !state.isVaultUnlocked || state.manuallyLocked ||
      state.lastActivityAt == 0 then
    .ok none
  else do
    let timeout ← getAutoLockTimeoutMs state.sessionConfig
    return some (Max.max 0 (timeout - (state.now - state.lastActivityAt)))

end VaultCore
