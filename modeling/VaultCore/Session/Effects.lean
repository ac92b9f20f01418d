import VaultCore.Session.Calls

/-!
# What a segment does to the session

Every segment of every call changes the core of the session in one of the ways
listed in `SessionEffect`.  The invariants of the session are derived from
this list and never from the programs.
-/

namespace VaultCore

namespace SessionCore

/-- The core after `lockVaultSession`. -/
def locked (core : SessionCore) : SessionCore :=
  { core with
    currentEpoch := core.currentEpoch + 1
    currentOperation := none
    currentLease := none
    cachedEntry := none
    sessionVaultKey := none
    sessionKeyRole := none
    manuallyLocked := true }

/-- The core after a key has been installed and its lease committed. -/
def installed (core : SessionCore)
    (operation : Option VaultSessionOperation) (vaultKey : CryptoKey)
    (role : VaultSessionKeyRole) : SessionCore :=
  let keyed := setSessionVaultKey (some vaultKey)
    (setSessionKeyRole role { core with manuallyLocked := false })
  match operation.bind keyed.metadataOf with
  | some metadata =>
      registerLease (keyed.nextLease metadata vaultKey role) keyed
  | none => keyed.invalidateVaultSessionLease

/-- The lease that a token is given for a key, and none without a token. -/
def committedLease (core : SessionCore)
    (operation : Option VaultSessionOperation) (vaultKey : CryptoKey)
    (role : VaultSessionKeyRole) : Option VaultSessionLease :=
  (operation.bind core.metadataOf).map fun metadata =>
    core.nextLease metadata vaultKey role

end SessionCore

namespace SessionState

/-- The session after `lockVaultSession`. -/
def purged (state : SessionState) : SessionState :=
  { state.clearCachedEntry with
    toSessionCore := state.toSessionCore.locked
    inactivityTimer := none
    timeouts := state.timeouts.clear state.inactivityTimer
    lastActivityAt := 0 }

/-- The session in which a key has been set, before its lease is committed. -/
def keyed (state : SessionState) (vaultKey : CryptoKey)
    (role : VaultSessionKeyRole) : SessionState :=
  SessionState.mapCore (SessionCore.setSessionVaultKey (some vaultKey))
    (SessionState.mapCore (SessionCore.setSessionKeyRole role)
      (SessionState.mapCore (fun core => { core with manuallyLocked := false })
        state))

/-- When the timeout of a session fires that has been touched; none is set
when the duration does not resolve. -/
def rearmedTimer (state : SessionState) : Option ℚ :=
  match getAutoLockTimeoutMs state.sessionConfig with
  | .ok timeout => some (state.now + timeout)
  | .error _ => none

/-- The session after its timeout has been cleared and set again. -/
def rearmed (state : SessionState) : SessionState :=
  let cleared := state.timeouts.clear state.inactivityTimer
  let armed := state.rearmedTimer.map cleared.set
  { state with
    inactivityTimer := armed.map Prod.fst
    timeouts := (armed.map Prod.snd).getD cleared
    lastActivityAt := state.now }

theorem rearmed_autoLockDeadline (state : SessionState) :
    state.rearmed.autoLockDeadline = state.rearmedTimer := by
  rw [rearmed, autoLockDeadline]
  cases state.rearmedTimer with
  | none => rfl
  | some deadline => exact Timeouts.deadlineOf_set _ deadline

/-- The session after a key has been installed and its timer armed. -/
def installed (state : SessionState) (operation : Option VaultSessionOperation)
    (vaultKey : CryptoKey) (role : VaultSessionKeyRole) : SessionState :=
  { state.rearmed with
    toSessionCore := state.toSessionCore.installed operation vaultKey role }

end SessionState

/-- How the loop over the listeners ends. -/
def listenersOutcome : List Callback → Except VaultError Unit
  | [] => .ok ()
  | none :: rest => listenersOutcome rest
  | some error :: _ => .error error

/-- How the code that an unlock calls back ends: the resolver of the auto-lock
duration and the listeners. -/
def SessionState.callbacksOutcome (state : SessionState) :
    Except VaultError Unit := do
  let _ ← getAutoLockTimeoutMs state.sessionConfig
  listenersOutcome state.listeners

/-- What a call may do beyond clearing: install some keys in some roles, pin
the emergency mode, and release the pin in some sessions. -/
structure SessionPowers where
  installs : CryptoKey → VaultSessionKeyRole → Prop
  pins : Prop
  releases : SessionCore → Prop

/-- The powers of the environment. -/
def SessionPowers.none : SessionPowers :=
  { installs := fun _ _ => False, pins := False, releases := fun _ => False }

/-- The ways in which one segment of a call may change the core, for a call
with the given token and powers. -/
inductive SessionEffect (token : Option VaultSessionOperation)
    (powers : SessionPowers)
    (core : SessionCore) : SessionCore → Prop where
  | unchanged : SessionEffect token powers core core
  | locked : SessionEffect token powers core core.locked
  | deleted : SessionEffect token powers core
      { core.locked with manuallyLocked := false }
  | reset : SessionEffect token powers core
      { core with manuallyLocked := false }
  | disowned (may : powers.releases core) : SessionEffect token powers core
      core.locked.clearEmergencyModePin.clearVaultSessionOperationOwner
  | begun (ownerId : JsString) (sameOwner : core.ownerChanged ownerId = false)
      (clean : core.hasUnownedSensitiveState = false) :
      SessionEffect token powers core
        (core.issueVaultSessionOperation ownerId)
  | purged (ownerId : JsString) (may : powers.releases core) :
      SessionEffect token powers core
        (core.locked.clearEmergencyModePin.issueVaultSessionOperation ownerId)
  | installed (vaultKey : CryptoKey) (role : VaultSessionKeyRole)
      (allowed : core.mutationAllowed token = .ok ())
      (nonExtractable : vaultKey.extractable = false)
      (may : powers.installs vaultKey role) :
      SessionEffect token powers core (core.installed token vaultKey role)
  | cached (entry : VaultInnerKeyMaterialCacheEntry)
      (allowed : core.mutationAllowed token = .ok ()) :
      SessionEffect token powers core { core with cachedEntry := some entry }
  | uncached (allowed : core.mutationAllowed token = .ok ()) :
      SessionEffect token powers core { core with cachedEntry := none }
  | pinned (allowed : core.mutationAllowed token = .ok ()) (may : powers.pins) :
      SessionEffect token powers core core.enterVaultEmergencyMode
  | unpinned (allowed : core.mutationAllowed token = .ok ())
      (may : powers.releases core) :
      SessionEffect token powers core core.clearEmergencyModePin
  | exited (allowed : core.mutationAllowed token = .ok ())
      (may : powers.releases core) :
      SessionEffect token powers core core.clearEmergencyModePin.locked

/-- The effect on the states that the cores belong to. -/
def StateEffect (token : Option VaultSessionOperation)
    (powers : SessionPowers)
    (start finish : SessionState) : Prop :=
  SessionEffect token powers start.toSessionCore finish.toSessionCore

section Synchronous

theorem callListeners_apply (callbacks : List Callback)
    (state : SessionState) :
    callListeners callbacks state = (listenersOutcome callbacks, state) := by
  induction callbacks with
  | nil => rfl
  | cons callback rest ih =>
      cases callback with
      | none => exact ih
      | some error => rfl

theorem listenersOutcome_ok_iff {listeners : List Callback} :
    listenersOutcome listeners = .ok () ↔
      ∀ listener ∈ listeners, listener = none := by
  induction listeners with
  | nil => simp [listenersOutcome]
  | cons listener rest ih =>
      rw [List.forall_mem_cons]
      cases listener with
      | none => simp [listenersOutcome, ih]
      | some error => simp [listenersOutcome]

theorem notifyVaultSessionChange_apply (state : SessionState) :
    notifyVaultSessionChange state =
      (listenersOutcome state.listeners, state) :=
  callListeners_apply state.listeners state

theorem callCleanupHandlers_apply (callbacks : List Callback)
    (state : SessionState) :
    callCleanupHandlers callbacks state = (.ok (), state) := by
  induction callbacks with
  | nil => rfl
  | cons callback rest ih =>
      cases callback with
      | none => exact ih
      | some error => exact ih

theorem runVaultLockCleanupHandlers_apply (state : SessionState) :
    runVaultLockCleanupHandlers state = (.ok (), state) :=
  callCleanupHandlers_apply state.lockCleanupHandlers state

theorem clearCachedEntry_core (state : SessionState) :
    state.clearCachedEntry.toSessionCore =
      { state.toSessionCore with cachedEntry := none } := by
  unfold SessionState.clearCachedEntry
  cases state.cachedEntry <;> rfl

/-- A lock, whatever its cleanup handlers do. -/
theorem lockVaultSession_apply (state : SessionState) :
    lockVaultSession state =
      (listenersOutcome state.listeners, state.purged) := by
  have emptied : lockVaultSession state =
      (runVaultLockCleanupHandlers >>= fun _ => notifyVaultSessionChange)
        state.purged := by
    obtain ⟨core, config, timer, timeouts, activity, now, listeners,
      handlers, buffers⟩ := state
    obtain ⟨vaultKey, mode, role, pinned, operations, leases, epoch, owner,
      operation, lease, enabled, manual, cached⟩ := core
    cases cached with
    | none => rfl
    | some entry => rfl
  have listeners : state.purged.listeners = state.listeners := by
    rw [SessionState.purged, SessionState.clearCachedEntry]
    cases state.cachedEntry <;> rfl
  rw [emptied, Sync.bind_ok (runVaultLockCleanupHandlers_apply _),
    notifyVaultSessionChange_apply, listeners]

/-- However its callbacks behave, locking locks. -/
theorem lockVaultSession_core (state : SessionState) :
    (lockVaultSession state).2.toSessionCore =
      state.toSessionCore.locked := by
  rw [lockVaultSession_apply]
  rfl

theorem resetVaultSessionLockState_core (state : SessionState) :
    (resetVaultSessionLockState state).2.toSessionCore =
      { state.toSessionCore with manuallyLocked := false } := by
  simp only [resetVaultSessionLockState, mutate, clearVaultAutoLockTimer,
    Sync.bind_apply, Sync.modify_apply, notifyVaultSessionChange_apply]
  rfl

theorem scheduleVaultAutoLockInternal_active {state : SessionState}
    (unlocked : state.isVaultUnlocked = true)
    (notLocked : state.manuallyLocked = false) :
    scheduleVaultAutoLockInternal state =
      ((do
        let _ ← getAutoLockTimeoutMs state.sessionConfig
        return ()), state.rearmed) := by
  simp only [scheduleVaultAutoLockInternal, Sync.bind_apply, Sync.get_apply,
    unlocked, notLocked, Bool.not_true, Bool.or_self, Bool.false_eq_true,
    if_false, clearVaultAutoLockTimer, Sync.modify_apply, Sync.ofExcept_apply,
    SessionState.rearmed, SessionState.rearmedTimer]
  cases getAutoLockTimeoutMs state.sessionConfig <;> rfl

theorem scheduleVaultAutoLockInternal_core (state : SessionState) :
    (scheduleVaultAutoLockInternal state).2.toSessionCore =
      state.toSessionCore := by
  simp only [scheduleVaultAutoLockInternal, Sync.bind_apply, Sync.get_apply]
  split
  · rfl
  · simp only [clearVaultAutoLockTimer, Sync.bind_apply, Sync.modify_apply,
      Sync.ofExcept_apply]
    cases getAutoLockTimeoutMs state.sessionConfig <;> rfl

theorem scheduleVaultAutoLock_core (lease : Option VaultSessionLease)
    (state : SessionState) :
    (scheduleVaultAutoLock lease state).2.toSessionCore =
      state.toSessionCore := by
  simp only [scheduleVaultAutoLock, Sync.bind_apply, Sync.get_apply]
  split
  · rfl
  · simp only [assertVaultSessionLeaseMutationAllowed, Sync.bind_apply]
    cases state.leaseMutationAllowed lease with
    | error error => rfl
    | ok _ => exact scheduleVaultAutoLockInternal_core state

theorem touchVaultSession_core (lease : Option VaultSessionLease)
    (state : SessionState) :
    (touchVaultSession lease state).2.toSessionCore =
      state.toSessionCore := by
  simp only [touchVaultSession, Sync.bind_apply, Sync.get_apply]
  split
  · simp only [assertVaultSessionLeaseMutationAllowed, Sync.bind_apply]
    cases state.leaseMutationAllowed lease with
    | error error => rfl
    | ok _ => exact scheduleVaultAutoLockInternal_core state
  · rfl

section Effects

variable {token : Option VaultSessionOperation}
  {powers : SessionPowers}

theorem StateEffect.of_core_eq {start finish : SessionState}
    (same : finish.toSessionCore = start.toSessionCore) :
    StateEffect token powers start finish := by
  unfold StateEffect
  rw [same]
  exact .unchanged

theorem lockVaultSession_effect (state : SessionState) :
    StateEffect token powers state (lockVaultSession state).2 := by
  unfold StateEffect
  rw [lockVaultSession_core]
  exact .locked

theorem beginVaultSessionUnlock_effect (ownerId : JsString)
    (state : SessionState)
    (may : state.ownerChanged ownerId = true ∨
      state.hasUnownedSensitiveState = true →
        powers.releases state.toSessionCore) :
    StateEffect token powers state
      (beginVaultSessionUnlock ownerId state).2 := by
  simp only [beginVaultSessionUnlock, Sync.bind_apply, Sync.ofExcept_apply,
    Sync.get_apply]
  cases assertVaultSessionOperationOwnerId ownerId with
  | error error => exact .unchanged
  | ok _ =>
      simp only
      split
      · rename_i purge
        rw [Bool.or_eq_true] at purge
        have lockedCore := lockVaultSession_core state
        simp only [Sync.bind_apply, mutate, Sync.modify_apply]
        cases result : lockVaultSession state with
        | mk outcome middle =>
            simp only [result] at lockedCore
            cases outcome with
            | error error =>
                change SessionEffect token powers _ middle.toSessionCore
                rw [lockedCore]
                exact .locked
            | ok _ =>
                change SessionEffect token powers _
                  (middle.toSessionCore.clearEmergencyModePin
                    |>.issueVaultSessionOperation ownerId)
                rw [lockedCore]
                exact .purged ownerId (may purge)
      · rename_i noPurge
        simp only [Bool.or_eq_true, not_or, Bool.not_eq_true] at noPurge
        exact .begun ownerId noPurge.1 noPurge.2

theorem clearVaultSessionOwner_effect (state : SessionState)
    (may : powers.releases state.toSessionCore) :
    StateEffect token powers state (clearVaultSessionOwner state).2 := by
  have lockedCore := lockVaultSession_core state
  simp only [clearVaultSessionOwner, Sync.bind_apply, mutate,
    Sync.modify_apply]
  cases result : lockVaultSession state with
  | mk outcome middle =>
      simp only [result] at lockedCore
      cases outcome with
      | error error =>
          change SessionEffect token powers _ middle.toSessionCore
          rw [lockedCore]
          exact .locked
      | ok _ =>
          change SessionEffect token powers _
            (middle.toSessionCore.clearEmergencyModePin
              |>.clearVaultSessionOperationOwner)
          rw [lockedCore]
          exact .disowned may

theorem enterVaultEmergencyMode_effect (state : SessionState)
    (may : powers.pins) :
    StateEffect token powers state
      (enterVaultEmergencyMode token state).2 := by
  simp only [enterVaultEmergencyMode, assertVaultSessionMutationAllowed,
    mutate, Sync.bind_apply, Sync.modify_apply]
  cases allowed : state.mutationAllowed token with
  | error error => exact .unchanged
  | ok _ => exact .pinned allowed may

theorem clearEmergencyModePin_effect (state : SessionState)
    (may : state.mutationAllowed token = .ok () →
      powers.releases state.toSessionCore) :
    StateEffect token powers state
      (clearEmergencyModePin token state).2 := by
  simp only [clearEmergencyModePin, assertVaultSessionMutationAllowed,
    mutate, Sync.bind_apply, Sync.modify_apply]
  cases allowed : state.mutationAllowed token with
  | error error => exact .unchanged
  | ok _ => exact .unpinned allowed (may allowed)

theorem hydrateVaultEmergencyModeFromServer_effect (active : Bool)
    (state : SessionState) (may : active = true → powers.pins) :
    StateEffect token powers state
      (hydrateVaultEmergencyModeFromServer active token state).2 := by
  simp only [hydrateVaultEmergencyModeFromServer,
    assertVaultSessionMutationAllowed, Sync.bind_apply]
  cases state.mutationAllowed token with
  | error error => exact .unchanged
  | ok _ =>
      cases active with
      | false => exact .unchanged
      | true => exact enterVaultEmergencyMode_effect state (may rfl)

theorem clearVaultInnerKeyMaterialCache_effect (state : SessionState) :
    StateEffect token powers state
      (clearVaultInnerKeyMaterialCache token state).2 := by
  simp only [clearVaultInnerKeyMaterialCache, clearCachedEntry,
    assertVaultSessionMutationAllowed, Sync.bind_apply, Sync.modify_apply]
  cases allowed : state.mutationAllowed token with
  | error error => exact .unchanged
  | ok _ =>
      unfold StateEffect
      simp only [clearCachedEntry_core]
      exact .uncached allowed

theorem getCachedVaultInnerKeyMaterial_state (state : SessionState) :
    (getCachedVaultInnerKeyMaterial token state).2 = state := by
  simp only [getCachedVaultInnerKeyMaterial,
    assertVaultSessionMutationAllowed, Sync.bind_apply]
  cases state.mutationAllowed token <;> rfl

theorem storeCachedEntry_effect (inner : BufferRef) (wrappingKey : CryptoKey)
    (state : SessionState)
    (allowed : state.mutationAllowed token = .ok ()) :
    StateEffect token powers state
      (storeCachedEntry inner wrappingKey state).2 := by
  unfold StateEffect
  simp only [storeCachedEntry, clearCachedEntry, mutate, Sync.bind_apply,
    Sync.modify_apply, SessionState.mapCore_core, clearCachedEntry_core]
  exact .cached { inner, wrappingKey } allowed

theorem mutationAllowed_keyed (core : SessionCore)
    (vaultKey : CryptoKey) (role : VaultSessionKeyRole) :
    (SessionCore.setSessionVaultKey (some vaultKey)
      (SessionCore.setSessionKeyRole role
        { core with manuallyLocked := false })).mutationAllowed token =
      core.mutationAllowed token := by
  cases role <;> cases token <;> rfl

theorem SessionCore.metadataOf_of_allowed {core : SessionCore}
    {operation : VaultSessionOperation}
    (allowed : core.mutationAllowed (some operation) = .ok ()) :
    ∃ metadata, core.metadataOf operation = some metadata := by
  unfold SessionCore.mutationAllowed
    SessionCore.isVaultSessionOperationCurrent at allowed
  cases found : core.metadataOf operation with
  | none => simp [found] at allowed
  | some metadata => exact ⟨metadata, rfl⟩

namespace SessionCore

/-- What installing a key makes of the session. -/
structure Installed (core : SessionCore) (installedKey : CryptoKey)
    (installedRole : VaultSessionKeyRole)
    (committed : Option VaultSessionLease) (finish : SessionCore) : Prop where
  vaultKey : finish.sessionVaultKey = some installedKey
  role : finish.sessionKeyRole = some installedRole
  unlocked : finish.manuallyLocked = false
  lease : finish.currentLease = committed
  leases : finish.leaseMetadata = core.leaseMetadata ++ committed.toList
  operation : finish.currentOperation = core.currentOperation
  operations : finish.operationMetadata = core.operationMetadata
  owner : finish.currentOwnerId = core.currentOwnerId
  epoch : finish.currentEpoch = core.currentEpoch
  enabled : finish.ownershipModeEnabled = core.ownershipModeEnabled
  pin : finish.emergencyModePinned =
    (core.emergencyModePinned || installedRole == .decoy)
  mode : finish.sessionMode =
    if installedRole = .decoy then .emergency else core.sessionMode

theorem installed_none (core : SessionCore) (vaultKey : CryptoKey)
    (role : VaultSessionKeyRole) :
    Installed core vaultKey role none (core.installed none vaultKey role) := by
  cases role with
  | primary =>
      exact ⟨rfl, rfl, rfl, rfl, (List.append_nil _).symm, rfl, rfl, rfl, rfl,
        rfl, (Bool.or_false _).symm, rfl⟩
  | decoy =>
      exact ⟨rfl, rfl, rfl, rfl, (List.append_nil _).symm, rfl, rfl, rfl, rfl,
        rfl, (Bool.or_true _).symm, rfl⟩

theorem installed_some {core : SessionCore}
    {operation : VaultSessionOperation}
    {metadata : VaultSessionOperationMetadata}
    (found : core.metadataOf operation = some metadata)
    (vaultKey : CryptoKey) (role : VaultSessionKeyRole) :
    Installed core vaultKey role (some (core.nextLease metadata vaultKey role))
      (core.installed (some operation) vaultKey role) := by
  have keyedFound : ((setSessionVaultKey (some vaultKey)
      (setSessionKeyRole role
        { core with manuallyLocked := false })).metadataOf operation) =
      some metadata := by
    rw [← found]
    cases role <;> rfl
  unfold installed
  simp only [Option.bind_some, keyedFound]
  cases role with
  | primary =>
      exact ⟨rfl, rfl, rfl, rfl, rfl, rfl, rfl, rfl, rfl, rfl,
        (Bool.or_false _).symm, rfl⟩
  | decoy =>
      exact ⟨rfl, rfl, rfl, rfl, rfl, rfl, rfl, rfl, rfl, rfl,
        (Bool.or_true _).symm, rfl⟩

/-- Installing an allowed key gives it at most one lease. -/
theorem installed_of_allowed {core : SessionCore}
    {token : Option VaultSessionOperation}
    (allowed : core.mutationAllowed token = .ok ()) (vaultKey : CryptoKey)
    (role : VaultSessionKeyRole) :
    ∃ committed,
      Installed core vaultKey role committed
        (core.installed token vaultKey role) ∧
      ∀ lease, committed = some lease →
        lease.id = core.leaseMetadata.length := by
  cases token with
  | none =>
      refine ⟨none, installed_none core vaultKey role, ?_⟩
      intro lease impossible
      cases impossible
  | some operation =>
      obtain ⟨metadata, found⟩ := metadataOf_of_allowed allowed
      refine ⟨_, installed_some found vaultKey role, ?_⟩
      intro lease same
      cases same
      rfl

end SessionCore

theorem committedLease_keyed (state : SessionState) (vaultKey : CryptoKey)
    (role : VaultSessionKeyRole) :
    (state.keyed vaultKey role).committedLease token vaultKey role =
      state.committedLease token vaultKey role := by
  cases role <;> rfl

/-- The lease of an allowed operation is committed for the key just set. -/
theorem commitVaultSessionLease_keyed {state : SessionState}
    (vaultKey : CryptoKey) (role : VaultSessionKeyRole)
    (allowed : state.mutationAllowed token = .ok ()) :
    commitVaultSessionLease token vaultKey role (state.keyed vaultKey role) =
      (.ok (state.committedLease token vaultKey role),
        { state with
          toSessionCore :=
            state.toSessionCore.installed token vaultKey role }) := by
  have keyedAllowed : (state.keyed vaultKey role).mutationAllowed token =
      .ok () := (mutationAllowed_keyed state.toSessionCore vaultKey role).trans
    allowed
  rw [← committedLease_keyed]
  simp only [commitVaultSessionLease, assertVaultSessionMutationAllowed,
    Sync.bind_apply, keyedAllowed]
  cases token with
  | none => rfl
  | some operation =>
      obtain ⟨metadata, found⟩ :=
        SessionCore.metadataOf_of_allowed keyedAllowed
      have installedFound : ((SessionCore.setSessionVaultKey (some vaultKey)
          (SessionCore.setSessionKeyRole role
            { state.toSessionCore with
              manuallyLocked := false })).metadataOf operation) =
          some metadata := found
      simp only [Sync.bind_apply, Sync.get_apply, found,
        SessionCore.committedLease, Option.bind_some, Option.map_some,
        SessionCore.installed, installedFound]
      rfl

/-- Installing a key, and how the code that it calls back ends it. -/
theorem installVaultSessionKey_apply (vaultKey : CryptoKey)
    (role : VaultSessionKeyRole) (state : SessionState)
    (allowed : state.mutationAllowed token = .ok ()) :
    installVaultSessionKey vaultKey role token state =
      ((do
        state.callbacksOutcome
        return state.committedLease token vaultKey role),
        state.installed token vaultKey role) := by
  obtain ⟨committed, fields, -⟩ :=
    SessionCore.installed_of_allowed allowed vaultKey role
  have scheduled := @scheduleVaultAutoLockInternal_active
    { state with
      toSessionCore := state.toSessionCore.installed token vaultKey role }
    (congrArg Option.isSome fields.vaultKey) fields.unlocked
  have commit := commitVaultSessionLease_keyed vaultKey role allowed
  have continued : installVaultSessionKey vaultKey role token state =
      (do
        let lease ← commitVaultSessionLease token vaultKey role
        scheduleVaultAutoLockInternal
        notifyVaultSessionChange
        return lease : SessionSync (Option VaultSessionLease))
        (state.keyed vaultKey role) := by
    simp only [installVaultSessionKey, assertVaultSessionMutationAllowed,
      mutate, Sync.bind_apply, Sync.modify_apply, allowed]
    rfl
  have notified := notifyVaultSessionChange_apply
    (state.installed token vaultKey role)
  have listeners : (state.installed token vaultKey role).listeners =
      state.listeners := rfl
  rw [continued, Sync.bind_ok commit, SessionState.callbacksOutcome]
  cases resolved : getAutoLockTimeoutMs state.sessionConfig with
  | error error =>
      have failed : getAutoLockTimeoutMs { state with
          toSessionCore := state.toSessionCore.installed token vaultKey
            role }.sessionConfig = .error error := resolved
      rw [failed] at scheduled
      exact Sync.bind_error scheduled
  | ok timeout =>
      have armed : getAutoLockTimeoutMs { state with
          toSessionCore := state.toSessionCore.installed token vaultKey
            role }.sessionConfig = .ok timeout := resolved
      rw [armed] at scheduled
      rw [Sync.bind_ok scheduled]
      cases ended : listenersOutcome state.listeners with
      | error error =>
          rw [listeners, ended] at notified
          exact Sync.bind_error notified
      | ok _ =>
          rw [listeners, ended] at notified
          exact Sync.bind_ok notified

theorem installVaultSessionKey_core (vaultKey : CryptoKey)
    (role : VaultSessionKeyRole) (state : SessionState)
    (allowed : state.mutationAllowed token = .ok ()) :
    (installVaultSessionKey vaultKey role token state).2.toSessionCore =
      state.toSessionCore.installed token vaultKey role := by
  rw [installVaultSessionKey_apply vaultKey role state allowed]
  rfl

theorem installVaultSessionKey_effect (vaultKey : CryptoKey)
    (role : VaultSessionKeyRole) (state : SessionState)
    (nonExtractable : vaultKey.extractable = false)
    (may : powers.installs vaultKey role) :
    StateEffect token powers state
      (installVaultSessionKey vaultKey role token state).2 := by
  cases allowed : state.mutationAllowed token with
  | ok _ =>
      unfold StateEffect
      rw [installVaultSessionKey_core vaultKey role state allowed]
      exact .installed vaultKey role allowed nonExtractable may
  | error error =>
      simp only [installVaultSessionKey, assertVaultSessionMutationAllowed,
        Sync.bind_apply, allowed]
      exact .unchanged

end Effects

end Synchronous

end VaultCore
