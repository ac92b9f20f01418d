import VaultCore.Session.Effects
import VaultCore.Async.Ownership
import VaultCore.Crypto.Reference
import Mathlib.Tactic.Linarith

/-!
# The auto-lock countdown

Arming the timer fixes its deadline; the countdown is computed afresh from the
configuration whenever it is asked for.  The two agree as long as the
configuration resolves to the duration the timer was armed with and nothing
takes the timer away from an unlocked session.  The pending timeouts are a
collection: that no second one is ever pending is part of what every step
keeps.
-/

namespace VaultCore

/-! ## The configured duration -/

/-- What an administrator allows at most. -/
def vaultAutoLockCeilingMs (config : VaultSessionConfig) : ℚ :=
  clampVaultAutoLockMinutes
    (positiveMinutes (config.autoLockMinutes.getD
      (.finite defaultVaultAutoLockMinutes)))
    vaultUserAutoLockMinMinutes maxVaultAutoLockMinutes * 60 * 1000

theorem min_le_clampVaultAutoLockMinutes (minutes : ConfiguredNumber)
    (min max : ℚ) : min ≤ clampVaultAutoLockMinutes minutes min max := by
  cases minutes with
  | notFinite => exact le_rfl
  | finite value =>
      simp only [clampVaultAutoLockMinutes]
      split_ifs <;> linarith

theorem clampVaultAutoLockMinutes_le_max (minutes : ConfiguredNumber)
    {min max : ℚ} (ordered : min ≤ max) :
    clampVaultAutoLockMinutes minutes min max ≤ max := by
  cases minutes with
  | notFinite => exact ordered
  | finite value =>
      simp only [clampVaultAutoLockMinutes, if_pos ordered]
      split_ifs <;> linarith

/-- A resolved duration is at least a minute and within the ceiling. -/
theorem getAutoLockTimeoutMs_bounds {config : VaultSessionConfig}
    {timeout : ℚ} (resolved : getAutoLockTimeoutMs config = .ok timeout) :
    60000 ≤ timeout ∧ timeout ≤ vaultAutoLockCeilingMs config := by
  obtain ⟨minutes, clamped, same⟩ := Outcome.bind_eq_ok_iff.mp resolved
  obtain ⟨preferred, -, returned⟩ := Outcome.bind_eq_ok_iff.mp clamped
  obtain rfl := Except.ok.inj same
  obtain rfl := Except.ok.inj returned
  have ceiling := min_le_clampVaultAutoLockMinutes
    (positiveMinutes (config.autoLockMinutes.getD
      (.finite defaultVaultAutoLockMinutes)))
    vaultUserAutoLockMinMinutes maxVaultAutoLockMinutes
  have lower := min_le_clampVaultAutoLockMinutes
    (positiveMinutes (preferred.getD (config.autoLockMinutes.getD
      (.finite defaultVaultAutoLockMinutes))))
    vaultUserAutoLockMinMinutes (clampVaultAutoLockMinutes
      (positiveMinutes (config.autoLockMinutes.getD
        (.finite defaultVaultAutoLockMinutes)))
      vaultUserAutoLockMinMinutes maxVaultAutoLockMinutes)
  have upper := clampVaultAutoLockMinutes_le_max
    (positiveMinutes (preferred.getD (config.autoLockMinutes.getD
      (.finite defaultVaultAutoLockMinutes)))) ceiling
  have one : vaultUserAutoLockMinMinutes = 1 := rfl
  constructor
  · linarith
  · rw [vaultAutoLockCeilingMs]
    linarith

/-! ## What a segment does to the timer -/

/-- Nothing the countdown depends on changes. -/
structure KeepsTimer (start finish : SessionState) : Prop where
  unlocked : finish.isVaultUnlocked = start.isVaultUnlocked
  manuallyLocked : finish.manuallyLocked = start.manuallyLocked
  timer : finish.inactivityTimer = start.inactivityTimer
  timeouts : finish.timeouts = start.timeouts
  lastActivityAt : finish.lastActivityAt = start.lastActivityAt
  now : finish.now = start.now
  config : finish.sessionConfig = start.sessionConfig

/-- The one pending timeout is that of `inactivityTimer`. -/
def SessionState.LocksAt (state : SessionState) (deadline : ℚ) : Prop :=
  ∃ handle, state.inactivityTimer = some handle ∧
    state.timeouts.pending = [⟨handle, deadline⟩]

/-- The session ends locked, and no timeout outlasts the lock. -/
structure LocksSession (start finish : SessionState) : Prop where
  locked : finish.isVaultUnlocked = false
  now : finish.now = start.now
  cleared : start.HoldsTimer → finish.timeouts.pending = []

/-- The timer is cleared, and set again if the duration resolves. -/
structure ArmsTimer (start finish : SessionState) : Prop where
  unlocked : finish.isVaultUnlocked = true
  manuallyLocked : finish.manuallyLocked = false
  timer : finish.inactivityTimer = start.rearmed.inactivityTimer
  timeouts : finish.timeouts = start.rearmed.timeouts
  lastActivityAt : finish.lastActivityAt = start.now
  now : finish.now = start.now
  config : finish.sessionConfig = start.sessionConfig

theorem KeepsTimer.refl (state : SessionState) : KeepsTimer state state :=
  ⟨rfl, rfl, rfl, rfl, rfl, rfl, rfl⟩

theorem LocksSession.holdsTimer {start finish : SessionState}
    (locks : LocksSession start finish) (holds : start.HoldsTimer) :
    finish.HoldsTimer :=
  .empty (locks.cleared holds) _

theorem ArmsTimer.locksAt {start finish : SessionState} {timeout : ℚ}
    (arms : ArmsTimer start finish) (holds : start.HoldsTimer)
    (resolved : getAutoLockTimeoutMs start.sessionConfig = .ok timeout) :
    finish.LocksAt (start.now + timeout) := by
  have rearmed : start.rearmedTimer = some (start.now + timeout) := by
    simp only [SessionState.rearmedTimer, resolved]
  refine ⟨(start.timeouts.clear start.inactivityTimer).issued + 1, ?_, ?_⟩
  · rw [arms.timer, SessionState.rearmed, rearmed]
    rfl
  · rw [arms.timeouts, SessionState.rearmed, rearmed]
    exact holds.clear_set_pending

theorem ArmsTimer.autoLockDeadline {start finish : SessionState}
    (arms : ArmsTimer start finish) :
    finish.autoLockDeadline = start.rearmedTimer := by
  rw [SessionState.autoLockDeadline, arms.timer, arms.timeouts]
  exact start.rearmed_autoLockDeadline

theorem SessionState.LocksAt.holdsTimer {state : SessionState} {deadline : ℚ}
    (locks : state.LocksAt deadline) : state.HoldsTimer := by
  obtain ⟨handle, held, only⟩ := locks
  rw [HoldsTimer, held]
  exact .of_pending only

section Segments

variable {state : SessionState}

theorem clearCachedEntry_now (state : SessionState) :
    state.clearCachedEntry.now = state.now := by
  rw [SessionState.clearCachedEntry]
  cases state.cachedEntry <;> rfl

theorem lockVaultSession_locks (state : SessionState) :
    LocksSession state (lockVaultSession state).2 := by
  rw [lockVaultSession_apply]
  constructor
  case locked => rfl
  case now => exact clearCachedEntry_now state
  case cleared => exact fun holds => holds.clear_pending

theorem scheduleVaultAutoLockInternal_arms
    (unlocked : state.isVaultUnlocked = true)
    (notLocked : state.manuallyLocked = false) :
    ArmsTimer state (scheduleVaultAutoLockInternal state).2 := by
  rw [scheduleVaultAutoLockInternal_active unlocked notLocked]
  exact
    { unlocked := unlocked
      manuallyLocked := notLocked
      timer := rfl
      timeouts := rfl
      lastActivityAt := rfl
      now := rfl
      config := rfl }

/-- A touch under a lease the session accepts. -/
def SessionState.acceptsTouch (state : SessionState)
    (lease : Option VaultSessionLease) : Bool :=
  state.isVaultUnlocked && !state.manuallyLocked &&
    (state.leaseMutationAllowed lease).isOk

/-- A touch is a scheduling. -/
theorem touchVaultSession_eq (lease : Option VaultSessionLease)
    (state : SessionState) :
    touchVaultSession lease state = scheduleVaultAutoLock lease state := by
  by_cases active : state.isVaultUnlocked = true ∧
      state.manuallyLocked = false
  · simp only [touchVaultSession, scheduleVaultAutoLock, Sync.bind_apply,
      Sync.get_apply, active.1, active.2, Bool.not_false, Bool.and_self,
      Bool.not_true, Bool.or_self, Bool.false_eq_true, ↓reduceIte]
  · have inactive : (state.isVaultUnlocked && !state.manuallyLocked) =
        false := by
      simpa using active
    have skipped : (!state.isVaultUnlocked || state.manuallyLocked) = true := by
      cases unlocked : state.isVaultUnlocked with
      | false => rfl
      | true => simpa [unlocked] using active
    simp only [touchVaultSession, scheduleVaultAutoLock, Sync.bind_apply,
      Sync.get_apply, inactive, skipped, Bool.false_eq_true, ↓reduceIte]

theorem scheduleVaultAutoLock_arms {lease : Option VaultSessionLease}
    (accepted : state.acceptsTouch lease = true) :
    ArmsTimer state (scheduleVaultAutoLock lease state).2 := by
  simp only [SessionState.acceptsTouch, Bool.and_eq_true,
    Bool.not_eq_true'] at accepted
  obtain ⟨⟨unlocked, notLocked⟩, allowed⟩ := accepted
  simp only [scheduleVaultAutoLock, Sync.bind_apply, Sync.get_apply, unlocked,
    notLocked, Bool.not_true, Bool.or_self, Bool.false_eq_true, ↓reduceIte,
    assertVaultSessionLeaseMutationAllowed]
  cases checked : state.leaseMutationAllowed lease with
  | ok _ => exact scheduleVaultAutoLockInternal_arms unlocked notLocked
  | error error =>
      rw [checked] at allowed
      cases allowed

theorem scheduleVaultAutoLock_keeps {lease : Option VaultSessionLease}
    (refused : state.acceptsTouch lease = false) :
    KeepsTimer state (scheduleVaultAutoLock lease state).2 := by
  by_cases active : state.isVaultUnlocked = true ∧
      state.manuallyLocked = false
  · obtain ⟨unlocked, notLocked⟩ := active
    simp only [SessionState.acceptsTouch, unlocked, notLocked, Bool.not_false,
      Bool.and_self, Bool.true_and] at refused
    simp only [scheduleVaultAutoLock, Sync.bind_apply, Sync.get_apply,
      unlocked, notLocked, Bool.not_true, Bool.or_self, Bool.false_eq_true,
      ↓reduceIte, assertVaultSessionLeaseMutationAllowed]
    cases checked : state.leaseMutationAllowed lease with
    | ok _ =>
        rw [checked] at refused
        cases refused
    | error error => exact KeepsTimer.refl state
  · have skipped : (!state.isVaultUnlocked || state.manuallyLocked) = true := by
      cases unlocked : state.isVaultUnlocked with
      | false => rfl
      | true => simpa [unlocked] using active
    simp only [scheduleVaultAutoLock, Sync.bind_apply, Sync.get_apply, skipped,
      ↓reduceIte]
    exact KeepsTimer.refl state

/-- A reset of a locked session leaves it locked. -/
theorem resetVaultSessionLockState_locks
    (locked : state.isVaultUnlocked = false) :
    LocksSession state (resetVaultSessionLockState state).2 := by
  have core := resetVaultSessionLockState_core state
  constructor
  case locked =>
    rw [SessionCore.isVaultUnlocked, core]
    exact locked
  case now =>
    simp only [resetVaultSessionLockState, mutate, clearVaultAutoLockTimer,
      Sync.bind_apply, Sync.modify_apply, notifyVaultSessionChange_apply]
    rfl
  case cleared =>
    intro holds
    simp only [resetVaultSessionLockState, mutate, clearVaultAutoLockTimer,
      Sync.bind_apply, Sync.modify_apply, notifyVaultSessionChange_apply]
    exact holds.clear_pending

theorem beginVaultSessionUnlock_effect_timer (ownerId : JsString) :
    KeepsTimer state (beginVaultSessionUnlock ownerId state).2 ∨
      LocksSession state (beginVaultSessionUnlock ownerId state).2 := by
  simp only [beginVaultSessionUnlock, Sync.bind_apply, Sync.ofExcept_apply,
    Sync.get_apply]
  cases assertVaultSessionOperationOwnerId ownerId with
  | error error => exact .inl (KeepsTimer.refl state)
  | ok _ =>
      simp only
      split
      · right
        have locks := lockVaultSession_locks state
        simp only [Sync.bind_apply, mutate, Sync.modify_apply]
        cases result : lockVaultSession state with
        | mk outcome middle =>
            rw [result] at locks
            cases outcome with
            | error error => exact locks
            | ok _ =>
                exact
                  { locked := locks.locked
                    now := locks.now
                    cleared := locks.cleared }
      · exact .inl ⟨rfl, rfl, rfl, rfl, rfl, rfl, rfl⟩

/-- Installing a key arms the timer. -/
theorem installVaultSessionKey_arms {vaultKey : CryptoKey}
    {role : VaultSessionKeyRole} {operation : Option VaultSessionOperation}
    (allowed : state.mutationAllowed operation = .ok ()) :
    ArmsTimer state
      (installVaultSessionKey vaultKey role operation state).2 := by
  obtain ⟨committed, fields, -⟩ :=
    SessionCore.installed_of_allowed allowed vaultKey role
  rw [installVaultSessionKey_apply vaultKey role state allowed]
  exact
    { unlocked := congrArg Option.isSome fields.vaultKey
      manuallyLocked := fields.unlocked
      timer := rfl
      timeouts := rfl
      lastActivityAt := rfl
      now := rfl
      config := rfl }

end Segments

/-! ## The calls and their segments -/

/-- The calls that decide over the timer. -/
def SessionCall.drivesAutoLock : SessionCall → Bool
  | .beginVaultSessionUnlock _ => true
  | .unlockVaultSession _ _ _ => true
  | .lockVaultSession => true
  | .scheduleVaultAutoLock _ => true
  | .touchVaultSession _ => true
  | .resetVaultSessionLockState => true
  | .deleteVaultAfterAuthorization _ _ => true
  | _ => false

/-- An unlock after its await. -/
def unlockRest (vaultKey : CryptoKey) (role : Option VaultSessionKeyRole)
    (operation : Option VaultSessionOperation) : SessionAsync SessionValue :=
  ((Async.done (assertUserVaultKeyNonExtractable vaultKey) :
      SessionAsync Unit) >>= fun _ =>
    Async.lift
      (installVaultSessionKey vaultKey (role.getD .primary) operation)) >>=
    fun lease => pure (.lease lease)

/-- A deletion after its await. -/
def deletionRest (purgePersistedVault : Except VaultError Unit)
    (operation : Option VaultSessionOperation) : SessionAsync SessionValue :=
  ((Async.done purgePersistedVault : SessionAsync Unit) >>= fun _ =>
    Async.lift do
      assertVaultSessionMutationAllowed operation
      lockVaultSession
      resetVaultSessionLockState) >>= fun _ => pure .unit

/-- What a suspended call has left to do. -/
def SessionCall.rest? : SessionCall → Option (SessionAsync SessionValue)
  | .unlockVaultSession vaultKey role operation =>
      some (unlockRest vaultKey role operation)
  | .deleteVaultAfterAuthorization purgePersistedVault operation =>
      some (deletionRest purgePersistedVault operation)
  | _ => none

/-- A task has ended, or stands at the one await of its call. -/
def StandsAtAwait (task : SessionCall × SessionAsync SessionValue) : Prop :=
  (∃ outcome, task.2 = .done outcome) ∨
    ∃ rest, task.1.rest? = some rest ∧ task.2 = .pause rest

/-- An unlock whose key and token are accepted. -/
def SessionState.acceptsUnlock (state : SessionState) (vaultKey : CryptoKey)
    (operation : Option VaultSessionOperation) : Bool :=
  (assertUserVaultKeyNonExtractable vaultKey).isOk &&
    (state.mutationAllowed operation).isOk

section Programs

variable {platform : Platform} {state : SessionState}

theorem synchronousCall_runSegment {α : Type} (value : α → SessionValue)
    (code : SessionSync α) :
    (synchronousCall value code).runSegment state =
      (.done ((code state).1.map value), (code state).2) := by
  change (((Async.done (code state).1 : SessionAsync α) >>= fun result =>
    (pure (value result) : SessionAsync SessionValue)).runSegment
      (code state).2) = _
  cases (code state).1 <;> rfl

theorem unlock_runSegment (platform : Platform) (state : SessionState)
    (vaultKey : CryptoKey)
    (role : Option VaultSessionKeyRole)
    (operation : Option VaultSessionOperation) :
    ∃ program, (sessionProgram platform
        (.unlockVaultSession vaultKey role operation)).runSegment state =
          (program, state) ∧
      StandsAtAwait (.unlockVaultSession vaultKey role operation, program) := by
  cases allowed : state.mutationAllowed operation with
  | error error =>
      refine ⟨.done (.error error), ?_, .inl ⟨_, rfl⟩⟩
      simp only [sessionProgram, asynchronousCall, unlockVaultSession,
        Async.lift, Async.bind_sync, Async.runSegment,
        assertVaultSessionMutationAllowed, allowed, Async.bind_done_error]
  | ok _ =>
      refine ⟨.pause (unlockRest vaultKey role operation), ?_,
        .inr ⟨_, rfl, rfl⟩⟩
      simp only [sessionProgram, asynchronousCall, unlockVaultSession,
        Async.lift, Async.bind_sync, Async.runSegment,
        assertVaultSessionMutationAllowed, allowed, Async.bind_done_ok]
      rfl

theorem deletion_runSegment (platform : Platform) (state : SessionState)
    (purgePersistedVault : Except VaultError Unit)
    (operation : Option VaultSessionOperation) :
    ∃ program, (sessionProgram platform
        (.deleteVaultAfterAuthorization purgePersistedVault
          operation)).runSegment state = (program, state) ∧
      StandsAtAwait (.deleteVaultAfterAuthorization purgePersistedVault
        operation, program) := by
  cases allowed : state.mutationAllowed operation with
  | error error =>
      refine ⟨.done (.error error), ?_, .inl ⟨_, rfl⟩⟩
      simp only [sessionProgram, asynchronousCall,
        deleteVaultAfterAuthorization, Async.lift, Async.bind_sync,
        Async.runSegment, assertVaultSessionMutationAllowed, allowed,
        Async.bind_done_error]
  | ok _ =>
      refine ⟨.pause (deletionRest purgePersistedVault operation), ?_,
        .inr ⟨_, rfl, rfl⟩⟩
      simp only [sessionProgram, asynchronousCall,
        deleteVaultAfterAuthorization, Async.lift, Async.bind_sync,
        Async.runSegment, assertVaultSessionMutationAllowed, allowed,
        Async.bind_done_ok]
      rfl

/-- The last segment of a program that ends with uninterrupted code. -/
theorem lastSegment {α β : Type} (state : SessionState)
    (outcome : Except VaultError α) (code : SessionSync β)
    (value : β → SessionValue) :
    ∃ result, Async.runSegment
        ((((Async.done outcome : SessionAsync α) >>= fun _ =>
          Async.lift code) >>= fun found => pure (value found) :
            SessionAsync SessionValue)) state =
      (.done result, match outcome with
        | .ok _ => (code state).2
        | .error _ => state) := by
  cases outcome with
  | error error => exact ⟨_, rfl⟩
  | ok _ =>
      refine ⟨(code state).1.map value, ?_⟩
      change (((Async.done (code state).1 : SessionAsync β) >>= fun result =>
        (pure (value result) : SessionAsync SessionValue)).runSegment
          (code state).2) = _
      cases (code state).1 <;> rfl

theorem unlockRest_effect (state : SessionState) (vaultKey : CryptoKey)
    (role : Option VaultSessionKeyRole)
    (operation : Option VaultSessionOperation) :
    (∃ outcome, ((unlockRest vaultKey role operation).runSegment state).1 =
        .done outcome) ∧
      (state.acceptsUnlock vaultKey operation = true →
        ArmsTimer state
          ((unlockRest vaultKey role operation).runSegment state).2) ∧
      (state.acceptsUnlock vaultKey operation = false →
        KeepsTimer state
          ((unlockRest vaultKey role operation).runSegment state).2) := by
  obtain ⟨result, ran⟩ := lastSegment state
    (assertUserVaultKeyNonExtractable vaultKey)
    (installVaultSessionKey vaultKey (role.getD .primary) operation)
    SessionValue.lease
  rw [unlockRest, ran]
  refine ⟨⟨result, rfl⟩, ?_, ?_⟩
  · intro accepted
    simp only [SessionState.acceptsUnlock, Bool.and_eq_true] at accepted
    obtain ⟨nonExtractable, allowed⟩ := accepted
    cases checked : assertUserVaultKeyNonExtractable vaultKey with
    | error error =>
        rw [checked] at nonExtractable
        cases nonExtractable
    | ok _ =>
        cases permitted : state.mutationAllowed operation with
        | error error =>
            rw [permitted] at allowed
            cases allowed
        | ok _ => exact installVaultSessionKey_arms permitted
  · intro refused
    cases checked : assertUserVaultKeyNonExtractable vaultKey with
    | error error => exact KeepsTimer.refl state
    | ok _ =>
        cases permitted : state.mutationAllowed operation with
        | ok _ =>
            simp [SessionState.acceptsUnlock, checked, permitted,
              Except.isOk, Except.toBool] at refused
        | error error =>
            simp only [installVaultSessionKey,
              assertVaultSessionMutationAllowed, Sync.bind_apply, permitted]
            exact KeepsTimer.refl state

theorem deletionRest_effect (state : SessionState)
    (purgePersistedVault : Except VaultError Unit)
    (operation : Option VaultSessionOperation) :
    (∃ outcome, ((deletionRest purgePersistedVault operation).runSegment
        state).1 = .done outcome) ∧
      (KeepsTimer state
          ((deletionRest purgePersistedVault operation).runSegment state).2 ∨
        LocksSession state
          ((deletionRest purgePersistedVault operation).runSegment
            state).2) := by
  obtain ⟨result, ran⟩ := lastSegment state purgePersistedVault
    (do
      assertVaultSessionMutationAllowed operation
      lockVaultSession
      resetVaultSessionLockState : SessionSync Unit)
    fun _ => SessionValue.unit
  rw [deletionRest, ran]
  refine ⟨⟨result, rfl⟩, ?_⟩
  cases purgePersistedVault with
  | error error => exact .inl (KeepsTimer.refl state)
  | ok _ =>
      simp only [Sync.bind_apply, assertVaultSessionMutationAllowed]
      cases state.mutationAllowed operation with
      | error error => exact .inl (KeepsTimer.refl state)
      | ok _ =>
          right
          have locks := lockVaultSession_locks state
          simp only
          cases locking : lockVaultSession state with
          | mk outcome middle =>
              rw [locking] at locks
              cases outcome with
              | error error => exact locks
              | ok _ =>
                  have after := resetVaultSessionLockState_locks locks.locked
                  exact
                    { locked := after.locked
                      now := after.now.trans locks.now
                      cleared := fun holds =>
                        after.cleared (locks.holdsTimer holds) }

end Programs

/-! ## Runs -/

/-- The pools of session calls. -/
abbrev SessionPool :=
  Pool SessionCall SessionState VaultError SessionValue

/-- An event is an unlock or a touch: it arms the timer. -/
def renewsAutoLock (pool : SessionPool) : SessionStep → Bool
  | .start (.scheduleVaultAutoLock lease) => pool.state.acceptsTouch lease
  | .start (.touchVaultSession lease) => pool.state.acceptsTouch lease
  | .resume task =>
      match pool.tasks[task]? with
      | some (.unlockVaultSession vaultKey _ operation, .pause _) =>
          pool.state.acceptsUnlock vaultKey operation
      | _ => false
  | _ => false

/-- When the unlocks and touches of a run were, in their order. -/
def renewals (platform : Platform) (pool : SessionPool) :
    List SessionStep → List ℚ
  | [] => []
  | event :: events =>
      (if renewsAutoLock pool event then [pool.state.now] else []) ++
        renewals platform ((sessionMachine platform).step pool event) events

/-- What may happen: the listed calls, and a clock that never passes the
deadline of a pending timeout. -/
def CountdownStep (pool : SessionPool) : SessionStep → Prop
  | .start call => call.drivesAutoLock = true
  | .environment (.clock time) =>
      ∀ timeout ∈ pool.state.timeouts.pending, time ≤ timeout.deadline
  | _ => True

/-- A step that leaves an unlocked session its timer and its duration: a
reset comes to a locked session only, a configuration keeps the duration of
an unlocked one, and an unlock finds a resolver that does not throw. -/
def SteadyStep (pool : SessionPool) : SessionStep → Prop
  | .start .resetVaultSessionLockState => pool.state.isVaultUnlocked = false
  | .environment (.configureVaultSession config) =>
      pool.state.isVaultUnlocked = true →
        getAutoLockTimeoutMs config =
          getAutoLockTimeoutMs pool.state.sessionConfig
  | .resume task =>
      renewsAutoLock pool (.resume task) = true →
        (getAutoLockTimeoutMs pool.state.sessionConfig).isOk = true
  | _ => True

/-- A run of such steps. -/
def CountdownRun (platform : Platform) (initial : SessionState)
    (condition : SessionPool → SessionStep → Prop) :
    List SessionStep → Prop :=
  Machine.RunsWith fun before event =>
    condition ((sessionMachine platform).run (Pool.initial initial) before)
      event

/-- The timer was armed at `activity` for what is still the duration. -/
structure ArmedSince (state : SessionState) (activity timeout : ℚ) :
    Prop where
  resolved : getAutoLockTimeoutMs state.sessionConfig = .ok timeout
  notLocked : state.manuallyLocked = false
  positive : 0 < activity
  lastActivityAt : state.lastActivityAt = activity
  timer : state.LocksAt (activity + timeout)
  pending : state.now ≤ activity + timeout

/-- What every step keeps of the state. -/
structure CountdownHolds (state : SessionState) (last : Option ℚ) :
    Prop where
  running : 0 < state.now
  holdsTimer : state.HoldsTimer
  armed : state.isVaultUnlocked = true →
    ∃ activity timeout, last = some activity ∧
      ArmedSince state activity timeout

namespace CountdownHolds

variable {start finish : SessionState} {last : Option ℚ}

theorem keeps (holds : CountdownHolds start last)
    (keep : KeepsTimer start finish) : CountdownHolds finish last := by
  constructor
  case running =>
    rw [keep.now]
    exact holds.running
  case holdsTimer =>
    rw [SessionState.HoldsTimer, keep.timer, keep.timeouts]
    exact holds.holdsTimer
  case armed =>
    intro unlocked
    rw [keep.unlocked] at unlocked
    obtain ⟨activity, timeout, same, armed⟩ := holds.armed unlocked
    refine ⟨activity, timeout, same, ?_⟩
    exact
      { resolved := by rw [keep.config]; exact armed.resolved
        notLocked := by rw [keep.manuallyLocked]; exact armed.notLocked
        positive := armed.positive
        lastActivityAt := by
          rw [keep.lastActivityAt]; exact armed.lastActivityAt
        timer := by
          rw [SessionState.LocksAt, keep.timer, keep.timeouts]
          exact armed.timer
        pending := by rw [keep.now]; exact armed.pending }

theorem locks (holds : CountdownHolds start last)
    (lock : LocksSession start finish) : CountdownHolds finish last := by
  constructor
  case running =>
    rw [lock.now]
    exact holds.running
  case holdsTimer => exact lock.holdsTimer holds.holdsTimer
  case armed =>
    intro unlocked
    rw [lock.locked] at unlocked
    cases unlocked

theorem arms (holds : CountdownHolds start last)
    (arm : ArmsTimer start finish)
    (resolves : (getAutoLockTimeoutMs start.sessionConfig).isOk = true) :
    CountdownHolds finish (some start.now) := by
  cases resolved : getAutoLockTimeoutMs start.sessionConfig with
  | error error =>
      rw [resolved] at resolves
      cases resolves
  | ok timeout =>
      have long := (getAutoLockTimeoutMs_bounds resolved).1
      have locksAt := arm.locksAt holds.holdsTimer resolved
      constructor
      case running =>
        rw [arm.now]
        exact holds.running
      case holdsTimer => exact locksAt.holdsTimer
      case armed =>
        intro _
        refine ⟨start.now, timeout, rfl, ?_⟩
        exact
          { resolved := by rw [arm.config]; exact resolved
            notLocked := arm.manuallyLocked
            positive := holds.running
            lastActivityAt := arm.lastActivityAt
            timer := locksAt
            pending := by rw [arm.now]; linarith }

theorem resolves (holds : CountdownHolds start last)
    (unlocked : start.isVaultUnlocked = true) :
    (getAutoLockTimeoutMs start.sessionConfig).isOk = true := by
  obtain ⟨_, _, -, armed⟩ := holds.armed unlocked
  rw [armed.resolved]
  rfl

end CountdownHolds

/-- What a segment does, by whether it renews the timer. -/
def SegmentEffect (renews : Bool) (start finish : SessionState) : Prop :=
  match renews with
  | true => ArmsTimer start finish
  | false => KeepsTimer start finish ∨ LocksSession start finish

section Steps

variable {platform : Platform} {pool : SessionPool}

/-- The first segment of a call. -/
theorem start_effect {call : SessionCall}
    (drives : call.drivesAutoLock = true)
    (steady : SteadyStep pool (.start call)) :
    ∃ program finish, (sessionProgram platform call).runSegment pool.state =
        (program, finish) ∧
      StandsAtAwait (call, program) ∧
      SegmentEffect (renewsAutoLock pool (.start call)) pool.state finish := by
  cases call with
  | beginVaultSessionUnlock ownerId =>
      refine ⟨_, _, synchronousCall_runSegment _ _, .inl ⟨_, rfl⟩, ?_⟩
      exact beginVaultSessionUnlock_effect_timer ownerId
  | unlockVaultSession vaultKey role operation =>
      obtain ⟨program, ran, stands⟩ := unlock_runSegment platform pool.state
        vaultKey role operation
      exact ⟨program, pool.state, ran, stands, .inl (KeepsTimer.refl _)⟩
  | lockVaultSession =>
      refine ⟨_, _, synchronousCall_runSegment _ _, .inl ⟨_, rfl⟩, ?_⟩
      exact .inr (lockVaultSession_locks pool.state)
  | scheduleVaultAutoLock lease =>
      refine ⟨_, _, synchronousCall_runSegment _ _, .inl ⟨_, rfl⟩, ?_⟩
      rw [renewsAutoLock]
      cases accepted : pool.state.acceptsTouch lease with
      | true => exact scheduleVaultAutoLock_arms accepted
      | false => exact .inl (scheduleVaultAutoLock_keeps accepted)
  | touchVaultSession lease =>
      refine ⟨_, _, synchronousCall_runSegment _ _, .inl ⟨_, rfl⟩, ?_⟩
      rw [renewsAutoLock, touchVaultSession_eq]
      cases accepted : pool.state.acceptsTouch lease with
      | true => exact scheduleVaultAutoLock_arms accepted
      | false => exact .inl (scheduleVaultAutoLock_keeps accepted)
  | resetVaultSessionLockState =>
      refine ⟨_, _, synchronousCall_runSegment _ _, .inl ⟨_, rfl⟩, ?_⟩
      exact .inr (resetVaultSessionLockState_locks steady)
  | deleteVaultAfterAuthorization purgePersistedVault operation =>
      obtain ⟨program, ran, stands⟩ := deletion_runSegment platform
        pool.state purgePersistedVault operation
      exact ⟨program, pool.state, ran, stands, .inl (KeepsTimer.refl _)⟩
  | _ => exact absurd drives Bool.false_ne_true

/-- The segment a suspended call is resumed for. -/
theorem resume_effect {task : Nat} {call : SessionCall}
    {program : SessionAsync SessionValue}
    (found : pool.tasks[task]? = some (call, program))
    (stands : StandsAtAwait (call, program)) :
    StandsAtAwait (call, (program.wake.runSegment pool.state).1) ∧
      SegmentEffect (renewsAutoLock pool (.resume task)) pool.state
        (program.wake.runSegment pool.state).2 := by
  obtain ⟨outcome, same⟩ | ⟨rest, expected, same⟩ := stands
  · obtain rfl : program = .done outcome := same
    refine ⟨.inl ⟨outcome, rfl⟩, ?_⟩
    have quiet : renewsAutoLock pool (.resume task) = false := by
      simp only [renewsAutoLock, found]
    rw [quiet]
    left
    exact KeepsTimer.refl _
  · obtain rfl : program = .pause rest := same
    cases call with
    | unlockVaultSession vaultKey role operation =>
        obtain rfl := Option.some.inj expected
        obtain ⟨ends, accepted, refused⟩ :=
          unlockRest_effect pool.state vaultKey role operation
        refine ⟨.inl ends, ?_⟩
        simp only [renewsAutoLock, found]
        cases accepts : pool.state.acceptsUnlock vaultKey operation with
        | true => exact accepted accepts
        | false => exact .inl (refused accepts)
    | deleteVaultAfterAuthorization purgePersistedVault operation =>
        obtain rfl := Option.some.inj expected
        obtain ⟨ends, effect⟩ :=
          deletionRest_effect pool.state purgePersistedVault operation
        refine ⟨.inl ends, ?_⟩
        simp only [renewsAutoLock, found]
        exact effect
    | _ => cases expected

theorem unlocked_of_renewing_start {call : SessionCall}
    (renews : renewsAutoLock pool (.start call) = true) :
    pool.state.isVaultUnlocked = true := by
  cases call with
  | scheduleVaultAutoLock lease =>
      simp only [renewsAutoLock, SessionState.acceptsTouch,
        Bool.and_eq_true] at renews
      exact renews.1.1
  | touchVaultSession lease =>
      simp only [renewsAutoLock, SessionState.acceptsTouch,
        Bool.and_eq_true] at renews
      exact renews.1.1
  | _ => cases renews

/-- The last renewal after an event. -/
def lastRenewal (pool : SessionPool) (event : SessionStep)
    (last : Option ℚ) : Option ℚ :=
  if renewsAutoLock pool event then some pool.state.now else last

theorem CountdownHolds.segment {last : Option ℚ} {finish : SessionState}
    {event : SessionStep} (holds : CountdownHolds pool.state last)
    (effect : SegmentEffect (renewsAutoLock pool event) pool.state finish)
    (resolves : renewsAutoLock pool event = true →
      (getAutoLockTimeoutMs pool.state.sessionConfig).isOk = true) :
    CountdownHolds finish (lastRenewal pool event last) := by
  rw [lastRenewal]
  cases renews : renewsAutoLock pool event with
  | true =>
      rw [renews] at effect
      exact holds.arms effect (resolves renews)
  | false =>
      rw [renews] at effect
      cases effect with
      | inl keep => exact holds.keeps keep
      | inr lock => exact holds.locks lock

theorem CountdownHolds.environment {last : Option ℚ} {event : SessionEvent}
    (holds : CountdownHolds pool.state last)
    (allowed : CountdownStep pool (.environment event))
    (steady : SteadyStep pool (.environment event)) :
    CountdownHolds (sessionEnvironment event pool.state) last := by
  cases event with
  | clock time =>
      have later : pool.state.now ≤
          (sessionEnvironment (.clock time) pool.state).now := by
        simp only [sessionEnvironment]
        split_ifs <;> linarith
      refine ⟨lt_of_lt_of_le holds.running later, holds.holdsTimer, ?_⟩
      intro unlocked
      obtain ⟨activity, timeout, same, armed⟩ := holds.armed unlocked
      obtain ⟨handle, -, only⟩ := armed.timer
      have due : time ≤ activity + timeout := by
        apply allowed ⟨handle, activity + timeout⟩
        rw [only]
        exact List.mem_singleton_self _
      have pending : (sessionEnvironment (.clock time) pool.state).now ≤
          activity + timeout := by
        have earlier := armed.pending
        simp only [sessionEnvironment]
        split_ifs <;> assumption
      exact ⟨activity, timeout, same, armed.resolved, armed.notLocked,
        armed.positive, armed.lastActivityAt, armed.timer, pending⟩
  | timerFires handle =>
      simp only [sessionEnvironment]
      cases fires : pool.state.timeouts.fire pool.state.now handle with
      | none => exact holds
      | some timeouts =>
          have locks := lockVaultSession_locks { pool.state with timeouts }
          have nothing := (holds.holdsTimer.fire fires).2
          apply holds.locks
          exact
            { locked := locks.locked
              now := locks.now
              cleared := fun _ => locks.cleared (.empty nothing _) }
  | configureVaultSession config =>
      refine ⟨holds.running, holds.holdsTimer, ?_⟩
      intro unlocked
      obtain ⟨activity, timeout, same, armed⟩ := holds.armed unlocked
      have resolved : getAutoLockTimeoutMs config = .ok timeout := by
        rw [steady unlocked]
        exact armed.resolved
      exact ⟨activity, timeout, same, resolved, armed.notLocked,
        armed.positive, armed.lastActivityAt, armed.timer, armed.pending⟩
  | callbacks listeners lockCleanupHandlers =>
      exact holds.keeps ⟨rfl, rfl, rfl, rfl, rfl, rfl, rfl⟩
  | allocate bytes => exact holds.keeps ⟨rfl, rfl, rfl, rfl, rfl, rfl, rfl⟩

/-- A steady step keeps the countdown. -/
theorem CountdownHolds.step {last : Option ℚ} {event : SessionStep}
    (holds : CountdownHolds pool.state last)
    (stand : ∀ task ∈ pool.tasks, StandsAtAwait task)
    (allowed : CountdownStep pool event) (steady : SteadyStep pool event) :
    CountdownHolds ((sessionMachine platform).step pool event).state
        (lastRenewal pool event last) ∧
      ∀ task ∈ ((sessionMachine platform).step pool event).tasks,
        StandsAtAwait task := by
  cases event with
  | start call =>
      obtain ⟨program, finish, ran, stands, effect⟩ :=
        @start_effect platform pool call allowed steady
      have stepped : (sessionMachine platform).step pool (.start call) =
          { state := finish, tasks := pool.tasks ++ [(call, program)] } := by
        simp only [Machine.step, sessionMachine, ran]
      rw [stepped]
      constructor
      · apply holds.segment effect
        intro renews
        exact holds.resolves (unlocked_of_renewing_start renews)
      · intro task member
        cases List.mem_append.mp member with
        | inl earlier => exact stand task earlier
        | inr new =>
            rw [List.mem_singleton.mp new]
            exact stands
  | resume index =>
      cases found : pool.tasks[index]? with
      | none =>
          rw [Machine.step_resume_none _ found]
          have quiet : renewsAutoLock pool (.resume index) = false := by
            simp only [renewsAutoLock, found]
          rw [lastRenewal, quiet]
          exact ⟨holds, stand⟩
      | some entry =>
          obtain ⟨call, program⟩ := entry
          obtain ⟨before, after, parts, stepped⟩ :=
            Machine.step_resume_some (sessionMachine platform) found
          have stands := stand _ (List.mem_of_getElem? found)
          obtain ⟨later, effect⟩ := resume_effect found stands
          rw [stepped]
          constructor
          · exact holds.segment effect steady
          · intro task member
            rw [parts] at stand
            simp only [List.mem_append, List.mem_cons] at member stand
            rcases member with earlier | rfl | other
            · exact stand task (.inl earlier)
            · exact later
            · exact stand task (.inr (.inr other))
  | environment event =>
      exact ⟨holds.environment allowed steady, stand⟩

theorem renewals_snoc (events : List SessionStep) (event : SessionStep) :
    (renewals platform pool (events ++ [event])).getLast? =
      lastRenewal ((sessionMachine platform).run pool events) event
        (renewals platform pool events).getLast? := by
  have split : renewals platform pool (events ++ [event]) =
      renewals platform pool events ++
        (if renewsAutoLock ((sessionMachine platform).run pool events) event
          then [((sessionMachine platform).run pool events).state.now]
          else []) := by
    induction events generalizing pool with
    | nil =>
        simp only [List.nil_append, renewals, List.append_nil,
          Machine.run_nil]
        rfl
    | cons first rest ih =>
        simp only [List.cons_append, renewals, ih, List.append_assoc,
          Machine.run_cons]
        rfl
  rw [split, lastRenewal]
  split_ifs
  · rw [List.getLast?_append]
    rfl
  · rw [List.append_nil]

end Steps

/-- Exactly one timeout is pending.  It fires when the countdown says, and no
later than the ceiling after the last unlock or touch. -/
def CountdownIsReal (state : SessionState) (lastActivity : Option ℚ) : Prop :=
  ∃ deadline remaining activity,
    state.LocksAt deadline ∧
    getVaultAutoLockRemainingMs state = .ok (some remaining) ∧
    deadline = state.now + remaining ∧
    lastActivity = some activity ∧
    deadline ≤ activity + vaultAutoLockCeilingMs state.sessionConfig

theorem CountdownHolds.countdownIsReal {state : SessionState}
    {last : Option ℚ} (holds : CountdownHolds state last)
    (unlocked : state.isVaultUnlocked = true) :
    CountdownIsReal state last := by
  obtain ⟨activity, timeout, same, armed⟩ := holds.armed unlocked
  have positive := armed.positive
  have pending := armed.pending
  have bounded := (getAutoLockTimeoutMs_bounds armed.resolved).2
  refine ⟨activity + timeout, timeout - (state.now - activity), activity,
    armed.timer, ?_, ?_, same, ?_⟩
  · have started : (activity == 0) = false :=
      beq_eq_false_iff_ne.mpr (ne_of_gt positive)
    have left : max 0 (timeout - (state.now - activity)) =
        timeout - (state.now - activity) := by
      apply max_eq_right
      linarith
    simp only [getVaultAutoLockRemainingMs, unlocked, armed.notLocked,
      armed.lastActivityAt, started, armed.resolved, Bool.not_true,
      Bool.or_self, Bool.false_eq_true, ↓reduceIte]
    change Except.ok (some (max 0 (timeout - (state.now - activity)))) = _
    rw [left]
  · ring
  · linarith

section Runs

variable {platform : Platform} {initial : SessionState}
  {events : List SessionStep}

theorem CountdownRun.holds (locked : initial.isVaultUnlocked = false)
    (running : 0 < initial.now) (held : initial.HoldsTimer)
    (run : CountdownRun platform initial
      (fun pool event => CountdownStep pool event ∧ SteadyStep pool event)
      events) :
    CountdownHolds ((sessionMachine platform).run (Pool.initial initial)
        events).state
      (renewals platform (Pool.initial initial) events).getLast? := by
  suffices invariant : CountdownHolds ((sessionMachine platform).run
        (Pool.initial initial) events).state
      (renewals platform (Pool.initial initial) events).getLast? ∧
      ∀ task ∈ ((sessionMachine platform).run (Pool.initial initial)
        events).tasks, StandsAtAwait task by
    exact invariant.1
  induction run with
  | nil =>
      refine ⟨⟨running, held, ?_⟩, ?_⟩
      · intro unlocked
        exact absurd (locked.symm.trans unlocked) Bool.false_ne_true
      · intro task member
        cases member
  | snoc event _ step ih =>
      obtain ⟨holds, stand⟩ := ih
      obtain ⟨allowed, steady⟩ := step
      rw [Machine.run_append, renewals_snoc]
      exact holds.step stand allowed steady

end Runs

/-- A session key as an unlock takes it. -/
def sessionKey : CryptoKey :=
  { Reference.vaultKey with extractable := false }

/-- A session that has stood locked since the first instant of the clock. -/
def lockedSession : SessionState := { now := 1 }

theorem lockedSession_holdsTimer : lockedSession.HoldsTimer :=
  .empty rfl none

/-- An unlock, some time, and a touch. -/
def touchedUnlock : List SessionStep :=
  [.start (.unlockVaultSession sessionKey none none), .resume 0,
    .environment (.clock 2), .start (.touchVaultSession none)]

theorem touchedUnlock_runs :
    CountdownRun (Reference.platform []) lockedSession
      (fun pool event => CountdownStep pool event ∧ SteadyStep pool event)
      touchedUnlock := by
  have first : CountdownRun (Reference.platform []) lockedSession
      (fun pool event => CountdownStep pool event ∧ SteadyStep pool event)
      (touchedUnlock.take 1) :=
    @Machine.RunsWith.snoc _ _ _ [] _ .nil ⟨rfl, trivial⟩
  have second : CountdownRun (Reference.platform []) lockedSession
      (fun pool event => CountdownStep pool event ∧ SteadyStep pool event)
      (touchedUnlock.take 2) :=
    .snoc _ first ⟨trivial, fun _ => rfl⟩
  have third : CountdownRun (Reference.platform []) lockedSession
      (fun pool event => CountdownStep pool event ∧ SteadyStep pool event)
      (touchedUnlock.take 3) := by
    apply Machine.RunsWith.snoc _ second
    refine ⟨?_, trivial⟩
    intro pending member
    have holds := CountdownRun.holds rfl (by decide) lockedSession_holdsTimer
      second
    obtain ⟨activity, timeout, last, since⟩ := holds.armed rfl
    have unlocked : activity = 1 := (Option.some.inj last).symm
    have long := (getAutoLockTimeoutMs_bounds since.resolved).1
    obtain ⟨handle, -, only⟩ := since.timer
    obtain rfl := List.mem_singleton.mp (only ▸ member)
    rw [unlocked]
    linarith
  exact .snoc _ third ⟨rfl, trivial⟩

/-- A configuration whose resolver throws. -/
def throwingResolver : VaultSessionConfig :=
  { resolveAutoLockMinutes := some (.error (.typeError "")) }

/-- An unlock under that configuration. -/
def unresolvedUnlock : List SessionStep :=
  [.environment (.configureVaultSession throwingResolver),
    .start (.unlockVaultSession sessionKey none none), .resume 0]

theorem unresolvedUnlock_runs :
    CountdownRun (Reference.platform []) lockedSession CountdownStep
      unresolvedUnlock := by
  have first : CountdownRun (Reference.platform []) lockedSession
      CountdownStep (unresolvedUnlock.take 1) :=
    @Machine.RunsWith.snoc _ _ _ [] _ .nil trivial
  have second : CountdownRun (Reference.platform []) lockedSession
      CountdownStep (unresolvedUnlock.take 2) :=
    .snoc _ first rfl
  exact .snoc _ second trivial

end VaultCore
