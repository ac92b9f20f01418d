import VaultCore.Async.Component
import VaultCore.Session.LeaseCoherence

/-!
# Purging with callbacks that throw

A lock isolates its cleanup handlers one by one, and ends with a loop over the
listeners that the first throwing listener leaves.  The session is empty by
then, but a change of owner has its most important steps still to do.  The
functions are followed here with a record of the callbacks they call.
-/

namespace VaultCore

/-- A registered callback, by its place in the order of registration. -/
inductive CallbackId where
  | lockCleanupHandler (index : Nat)
  | listener (index : Nat)
deriving DecidableEq

/-- A session with the callbacks that have been called. -/
structure ObservedSession where
  session : SessionState
  called : List CallbackId

/-- The session in the page that records its callbacks. -/
def observedSession : Component ObservedSession SessionState :=
  { read := ObservedSession.session
    write := fun session observed => { observed with session }
    read_write := fun _ _ => rfl }

abbrev ObservedSync (α : Type) := Sync ObservedSession VaultError α

namespace Observed

/-- Session code that calls no callback. -/
def silent {α : Type} (code : SessionSync α) : ObservedSync α :=
  code.within observedSession

/-- Call one callback, and record that it was called. -/
def callCallback (id : CallbackId) (callback : Callback) :
    ObservedSync Unit := do
  Sync.modify fun observed =>
    { observed with called := observed.called ++ [id] }
  silent (VaultCore.callCallback callback)

/-- Call the listeners in turn; one that throws ends the calls. -/
def callListeners : Nat → List Callback → ObservedSync Unit
  | _, [] => pure ()
  | index, listener :: rest => do
      callCallback (.listener index) listener
      callListeners (index + 1) rest

def notifyVaultSessionChange : ObservedSync Unit := do
  let state ← silent Sync.get
  callListeners 0 state.listeners

/-- Call the handlers in turn, whatever they throw. -/
def callCleanupHandlers : Nat → List Callback → ObservedSync Unit
  | _, [] => pure ()
  | index, handler :: rest => do
      Sync.tryCatch (callCallback (.lockCleanupHandler index) handler)
        fun _ => pure ()
      callCleanupHandlers (index + 1) rest

def runVaultLockCleanupHandlers : ObservedSync Unit := do
  let state ← silent Sync.get
  callCleanupHandlers 0 state.lockCleanupHandlers

def lockVaultSession : ObservedSync Unit := do
  silent (mutate SessionCore.invalidateVaultSessionOperation)
  silent (mutate SessionCore.invalidateVaultSessionLease)
  silent clearVaultAutoLockTimer
  silent (Sync.modify fun state => { state with lastActivityAt := 0 })
  silent clearVaultInnerKeyMaterialCacheForSessionLock
  silent (mutate SessionCore.lockVault)
  silent (mutate fun core => { core with manuallyLocked := true })
  runVaultLockCleanupHandlers
  notifyVaultSessionChange

def beginVaultSessionUnlock (ownerId : JsString) :
    ObservedSync VaultSessionOperation := do
  silent (Sync.ofExcept (assertVaultSessionOperationOwnerId ownerId))
  let state ← silent Sync.get
  if state.ownerChanged ownerId || state.hasUnownedSensitiveState then do
    lockVaultSession
    silent (mutate SessionCore.clearEmergencyModePin)
  else pure ()
  let issuing ← silent Sync.get
  silent (mutate (SessionCore.issueVaultSessionOperation ownerId))
  return issuing.nextOperation

def clearVaultSessionOwner : ObservedSync Unit := do
  lockVaultSession
  silent (mutate SessionCore.clearEmergencyModePin)
  silent (mutate SessionCore.clearVaultSessionOperationOwner)

section Refinement

theorem callCallback_simulates (id : CallbackId) (callback : Callback) :
    Sync.Simulates observedSession (callCallback id callback)
      (VaultCore.callCallback callback) := by
  have called := @Sync.Simulates.modify_outside _ _ VaultError observedSession
    (fun observed => { observed with called := observed.called ++ [id] })
    (fun _ => rfl)
  exact called.bind fun _ => .within _

theorem callListeners_simulates (index : Nat) (listeners : List Callback) :
    Sync.Simulates observedSession (callListeners index listeners)
      (VaultCore.callListeners listeners) := by
  induction listeners generalizing index with
  | nil => exact .pure ()
  | cons listener rest ih =>
      exact (callCallback_simulates _ _).bind fun _ => ih (index + 1)

theorem callCleanupHandlers_simulates (index : Nat)
    (handlers : List Callback) :
    Sync.Simulates observedSession (callCleanupHandlers index handlers)
      (VaultCore.callCleanupHandlers handlers) := by
  induction handlers generalizing index with
  | nil => exact .pure ()
  | cons handler rest ih =>
      apply Sync.Simulates.bind
      · exact (callCallback_simulates _ _).tryCatch fun _ => .pure ()
      · exact fun _ => ih (index + 1)

/-- Recording the callbacks does not change a lock. -/
theorem lockVaultSession_simulates :
    Sync.Simulates observedSession lockVaultSession
      VaultCore.lockVaultSession := by
  refine (Sync.Simulates.within _).bind fun _ => ?_
  refine (Sync.Simulates.within _).bind fun _ => ?_
  refine (Sync.Simulates.within _).bind fun _ => ?_
  refine (Sync.Simulates.within _).bind fun _ => ?_
  refine (Sync.Simulates.within _).bind fun _ => ?_
  refine (Sync.Simulates.within _).bind fun _ => ?_
  refine (Sync.Simulates.within _).bind fun _ => ?_
  apply Sync.Simulates.bind
  · exact (Sync.Simulates.within _).bind fun state =>
      callCleanupHandlers_simulates 0 state.lockCleanupHandlers
  · intro _
    exact (Sync.Simulates.within _).bind fun state =>
      callListeners_simulates 0 state.listeners

theorem beginVaultSessionUnlock_simulates (ownerId : JsString) :
    Sync.Simulates observedSession (beginVaultSessionUnlock ownerId)
      (VaultCore.beginVaultSessionUnlock ownerId) := by
  have issues : Sync.Simulates observedSession
      (do
        let issuing ← silent Sync.get
        silent (mutate (SessionCore.issueVaultSessionOperation ownerId))
        return issuing.nextOperation)
      (do
        let issuing ← Sync.get
        mutate (SessionCore.issueVaultSessionOperation ownerId)
        return issuing.nextOperation) := by
    refine (Sync.Simulates.within _).bind fun _ => ?_
    exact (Sync.Simulates.within _).bind fun _ => .pure _
  refine (Sync.Simulates.within _).bind fun _ => ?_
  refine (Sync.Simulates.within _).bind fun state => ?_
  split
  · refine lockVaultSession_simulates.bind fun _ => ?_
    exact (Sync.Simulates.within _).bind fun _ => issues
  · exact issues

theorem clearVaultSessionOwner_simulates :
    Sync.Simulates observedSession clearVaultSessionOwner
      VaultCore.clearVaultSessionOwner := by
  refine lockVaultSession_simulates.bind fun _ => ?_
  exact (Sync.Simulates.within _).bind fun _ => .within _

end Refinement

end Observed

/-- The callbacks of a session, in the order in which a lock calls them. -/
def SessionState.callbacks (state : SessionState) : List CallbackId :=
  (List.range' 0 state.lockCleanupHandlers.length).map .lockCleanupHandler ++
    (List.range' 0 state.listeners.length).map .listener

/-- What a purge clears, and that it calls every callback once. -/
structure Purges (start finish : ObservedSession) : Prop where
  vaultKey : finish.session.sessionVaultKey = none
  role : finish.session.sessionKeyRole = none
  lease : finish.session.currentLease = none
  timer : finish.session.inactivityTimer = none
  timeouts : start.session.HoldsTimer → finish.session.timeouts.pending = []
  cache : finish.session.cachedEntry = none
  zeroed : ∀ entry, start.session.cachedEntry = some entry →
    finish.session.buffer entry.inner =
      List.replicate (start.session.buffer entry.inner).length 0
  invalidated : ∀ operation,
    start.session.isVaultSessionOperationCurrent operation = true →
      finish.session.isVaultSessionOperationCurrent operation = false
  called : finish.called = start.called ++ start.session.callbacks

/-- A purge that hands the session over to an owner, with a new token. -/
structure HandsOver (ownerId : JsString) (start : ObservedSession)
    (outcome : Except VaultError VaultSessionOperation)
    (finish : ObservedSession) : Prop where
  purges : Purges start finish
  pin : finish.session.emergencyModePinned = false
  owner : finish.session.currentOwnerId = some ownerId
  token : ∃ operation, outcome = .ok operation ∧
    start.session.metadataOf operation = none ∧
    finish.session.isVaultSessionOperationCurrent operation = true

/-- A purge that leaves the session without an owner. -/
structure Disowns (start finish : ObservedSession) : Prop where
  purges : Purges start finish
  pin : finish.session.emergencyModePinned = false
  owner : finish.session.currentOwnerId = none

/-- None of the callbacks throws. -/
def AllReturn (callbacks : List Callback) : Prop :=
  ∀ callback ∈ callbacks, callback = none

/-- The listeners that are called, up to the first that throws. -/
def reachedListeners : Nat → List Callback → List CallbackId
  | _, [] => []
  | index, none :: rest =>
      .listener index :: reachedListeners (index + 1) rest
  | index, some _ :: _ => [.listener index]

section Listeners

variable {listeners : List Callback}

theorem allReturn_cons {callback : Callback} {rest : List Callback} :
    AllReturn (callback :: rest) ↔ callback = none ∧ AllReturn rest :=
  List.forall_mem_cons

theorem reachedListeners_eq_iff (index : Nat) :
    reachedListeners index listeners =
        (List.range' index listeners.length).map .listener ↔
      AllReturn listeners.dropLast := by
  induction listeners generalizing index with
  | nil => simp [reachedListeners, AllReturn]
  | cons listener rest ih =>
      cases rest with
      | nil =>
          cases listener <;> simp [reachedListeners, AllReturn]
      | cons next rest =>
          rw [List.dropLast_cons_cons, allReturn_cons, ← ih (index + 1)]
          cases listener with
          | none => simp [reachedListeners, List.range'_succ]
          | some error => simp [reachedListeners, List.range'_succ]

theorem AllReturn.dropLast (all : AllReturn listeners) :
    AllReturn listeners.dropLast := by
  intro callback member
  exact all callback (List.mem_of_mem_dropLast member)

end Listeners

/-- The session and its record after a lock. -/
def ObservedSession.locked (observed : ObservedSession) : ObservedSession :=
  { session := observed.session.purged
    called := observed.called ++
      (List.range' 0 observed.session.lockCleanupHandlers.length).map
        .lockCleanupHandler ++
      reachedListeners 0 observed.session.listeners }

/-- What follows the lock is done to the core. -/
def ObservedSession.lockedAnd (update : SessionCore → SessionCore)
    (observed : ObservedSession) : ObservedSession :=
  { observed.locked with session := observed.locked.session.mapCore update }

namespace Observed

variable (observed : ObservedSession)

theorem callListeners_eq (index : Nat) (listeners : List Callback) :
    callListeners index listeners observed =
      (listenersOutcome listeners,
        { observed with
          called := observed.called ++ reachedListeners index listeners }) := by
  induction listeners generalizing index observed with
  | nil =>
      simp only [callListeners, Sync.pure_apply, listenersOutcome,
        reachedListeners, List.append_nil]
  | cons listener rest ih =>
      cases listener with
      | none =>
          have later := ih { observed with
            called := observed.called ++ [.listener index] } (index + 1)
          rw [List.append_assoc] at later
          exact later
      | some error => rfl

theorem callCleanupHandlers_eq (index : Nat) (handlers : List Callback) :
    callCleanupHandlers index handlers observed =
      (.ok (),
        { observed with
          called := observed.called ++
            (List.range' index handlers.length).map .lockCleanupHandler }) := by
  induction handlers generalizing index observed with
  | nil =>
      simp only [callCleanupHandlers, Sync.pure_apply, List.length_nil,
        List.range'_zero, List.map_nil, List.append_nil]
  | cons handler rest ih =>
      have later := ih { observed with
        called := observed.called ++ [.lockCleanupHandler index] } (index + 1)
      rw [List.append_assoc] at later
      cases handler with
      | none => exact later
      | some error => exact later

/-- A lock empties the session whatever its callbacks do; a listener that
throws ends it before the later listeners. -/
theorem lockVaultSession_eq :
    lockVaultSession observed =
      (listenersOutcome observed.session.listeners, observed.locked) := by
  obtain ⟨state, called⟩ := observed
  have emptied : lockVaultSession ⟨state, called⟩ =
      (runVaultLockCleanupHandlers >>= fun _ => notifyVaultSessionChange)
        ⟨state.purged, called⟩ := by
    obtain ⟨core, config, timer, timeouts, activity, now, listeners,
      handlers, buffers⟩ := state
    obtain ⟨vaultKey, mode, role, pinned, operations, leases, epoch, owner,
      operation, lease, enabled, manual, cached⟩ := core
    cases cached with
    | none => rfl
    | some entry => rfl
  have listeners : state.purged.listeners = state.listeners := by
    rw [SessionState.purged, SessionState.clearCachedEntry]
    cases state.cachedEntry <;> rfl
  have handlers : state.purged.lockCleanupHandlers =
      state.lockCleanupHandlers := by
    rw [SessionState.purged, SessionState.clearCachedEntry]
    cases state.cachedEntry <;> rfl
  have handled : runVaultLockCleanupHandlers ⟨state.purged, called⟩ =
      (.ok (), ⟨state.purged, called ++
        (List.range' 0 state.lockCleanupHandlers.length).map
          .lockCleanupHandler⟩) := by
    have loop := callCleanupHandlers_eq ⟨state.purged, called⟩ 0
      state.purged.lockCleanupHandlers
    rw [handlers] at loop
    rw [← loop, ← handlers]
    rfl
  have notified := callListeners_eq ⟨state.purged, called ++
    (List.range' 0 state.lockCleanupHandlers.length).map
      .lockCleanupHandler⟩ 0 state.purged.listeners
  rw [emptied, Sync.bind_ok handled]
  rw [listeners] at notified
  rw [ObservedSession.locked, ← notified, ← listeners]
  rfl

end Observed

section Purge

variable {start : ObservedSession}

theorem SessionState.buffer_purged {state : SessionState}
    {entry : VaultInnerKeyMaterialCacheEntry}
    (cached : state.cachedEntry = some entry) :
    state.purged.buffer entry.inner =
      List.replicate (state.buffer entry.inner).length 0 := by
  simp only [purged, clearCachedEntry, cached, buffer, zeroBuffer,
    List.getElem?_modify_eq]
  cases state.buffers[entry.inner.index]? with
  | none => rfl
  | some bytes => rfl

/-- What is done to the core after a lock neither fills what the lock has
emptied nor brings an operation back. -/
structure KeepsPurged (start : ObservedSession) (core : SessionCore) :
    Prop where
  vaultKey : core.sessionVaultKey = none
  role : core.sessionKeyRole = none
  lease : core.currentLease = none
  cache : core.cachedEntry = none
  invalidated : ∀ operation,
    start.session.isVaultSessionOperationCurrent operation = true →
      core.isVaultSessionOperationCurrent operation = false

/-- Such a session is purged exactly when the lock has called every
callback. -/
theorem purges_iff {update : SessionCore → SessionCore}
    (keeps : KeepsPurged start (update start.session.toSessionCore.locked)) :
    Purges start (start.lockedAnd update) ↔
      AllReturn start.session.listeners.dropLast := by
  rw [← reachedListeners_eq_iff 0]
  constructor
  · intro purges
    have all := purges.called
    rw [ObservedSession.lockedAnd, ObservedSession.locked,
      SessionState.callbacks, List.append_assoc] at all
    exact List.append_cancel_left (List.append_cancel_left all)
  · intro all
    constructor
    case vaultKey => exact keeps.vaultKey
    case role => exact keeps.role
    case lease => exact keeps.lease
    case timer => rfl
    case timeouts => exact fun holds => holds.clear_pending
    case cache => exact keeps.cache
    case zeroed =>
      intro entry cached
      exact SessionState.buffer_purged cached
    case invalidated => exact keeps.invalidated
    case called =>
      rw [ObservedSession.lockedAnd, ObservedSession.locked, all,
        List.append_assoc]
      rfl

theorem not_current_of_none {core : SessionCore}
    (none : core.currentOperation = none)
    (operation : VaultSessionOperation) :
    core.isVaultSessionOperationCurrent operation = false := by
  rw [Bool.eq_false_iff]
  intro current
  obtain ⟨same, -⟩ :=
    SessionCore.isVaultSessionOperationCurrent_iff.mp current
  rw [none] at same
  cases same

theorem locked_keepsPurged :
    KeepsPurged start start.session.toSessionCore.locked := by
  refine ⟨rfl, rfl, rfl, rfl, ?_⟩
  intro operation _
  exact not_current_of_none rfl operation

theorem lockVaultSession_purges_iff :
    Purges start (Observed.lockVaultSession start).2 ↔
      AllReturn start.session.listeners.dropLast := by
  rw [Observed.lockVaultSession_eq]
  exact @purges_iff start id locked_keepsPurged

theorem nextOperation_current (core : SessionCore) (ownerId : JsString) :
    core.metadataOf core.nextOperation = none ∧
      (core.issueVaultSessionOperation ownerId).isVaultSessionOperationCurrent
        core.nextOperation = true := by
  constructor
  · exact List.getElem?_eq_none le_rfl
  · apply SessionCore.isVaultSessionOperationCurrent_iff.mpr
    refine ⟨rfl, { epoch := core.currentEpoch + 1, ownerId }, ?_, rfl, rfl⟩
    exact List.getElem?_concat_length

theorem not_current_of_issued {core : SessionCore} {ownerId : JsString}
    {operation : VaultSessionOperation} {metadata}
    (known : core.metadataOf operation = some metadata) :
    (core.issueVaultSessionOperation ownerId).isVaultSessionOperationCurrent
      operation = false := by
  rw [Bool.eq_false_iff]
  intro current
  obtain ⟨same, -⟩ :=
    SessionCore.isVaultSessionOperationCurrent_iff.mp current
  obtain rfl : core.nextOperation = operation := Option.some.inj same
  rw [(nextOperation_current core ownerId).1] at known
  cases known

/-- The purging branch of a change of owner. -/
theorem beginVaultSessionUnlock_eq {ownerId : JsString}
    (valid : assertVaultSessionOperationOwnerId ownerId = .ok ())
    (due : start.session.ownerChanged ownerId = true ∨
      start.session.hasUnownedSensitiveState = true)
    (returned : AllReturn start.session.listeners) :
    Observed.beginVaultSessionUnlock ownerId start =
      (.ok start.session.nextOperation,
        start.lockedAnd fun core =>
          core.clearEmergencyModePin.issueVaultSessionOperation ownerId) := by
  have locked := Observed.lockVaultSession_eq start
  rw [listenersOutcome_ok_iff.mpr returned] at locked
  have purge : (start.session.ownerChanged ownerId ||
      start.session.hasUnownedSensitiveState) = true :=
    Bool.or_eq_true_iff.mpr due
  simp only [Observed.beginVaultSessionUnlock, Sync.bind_apply,
    Observed.silent, Sync.within, Sync.ofExcept_apply, valid, Sync.get_apply,
    observedSession, purge, if_true, locked]
  rfl

/-- A change of owner that hands over has returned from every listener. -/
theorem allReturn_of_begun {ownerId : JsString}
    {operation : VaultSessionOperation}
    (due : start.session.ownerChanged ownerId = true ∨
      start.session.hasUnownedSensitiveState = true)
    (returned : (Observed.beginVaultSessionUnlock ownerId start).1 =
      .ok operation) :
    assertVaultSessionOperationOwnerId ownerId = .ok () ∧
      AllReturn start.session.listeners := by
  have purge : (start.session.ownerChanged ownerId ||
      start.session.hasUnownedSensitiveState) = true :=
    Bool.or_eq_true_iff.mpr due
  have locked := Observed.lockVaultSession_eq start
  simp only [Observed.beginVaultSessionUnlock, Sync.bind_apply,
    Observed.silent, Sync.within, Sync.ofExcept_apply, Sync.get_apply,
    observedSession] at returned
  cases valid : assertVaultSessionOperationOwnerId ownerId with
  | error error =>
      rw [valid] at returned
      cases returned
  | ok _ =>
      refine ⟨rfl, ?_⟩
      simp only [valid, purge, if_true, Sync.bind_apply, locked] at returned
      cases ended : listenersOutcome start.session.listeners with
      | ok _ => exact listenersOutcome_ok_iff.mp ended
      | error error =>
          rw [ended] at returned
          cases returned

theorem beginVaultSessionUnlock_handsOver_iff {ownerId : JsString}
    (due : start.session.ownerChanged ownerId = true ∨
      start.session.hasUnownedSensitiveState = true) :
    HandsOver ownerId start (Observed.beginVaultSessionUnlock ownerId start).1
        (Observed.beginVaultSessionUnlock ownerId start).2 ↔
      assertVaultSessionOperationOwnerId ownerId = .ok () ∧
        AllReturn start.session.listeners := by
  constructor
  · intro handsOver
    obtain ⟨operation, returned, -⟩ := handsOver.token
    exact allReturn_of_begun due returned
  · rintro ⟨valid, returned⟩
    rw [beginVaultSessionUnlock_eq valid due returned]
    obtain ⟨unknown, current⟩ := nextOperation_current
      start.locked.session.toSessionCore.clearEmergencyModePin ownerId
    constructor
    case purges =>
      apply (purges_iff _).mpr returned.dropLast
      refine ⟨rfl, rfl, rfl, rfl, ?_⟩
      intro operation wasCurrent
      obtain ⟨-, metadata, known, -⟩ :=
        SessionCore.isVaultSessionOperationCurrent_iff.mp wasCurrent
      exact @not_current_of_issued
        start.locked.session.toSessionCore.clearEmergencyModePin ownerId
        operation metadata known
    case pin => rfl
    case owner => rfl
    case token => exact ⟨_, rfl, unknown, current⟩

theorem clearVaultSessionOwner_state :
    (Observed.clearVaultSessionOwner start).2 =
      match listenersOutcome start.session.listeners with
      | .ok _ => start.lockedAnd fun core =>
          core.clearEmergencyModePin.clearVaultSessionOperationOwner
      | .error _ => start.locked := by
  simp only [Observed.clearVaultSessionOwner, Sync.bind_apply,
    Observed.lockVaultSession_eq]
  cases listenersOutcome start.session.listeners with
  | ok _ => rfl
  | error error => rfl

theorem clearVaultSessionOwner_disowns_iff :
    Disowns start (Observed.clearVaultSessionOwner start).2 ↔
      AllReturn start.session.listeners.dropLast ∧
        (AllReturn start.session.listeners ∨
          start.session.emergencyModePinned = false ∧
            start.session.currentOwnerId = none) := by
  rw [clearVaultSessionOwner_state]
  cases ended : listenersOutcome start.session.listeners with
  | ok _ =>
      have returned : AllReturn start.session.listeners :=
        listenersOutcome_ok_iff.mp ended
      have keeps : KeepsPurged start
          (start.session.toSessionCore.locked.clearEmergencyModePin
            |>.clearVaultSessionOperationOwner) := by
        refine ⟨rfl, rfl, rfl, rfl, ?_⟩
        intro operation _
        exact not_current_of_none rfl operation
      have purges := (@purges_iff start (fun core =>
        core.clearEmergencyModePin.clearVaultSessionOperationOwner)
        keeps).mpr returned.dropLast
      constructor
      · intro _
        exact ⟨returned.dropLast, .inl returned⟩
      · intro _
        exact ⟨purges, rfl, rfl⟩
  | error error =>
      have thrown : ¬ AllReturn start.session.listeners := by
        intro returned
        rw [listenersOutcome_ok_iff.mpr returned] at ended
        cases ended
      have purges := @purges_iff start id locked_keepsPurged
      constructor
      · intro disowns
        exact ⟨purges.mp disowns.purges, .inr ⟨disowns.pin, disowns.owner⟩⟩
      · rintro ⟨reached, returned | ⟨unpinned, unowned⟩⟩
        · exact absurd returned thrown
        · exact ⟨purges.mpr reached, unpinned, unowned⟩

end Purge

/-- For every session and every set of callbacks: a lock has its whole effect
exactly when no listener before the last throws, a change of owner exactly
when no listener throws, and the clearing of an owner when no listener throws
or only the last one does and there was no owner and no pin. -/
theorem purge_robust_iff (start : ObservedSession) :
    (Purges start (Observed.lockVaultSession start).2 ↔
      AllReturn start.session.listeners.dropLast) ∧
    (∀ ownerId, start.session.ownerChanged ownerId = true ∨
        start.session.hasUnownedSensitiveState = true →
      (HandsOver ownerId start
          (Observed.beginVaultSessionUnlock ownerId start).1
          (Observed.beginVaultSessionUnlock ownerId start).2 ↔
        assertVaultSessionOperationOwnerId ownerId = .ok () ∧
          AllReturn start.session.listeners)) ∧
    (Disowns start (Observed.clearVaultSessionOwner start).2 ↔
      AllReturn start.session.listeners.dropLast ∧
        (AllReturn start.session.listeners ∨
          start.session.emergencyModePinned = false ∧
            start.session.currentOwnerId = none)) := by
  refine ⟨lockVaultSession_purges_iff, ?_, clearVaultSessionOwner_disowns_iff⟩
  intro ownerId due
  exact beginVaultSessionUnlock_handsOver_iff due

namespace Reference

/-- A pinned session of one owner, with a cleanup handler that throws and one
listener. -/
def ownedSession (listener : Callback) : ObservedSession :=
  { session :=
      { emergencyModePinned := true
        sessionMode := .emergency
        operationMetadata := [{ epoch := 1, ownerId := js "first" }]
        currentEpoch := 1
        currentOwnerId := some (js "first")
        currentOperation := some { id := 0 }
        ownershipModeEnabled := true
        listeners := [listener]
        lockCleanupHandlers := [some (.error "cleanup failed")] }
    called := [] }

end Reference

open Reference in
/-- A session whose listener returns is handed over. -/
theorem purge_robust_iff_owned :
    HandsOver (js "second") (ownedSession none)
        (Observed.beginVaultSessionUnlock (js "second")
          (ownedSession none)).1
        (Observed.beginVaultSessionUnlock (js "second")
          (ownedSession none)).2 ↔
      assertVaultSessionOperationOwnerId (js "second") = .ok () ∧
        AllReturn (ownedSession none).session.listeners :=
  (purge_robust_iff (ownedSession none)).2.1 (js "second") (.inl rfl)

open Reference in
/-- A listener that throws leaves the previous owner and its pin. -/
theorem throwing_listener_keeps_owner :
    let start := ownedSession (some (.error "listener failed"))
    let begun := Observed.beginVaultSessionUnlock (js "second") start
    let cleared := Observed.clearVaultSessionOwner start
    start.session.ownerChanged (js "second") = true ∧
      begun.2.session.currentOwnerId = some (js "first") ∧
      begun.2.session.emergencyModePinned = true ∧
      cleared.2.session.currentOwnerId = some (js "first") ∧
      cleared.2.session.emergencyModePinned = true ∧
      ¬ HandsOver (js "second") start begun.1 begun.2 ∧
      ¬ Disowns start cleared.2 := by
  refine ⟨rfl, rfl, rfl, rfl, rfl, ?_, ?_⟩
  · intro handsOver
    cases handsOver.pin
  · intro disowns
    cases disowns.pin

end VaultCore
