import VaultCore.Async.Conduct
import VaultCore.Async.Erasure
import VaultCore.Session.StaleSafety
import VaultCore.Session.LeaseCoherence
import Mathlib.Algebra.BigOperators.Group.List.Basic

/-!
# Deletions

A deletion is followed with a count of the purges that have been invoked.  It
goes from a verified password to the purge and from there to the lock, and
each of the two steps is taken once and under an allowed token only.
-/

namespace VaultCore

/-- A session with the number of purges that have been invoked. -/
structure DeletingSession where
  session : SessionState
  purges : Nat

/-- The session in the page that deletes. -/
def deletingSession : Component DeletingSession SessionState :=
  { read := DeletingSession.session
    write := fun session deleting => { deleting with session }
    read_write := fun _ _ => rfl }

abbrev DeletingAsync (α : Type) := Async DeletingSession VaultError α

namespace Deleting

/-- Session code that invokes no purge. -/
def silent {α : Type} (code : SessionSync α) :
    Sync DeletingSession VaultError α :=
  code.within deletingSession

/-- `await options.purgePersistedVault()` -/
def invokePurge (purgePersistedVault : Except VaultError Unit) :
    DeletingAsync Unit := do
  Async.lift (Sync.modify fun deleting =>
    { deleting with purges := deleting.purges + 1 })
  Async.awaitOutcome purgePersistedVault

def deleteVaultAfterAuthorization
    (purgePersistedVault : Except VaultError Unit)
    (operation : Option VaultSessionOperation) : DeletingAsync Unit := do
  Async.lift (silent (assertVaultSessionMutationAllowed operation))
  invokePurge purgePersistedVault
  Async.lift (silent do
    assertVaultSessionMutationAllowed operation
    lockVaultSession
    resetVaultSessionLockState)

def deleteVaultWithPasswordAuthorization (platform : Platform)
    (currentPassword : JsString) (passwordEnvelope : PasswordEnvelope)
    (scope : VaultScope) (profile : VaultCryptoProfile)
    (purgePersistedVault : Except VaultError Unit)
    (operation : Option VaultSessionOperation) : DeletingAsync Unit := do
  Async.lift (silent (assertVaultSessionMutationAllowed operation))
  let _ ← Async.awaitOutcome (unlockWithPasswordEnvelope platform
    currentPassword passwordEnvelope scope profile)
  Async.await (deleteVaultAfterAuthorization purgePersistedVault operation)

/-- The session's calls, with the purges recorded. -/
def program (platform : Platform) :
    SessionCall → DeletingAsync SessionValue
  | .deleteVaultAfterAuthorization purgePersistedVault operation => do
      deleteVaultAfterAuthorization purgePersistedVault operation
      pure .unit
  | .deleteVaultWithPasswordAuthorization currentPassword passwordEnvelope
      scope profile purgePersistedVault operation => do
      deleteVaultWithPasswordAuthorization platform currentPassword
        passwordEnvelope scope profile purgePersistedVault operation
      pure .unit
  | call => (sessionProgram platform call).within deletingSession

def machine (platform : Platform) :
    Machine SessionCall SessionEvent DeletingSession VaultError
      SessionValue :=
  { program := program platform
    environment := fun event deleting =>
      { deleting with session := sessionEnvironment event deleting.session } }

section Erasure

variable {platform : Platform}

theorem deleteVaultAfterAuthorization_erases
    (purgePersistedVault : Except VaultError Unit)
    (operation : Option VaultSessionOperation) :
    Async.Erases deletingSession.read
      (deleteVaultAfterAuthorization purgePersistedVault operation)
      (VaultCore.deleteVaultAfterAuthorization purgePersistedVault
        operation) := by
  refine (Async.Erases.within deletingSession (Async.lift _)).bind fun _ => ?_
  refine Async.Erases.bind ?_ fun _ => .within deletingSession (Async.lift _)
  exact .record (fun _ => rfl) (.awaitOutcome _)

theorem deleteVaultWithPasswordAuthorization_erases
    (currentPassword : JsString) (passwordEnvelope : PasswordEnvelope)
    (scope : VaultScope) (profile : VaultCryptoProfile)
    (purgePersistedVault : Except VaultError Unit)
    (operation : Option VaultSessionOperation) :
    Async.Erases deletingSession.read
      (deleteVaultWithPasswordAuthorization platform currentPassword
        passwordEnvelope scope profile purgePersistedVault operation)
      (VaultCore.deleteVaultWithPasswordAuthorization platform
        currentPassword passwordEnvelope scope profile purgePersistedVault
        operation) := by
  refine (Async.Erases.within deletingSession (Async.lift _)).bind fun _ => ?_
  refine (Async.Erases.awaitOutcome _).bind fun _ => ?_
  exact (deleteVaultAfterAuthorization_erases purgePersistedVault
    operation).await

theorem machine_erases :
    Machine.Erases deletingSession.read (machine platform)
      (sessionMachine platform) where
  program := fun call => by
    cases call with
    | deleteVaultAfterAuthorization purgePersistedVault operation =>
        exact (deleteVaultAfterAuthorization_erases purgePersistedVault
          operation).bind fun _ => .done _
    | deleteVaultWithPasswordAuthorization currentPassword passwordEnvelope
        scope profile purgePersistedVault operation =>
        exact (deleteVaultWithPasswordAuthorization_erases currentPassword
          passwordEnvelope scope profile purgePersistedVault
          operation).bind fun _ => .done _
    | _ => exact .within deletingSession _
  environment := fun _ _ => rfl

end Erasure

end Deleting

/-! ## The steps of a deletion -/

/-- How far a deletion has come. -/
inductive DeletionPhase where
  | unverified
  | authorized
  | purging
  | finished
deriving DecidableEq

/-- What a call that deletes the vault was given, and where it begins.
`opened` says that its password opens the envelope. -/
structure Deletion where
  operation : Option VaultSessionOperation
  purgePersistedVault : Except VaultError Unit
  origin : DeletionPhase
  opened : Prop

/-- The deletion that a call asks for. -/
def SessionCall.deletion (platform : Platform) :
    SessionCall → Option Deletion
  | .deleteVaultAfterAuthorization purgePersistedVault operation =>
      some
        { operation
          purgePersistedVault
          origin := .authorized
          opened := True }
  | .deleteVaultWithPasswordAuthorization currentPassword passwordEnvelope
      scope profile purgePersistedVault operation =>
      some
        { operation
          purgePersistedVault
          origin := .unverified
          opened := ∃ vaultKey, unlockWithPasswordEnvelope platform
            currentPassword passwordEnvelope scope profile = .ok vaultKey }
  | _ => none

/-- The session after a lock whose state is reset, unless a listener ends it
first. -/
def lockedAndReset (state : SessionState) : SessionState :=
  ((do
    lockVaultSession
    resetVaultSessionLockState : SessionSync Unit) state).2

/-- What one segment of a deletion may do. -/
inductive DeletionStep (deletion : Deletion) :
    DeletionPhase → DeletionPhase → DeletingSession → DeletingSession → Prop
    where
  | idles (phase : DeletionPhase) (state : DeletingSession) :
      DeletionStep deletion phase phase state state
  | verifies (state : DeletingSession) : deletion.opened →
      DeletionStep deletion .unverified .authorized state state
  | purges (state : DeletingSession) :
      state.session.mutationAllowed deletion.operation = .ok () →
      DeletionStep deletion .authorized .purging state
        { state with purges := state.purges + 1 }
  | locks (state : DeletingSession) :
      state.session.mutationAllowed deletion.operation = .ok () →
      deletion.purgePersistedVault = .ok () →
      DeletionStep deletion .purging .finished state
        { state with session := lockedAndReset state.session }

section Owns

variable {deletion : Deletion} {operation : Option VaultSessionOperation}

/-- A program whose segments are steps of the deletion. -/
def Deletion.Takes (deletion : Deletion) {α : Type}
    (program : DeletingAsync α) (phase : DeletionPhase)
    (start state : DeletingSession) : Prop :=
  program.Owns (fun _ _ => True) (DeletionStep deletion)
    (fun _ held begun finish =>
      ∃ kept, DeletionStep deletion held kept begun finish)
    phase start state

theorem takes_assert {α : Type} {next : Unit → DeletingAsync α}
    {phase : DeletionPhase} {state : DeletingSession}
    (continues : state.session.mutationAllowed operation = .ok () →
      deletion.Takes (next ()) phase state state) :
    deletion.Takes
      (Async.lift (Deleting.silent
        (assertVaultSessionMutationAllowed operation)) >>= next)
      phase state state := by
  apply Async.Owns.bind_lift
  · intro value middle passed
    obtain ⟨allowed, rfl⟩ := Prod.mk.inj passed
    exact continues allowed
  · intro error middle failed
    obtain ⟨-, rfl⟩ := Prod.mk.inj failed
    exact ⟨phase, .idles phase state⟩

theorem deleteVaultAfterAuthorization_takes (deletion : Deletion)
    (state : DeletingSession) :
    deletion.Takes
      (Deleting.deleteVaultAfterAuthorization deletion.purgePersistedVault
        deletion.operation) .authorized state state := by
  apply takes_assert
  intro allowed
  refine ⟨.purging, .purges state allowed, ?_⟩
  intro later _
  cases purged : deletion.purgePersistedVault with
  | error error => exact ⟨.purging, .idles .purging later⟩
  | ok done =>
      apply Async.Owns.lift
      simp only [Deleting.silent, Sync.within, deletingSession,
        assertVaultSessionMutationAllowed, Sync.bind_apply]
      cases still : later.session.mutationAllowed deletion.operation with
      | error error => exact ⟨.purging, .idles .purging later⟩
      | ok _ => exact ⟨.finished, .locks later still purged⟩

theorem deleteVaultWithPasswordAuthorization_takes {platform : Platform}
    {currentPassword : JsString} {passwordEnvelope : PasswordEnvelope}
    {scope : VaultScope} {profile : VaultCryptoProfile}
    (opened : deletion.opened ↔ ∃ vaultKey, unlockWithPasswordEnvelope
      platform currentPassword passwordEnvelope scope profile = .ok vaultKey)
    (state : DeletingSession) :
    deletion.Takes
      (Deleting.deleteVaultWithPasswordAuthorization platform currentPassword
        passwordEnvelope scope profile deletion.purgePersistedVault
        deletion.operation) .unverified state state := by
  apply takes_assert
  intro _
  cases outcome : unlockWithPasswordEnvelope platform currentPassword
      passwordEnvelope scope profile with
  | error error =>
      exact ⟨.unverified, .idles .unverified state,
        fun later _ => ⟨.unverified, .idles .unverified later⟩⟩
  | ok vaultKey =>
      refine ⟨.authorized, .verifies state (opened.mpr ⟨_, outcome⟩), ?_⟩
      intro later _
      apply Async.Owns.await
      apply (deleteVaultAfterAuthorization_takes deletion later).mono
      rintro ended held begun finish ⟨kept, step⟩
      exact ⟨kept, step, fun after _ => ⟨kept, .idles kept after⟩⟩

/-- The program of a call that deletes takes the steps of a deletion. -/
theorem deletionProgram_takes {platform : Platform} {call : SessionCall}
    (deletes : call.deletion platform = some deletion)
    (state : DeletingSession) :
    deletion.Takes ((Deleting.machine platform).program call) deletion.origin
      state state := by
  have ends {program : DeletingAsync Unit} {phase : DeletionPhase}
      (takes : deletion.Takes program phase state state) :
      deletion.Takes (do program; pure SessionValue.unit) phase state
        state := by
    apply Async.Owns.bind
    apply takes.mono
    intro outcome held begun finish stepped
    cases outcome with
    | ok done => exact stepped
    | error error => exact stepped
  cases call with
  | deleteVaultAfterAuthorization purgePersistedVault operation =>
      obtain rfl := Option.some.inj deletes
      exact ends (deleteVaultAfterAuthorization_takes _ state)
  | deleteVaultWithPasswordAuthorization currentPassword passwordEnvelope
      scope profile purgePersistedVault operation =>
      obtain rfl := Option.some.inj deletes
      exact ends (deleteVaultWithPasswordAuthorization_takes Iff.rfl state)
  | _ => cases deletes

end Owns

/-! ## The segments of a deletion -/

/-- How many purges the segments invoke. -/
def purgeCount (segments : List (DeletingSession × DeletingSession)) : Nat :=
  (segments.map fun segment => segment.2.purges - segment.1.purges).sum

section Segments

variable {deletion : Deletion} {phase : DeletionPhase}
  {segments earlier later : List (DeletingSession × DeletingSession)}

theorem purgeCount_append :
    purgeCount (earlier ++ later) = purgeCount earlier + purgeCount later := by
  simp only [purgeCount, List.map_append, List.sum_append]

theorem purgeCount_eq
    (ran : Async.Ran (DeletionStep deletion) deletion.origin segments phase)
    (begins : deletion.origin = .unverified ∨ deletion.origin = .authorized) :
    purgeCount segments =
      if phase = .purging ∨ phase = .finished then 1 else 0 := by
  induction ran with
  | nil => rcases begins with same | same <;> simp [purgeCount, same]
  | snoc _ step ih =>
      rw [purgeCount_append, ih]
      cases step with
      | idles phase state => simp [purgeCount]
      | verifies state opened => simp [purgeCount]
      | purges state allowed => simp [purgeCount]
      | locks state allowed purged => simp [purgeCount]

/-- A deletion that has not invoked its purge has written nothing. -/
theorem quiet_of_unpurged
    (ran : Async.Ran (DeletionStep deletion) deletion.origin segments phase)
    (begins : deletion.origin = .unverified ∨ deletion.origin = .authorized)
    (unpurged : purgeCount segments = 0) :
    ∀ segment ∈ segments, segment.2 = segment.1 := by
  induction ran with
  | nil => exact fun segment member => absurd member List.not_mem_nil
  | @snoc ran held kept start finish history step ih =>
      rw [purgeCount_append, Nat.add_eq_zero_iff] at unpurged
      have earlier := ih unpurged.1
      have counted := purgeCount_eq history begins
      intro segment member
      rcases List.mem_append.mp member with before | last
      · exact earlier segment before
      · obtain rfl := List.mem_singleton.mp last
        cases step with
        | idles phase state => rfl
        | verifies state opened => rfl
        | purges state allowed => simp [purgeCount] at unpurged
        | locks state allowed purged => simp [counted] at unpurged

theorem unpurged_of_unopened
    (ran : Async.Ran (DeletionStep deletion) deletion.origin segments phase)
    (begins : deletion.origin = .unverified)
    (unopened : ¬ deletion.opened) : phase = .unverified := by
  induction ran with
  | nil => exact begins
  | snoc _ step ih =>
      cases step with
      | idles => exact ih
      | verifies state opened => exact absurd opened unopened
      | purges => cases ih
      | locks => cases ih

theorem purgeCount_eq_zero
    (unpurged : ∀ segment ∈ segments, segment.2.purges = segment.1.purges) :
    purgeCount segments = 0 := by
  apply List.sum_eq_zero
  rw [List.forall_mem_map]
  intro segment member
  rw [unpurged segment member, Nat.sub_self]

theorem DeletionStep.allowed {held kept : DeletionPhase}
    {start finish : DeletingSession}
    (step : DeletionStep deletion held kept start finish)
    (changed : finish ≠ start) :
    start.session.mutationAllowed deletion.operation = .ok () := by
  cases step with
  | idles phase state => exact absurd rfl changed
  | verifies state opened => exact absurd rfl changed
  | purges state allowed => exact allowed
  | locks state allowed purged => exact allowed

end Segments

/-! ## Deletions in every interleaving -/

/-- Operations that are stale stay so. -/
def KeepsStale (start finish : DeletingSession) : Prop :=
  ∀ operation, StaleOperation operation start.session.toSessionCore →
    StaleOperation operation finish.session.toSessionCore

instance : Std.Refl KeepsStale := ⟨fun _ _ stale => stale⟩

instance : IsTrans DeletingSession KeepsStale :=
  ⟨fun _ _ _ first second operation stale =>
    second operation (first operation stale)⟩

/-- The token is current, and its owner owns the session. -/
def ActsForOwner (token : Option VaultSessionOperation)
    (core : SessionCore) : Prop :=
  ∃ operation metadata, token = some operation ∧
    core.isVaultSessionOperationCurrent operation = true ∧
    core.metadataOf operation = some metadata ∧
    core.currentOwnerId = some metadata.ownerId

theorem DeletionStep.actsForOwner {deletion : Deletion}
    {held kept : DeletionPhase} {start finish : DeletingSession}
    (step : DeletionStep deletion held kept start finish)
    (enabled : start.session.ownershipModeEnabled = true)
    (changed : finish ≠ start) :
    ActsForOwner deletion.operation start.session.toSessionCore := by
  obtain ⟨operation, given, current⟩ :=
    SessionCore.mutationAllowed_owned enabled (step.allowed changed)
  obtain ⟨-, metadata, known, -, owner⟩ :=
    SessionCore.isVaultSessionOperationCurrent_iff.mp current
  exact ⟨operation, metadata, given, current, known, owner⟩

/-- With a stale token a deletion changes nothing. -/
theorem DeletionStep.unchanged_of_stale {deletion : Deletion}
    {held kept : DeletionPhase} {start finish : DeletingSession}
    {operation : VaultSessionOperation}
    (step : DeletionStep deletion held kept start finish)
    (given : deletion.operation = some operation)
    (stale : StaleOperation operation start.session.toSessionCore) :
    finish = start := by
  by_contra changed
  have allowed := step.allowed changed
  rw [given, SessionCore.mutationAllowed, stale.2] at allowed
  cases allowed

section Runs

variable {platform : Platform} {initial : DeletingSession}
  {call : SessionCall} {deletion : Deletion}

/-- The session after a run is the one that no purges are counted for. -/
theorem deleting_run_session (events : List SessionStep) :
    ((Deleting.machine platform).run (Pool.initial initial)
      events).state.session =
      ((sessionMachine platform).run (Pool.initial initial.session)
        events).state :=
  Deleting.machine_erases.run_state initial events

variable (platform initial) in
theorem deleting_movesAlong :
    (Deleting.machine platform).MovesAlong KeepsStale
      (Pool.initial initial) := by
  intro before event operation stale
  have stepped : (Deleting.machine platform).step
      ((Deleting.machine platform).run (Pool.initial initial) before) event =
      (Deleting.machine platform).run (Pool.initial initial)
        (before ++ [event]) := by
    rw [Machine.run_append]
    rfl
  rw [deleting_run_session] at stale
  rw [stepped, deleting_run_session, Machine.run_append]
  obtain ⟨token, powers, effect, -⟩ :=
    session_step_effect platform initial.session before event
  exact stale.step effect

theorem deletion_begins (deletes : call.deletion platform = some deletion) :
    deletion.origin = .unverified ∨
      deletion.origin = .authorized ∧ deletion.opened := by
  cases call with
  | deleteVaultAfterAuthorization purgePersistedVault operation =>
      obtain rfl := Option.some.inj deletes
      exact .inr ⟨rfl, trivial⟩
  | deleteVaultWithPasswordAuthorization currentPassword passwordEnvelope
      scope profile purgePersistedVault operation =>
      obtain rfl := Option.some.inj deletes
      exact .inl rfl
  | _ => cases deletes

/-- The segments of a deletion are its steps. -/
theorem deletion_ran {events : List SessionStep} {task : Nat}
    {rest : DeletingAsync SessionValue}
    (found : ((Deleting.machine platform).run (Pool.initial initial)
      events).tasks[task]? = some (call, rest))
    (deletes : call.deletion platform = some deletion) :
    ∃ phase, Async.Ran (DeletionStep deletion) deletion.origin
      ((Deleting.machine platform).segments task (Pool.initial initial)
        events) phase := by
  have account := Machine.accounted found
    ((deleting_movesAlong platform initial).segments task events)
    (deletionProgram_takes deletes) (fun _ _ _ _ _ => trivial)
    (fun _ _ _ _ _ => trivial)
  generalize (Deleting.machine platform).segments task (Pool.initial initial)
    events = segments at account ⊢
  cases account with
  | ended past ends =>
      obtain ⟨kept, step⟩ := ends
      exact ⟨kept, .snoc past step⟩
  | suspended past _ => exact ⟨_, past⟩

/-- From where its token is stale a deletion purges no more. -/
theorem purgeCount_of_stale {events later : List SessionStep} {task : Nat}
    {phase : DeletionPhase} {operation : VaultSessionOperation}
    (ran : Async.Ran (DeletionStep deletion) deletion.origin
      ((Deleting.machine platform).segments task (Pool.initial initial)
        (events ++ later)) phase)
    (given : deletion.operation = some operation)
    (stale : StaleOperation operation
      ((Deleting.machine platform).run (Pool.initial initial)
        events).state.session.toSessionCore) :
    purgeCount ((Deleting.machine platform).segments task
      ((Deleting.machine platform).run (Pool.initial initial) events)
        later) = 0 := by
  apply purgeCount_eq_zero
  intro segment member
  have follow := (deleting_movesAlong platform initial).later events
    |>.segments task later
  have staleStart := follow.after segment member operation stale
  rw [Machine.segments_append] at ran
  obtain ⟨held, kept, step⟩ :=
    ran.change_of_mem segment (List.mem_append_right _ member)
  rw [step.unchanged_of_stale given staleStart]

end Runs

/-- In every interleaving, a deletion purges at most once, when its password
has opened the envelope and while its token is allowed, and locks only after a
purge that succeeded and while its token is still allowed.  With a wrong
password, or a token that is stale before the purge, it writes nothing. -/
theorem deletion_authorized_and_unrepeated (platform : Platform)
    (initial : DeletingSession) (events later : List SessionStep)
    (task : Nat) (call : SessionCall) (rest : DeletingAsync SessionValue)
    (deletion : Deletion)
    (found : ((Deleting.machine platform).run (Pool.initial initial)
      (events ++ later)).tasks[task]? = some (call, rest))
    (deletes : call.deletion platform = some deletion) :
    let machine := Deleting.machine platform
    let pool := Pool.initial initial
    let segments := machine.segments task pool (events ++ later)
    (machine.run pool (events ++ later)).state.session =
        ((sessionMachine platform).run (Pool.initial initial.session)
          (events ++ later)).state ∧
      (∃ phase,
        Async.Ran (DeletionStep deletion) deletion.origin segments phase) ∧
      purgeCount segments ≤ 1 ∧
      (∀ segment ∈ segments, segment.1.session.ownershipModeEnabled = true →
        segment.2 ≠ segment.1 →
          ActsForOwner deletion.operation segment.1.session.toSessionCore) ∧
      (¬ deletion.opened → ∀ segment ∈ segments, segment.2 = segment.1) ∧
      ∀ operation, deletion.operation = some operation →
        StaleOperation operation
            (machine.run pool events).state.session.toSessionCore →
          purgeCount (machine.segments task pool events) = 0 →
            ∀ segment ∈ segments, segment.2 = segment.1 := by
  intro machine pool segments
  obtain ⟨phase, ran⟩ := deletion_ran found deletes
  have origins := deletion_begins deletes
  have begins := origins.imp_right And.left
  have counted := purgeCount_eq ran begins
  refine ⟨deleting_run_session _, ⟨phase, ran⟩, ?_, ?_, ?_, ?_⟩
  · rw [counted]
    split
    · exact Nat.le_refl 1
    · exact Nat.zero_le 1
  · intro segment member enabled changed
    obtain ⟨held, kept, step⟩ := ran.change_of_mem segment member
    exact step.actsForOwner enabled changed
  · intro unopened
    have origin := origins.resolve_right fun both => unopened both.2
    apply quiet_of_unpurged ran begins
    rw [counted, unpurged_of_unopened ran origin unopened]
    rfl
  · intro operation given stale unpurged
    apply quiet_of_unpurged ran begins
    have split : segments = machine.segments task pool events ++
        machine.segments task (machine.run pool events) later :=
      Machine.segments_append task pool events later
    change purgeCount segments = 0
    rw [split, purgeCount_append, unpurged, Nat.zero_add]
    exact purgeCount_of_stale ran given stale

/-- A deletion of an owner whose purge succeeds and whose session is locked. -/
theorem deletion_authorized_and_unrepeated_locked :
    let machine := Deleting.machine (Reference.platform [])
    let pool := Pool.initial { session := {}, purges := 0 }
    let events : List SessionStep :=
      [.start (.beginVaultSessionUnlock (js "alice")),
        .start (.deleteVaultAfterAuthorization (.ok ()) (some { id := 0 })),
        .resume 1]
    purgeCount (machine.segments 1 pool events) ≤ 1 := by
  intro machine pool events
  obtain ⟨-, -, once, -⟩ := deletion_authorized_and_unrepeated
    (Reference.platform []) { session := {}, purges := 0 } events [] 1
    (.deleteVaultAfterAuthorization (.ok ()) (some { id := 0 })) _ _ rfl rfl
  exact once

end VaultCore
