import VaultCore.Async.History
import VaultCore.Session.Segments
import VaultCore.Crypto.Reference

/-!
# Who releases the emergency pin

The mode of the session outlives a lock because of the pin.  In every
interleaving the pin goes only in a step of a call that may release it, and
leaving the emergency mode writes nothing before its last check has passed.
-/

namespace VaultCore

namespace SessionEffect

variable {token : Option VaultSessionOperation} {powers : SessionPowers}
  {core finish : SessionCore}

theorem releases_of_unpinned (effect : SessionEffect token powers core finish)
    (pinned : core.emergencyModePinned = true)
    (unpinned : finish.emergencyModePinned = false) :
    powers.releases core := by
  cases effect with
  | unchanged => simp [pinned] at unpinned
  | locked => simp [SessionCore.locked, pinned] at unpinned
  | deleted => simp [SessionCore.locked, pinned] at unpinned
  | reset => simp [pinned] at unpinned
  | disowned may => exact may
  | begun ownerId sameOwner clean =>
      simp [SessionCore.issueVaultSessionOperation, pinned] at unpinned
  | purged ownerId may => exact may
  | installed vaultKey role allowed nonExtractable may =>
      obtain ⟨committed, fields, -⟩ :=
        SessionCore.installed_of_allowed allowed vaultKey role
      rw [fields.pin, pinned, Bool.true_or] at unpinned
      cases unpinned
  | cached entry allowed => simp [pinned] at unpinned
  | uncached allowed => simp [pinned] at unpinned
  | pinned allowed may =>
      simp [SessionCore.enterVaultEmergencyMode] at unpinned
  | unpinned allowed may => exact may
  | exited allowed may => exact may

end SessionEffect

section Exit

variable {platform : Platform} {input : ExitEmergencyModeInput}

/-- What is left of an exit once the phrase has been checked. -/
def exitVerified (platform : Platform) (input : ExitEmergencyModeInput) :
    SessionAsync SessionValue :=
  asynchronousCall (fun _ => .unit) do
    let _ ← Async.done (unlockWithRecoveryEnvelope platform
      input.recoveryPhrase input.primaryRecoveryEnvelope input.scope
      input.profile none)
    Async.lift do
      assertVaultSessionMutationAllowed input.operation
      clearEmergencyModePin input.operation
      lockVaultSession

private theorem exit_start (state : SessionState) :
    (sessionProgram platform (.exitEmergencyMode input)).runSegment state =
      match state.mutationAllowed input.operation with
      | .error error => (.done (.error error), state)
      | .ok _ =>
          if !state.isVaultEmergencyMode then (.done (.ok .unit), state)
          else if input.emailOtpRequired && (input.emailOtp.getD []).isEmpty
            then (.done (.error (.vaultAuthorizationError
              "Email verification is required to exit emergency mode.")), state)
          else (.pause (exitVerified platform input), state) := by
  simp only [sessionProgram, asynchronousCall, exitEmergencyMode, Async.lift,
    assertVaultSessionMutationAllowed, Async.bind_sync, Async.runSegment]
  cases allowed : state.mutationAllowed input.operation with
  | error error => rfl
  | ok _ =>
      simp only [Async.bind_done_ok, Async.bind_sync, Async.runSegment,
        Sync.get_apply]
      split
      · rfl
      · split
        · rfl
        · rfl

/-- The first segment of an exit writes nothing, and waits for the phrase only
under an allowed token and with a required one-time password. -/
theorem exitEmergencyMode_first (state : SessionState) :
    ((sessionProgram platform (.exitEmergencyMode input)).runSegment
      state).2 = state ∧
    ((∃ outcome, ((sessionProgram platform
        (.exitEmergencyMode input)).runSegment state).1 = .done outcome) ∨
      ((sessionProgram platform (.exitEmergencyMode input)).runSegment
        state).1 = .pause (exitVerified platform input) ∧
      input.emailVerified ∧
      state.mutationAllowed input.operation = .ok ()) := by
  rw [exit_start]
  cases allowed : state.mutationAllowed input.operation with
  | error error => exact ⟨rfl, .inl ⟨_, rfl⟩⟩
  | ok _ =>
      simp only
      split
      · exact ⟨rfl, .inl ⟨_, rfl⟩⟩
      · split
        · exact ⟨rfl, .inl ⟨_, rfl⟩⟩
        · rename_i verification
          refine ⟨rfl, .inr ⟨rfl, ?_, trivial⟩⟩
          intro required missing
          simp [required, missing] at verification

/-- The last segment of an exit writes only once the phrase has opened the
envelope and while the token is allowed. -/
theorem exitVerified_last (state : SessionState) :
    (∃ outcome, ((exitVerified platform input).runSegment state).1 =
      .done outcome) ∧
    (((exitVerified platform input).runSegment state).2 = state ∨
      input.opensEnvelope platform ∧
        state.mutationAllowed input.operation = .ok ()) := by
  unfold exitVerified asynchronousCall
  cases opened : unlockWithRecoveryEnvelope platform input.recoveryPhrase
      input.primaryRecoveryEnvelope input.scope input.profile none with
  | error error => exact ⟨⟨_, rfl⟩, .inl rfl⟩
  | ok vaultKey =>
      simp only [Async.bind_done_ok, Async.lift, Async.bind_sync,
        Async.runSegment]
      constructor
      · cases ((do
            assertVaultSessionMutationAllowed input.operation
            clearEmergencyModePin input.operation
            lockVaultSession : SessionSync Unit) state).1 with
        | ok value => exact ⟨_, rfl⟩
        | error error => exact ⟨_, rfl⟩
      · cases allowed : state.mutationAllowed input.operation with
        | ok _ => exact .inr ⟨⟨vaultKey, opened⟩, rfl⟩
        | error error =>
            left
            simp only [assertVaultSessionMutationAllowed, Sync.bind_apply,
              allowed]
            rfl

/-- An exit that wrote something had its phrase, its one-time password and, in
every segment, its token accepted. -/
theorem exitEmergencyMode_history {ran : List (SessionState × SessionState)}
    {rest : SessionAsync SessionValue}
    (history : Machine.History
      (sessionProgram platform (.exitEmergencyMode input)) ran rest) :
    ((∀ segment ∈ ran, segment.2 = segment.1) ∧
        (rest = .pause (exitVerified platform input) →
          input.emailVerified ∧ ∀ segment ∈ ran,
            segment.1.mutationAllowed input.operation = .ok ()) ∧
        ((∃ outcome, rest = .done outcome) ∨
          rest = .pause (exitVerified platform input))) ∨
      (∃ outcome, rest = .done outcome) ∧ input.opensEnvelope platform ∧
        input.emailVerified ∧ ∀ segment ∈ ran,
          segment.1.mutationAllowed input.operation = .ok () := by
  induction history with
  | started state =>
      obtain ⟨unchanged, stage⟩ := @exitEmergencyMode_first platform input state
      refine .inl ⟨?_, ?_, ?_⟩
      · intro segment member
        rw [List.mem_singleton.mp member]
        exact unchanged
      · intro waiting
        rcases stage with finished | suspended
        · obtain ⟨outcome, finished⟩ := finished
          rw [finished] at waiting
          cases waiting
        · refine ⟨suspended.2.1, ?_⟩
          intro segment member
          rw [List.mem_singleton.mp member]
          exact suspended.2.2
      · exact stage.imp_right And.left
  | @resumed earlier rest state _ ih =>
      rcases ih with waiting | finished
      · obtain ⟨unchanged, checked, stage⟩ := waiting
        rcases stage with impossible | suspended
        · obtain ⟨outcome, impossible⟩ := impossible
          cases impossible
        · have verified := checked suspended
          cases suspended
          obtain ⟨ended, wrote⟩ := @exitVerified_last platform input state
          rcases wrote with same | authorized
          · refine .inl ⟨?_, ?_, .inl ended⟩
            · intro segment member
              rcases List.mem_append.mp member with before | last
              · exact unchanged segment before
              · rw [List.mem_singleton.mp last]
                exact same
            · intro still
              obtain ⟨outcome, ended⟩ := ended
              rw [ended] at still
              cases still
          · refine .inr ⟨ended, authorized.1, verified.1, ?_⟩
            intro segment member
            rcases List.mem_append.mp member with before | last
            · exact verified.2 segment before
            · rw [List.mem_singleton.mp last]
              exact authorized.2
      · obtain ⟨⟨outcome, impossible⟩, -⟩ := finished
        cases impossible

end Exit

/-- Why an exit is rejected: its phrase does not open the envelope, a required
one-time password is missing, or one of its segments begins under a token that
is no longer allowed. -/
inductive ExitRefused (platform : Platform) (input : ExitEmergencyModeInput)
    (ran : List (SessionState × SessionState)) : Prop where
  | phrase : ¬ input.opensEnvelope platform → ExitRefused platform input ran
  | emailOtp : ¬ input.emailVerified → ExitRefused platform input ran
  | stale (segment : SessionState × SessionState) : segment ∈ ran →
      segment.1.mutationAllowed input.operation ≠ .ok () →
      ExitRefused platform input ran

/-- In every interleaving the pin is released only by a call that may release
it in the session its segment acts on, and an exit that is refused has written
nothing in any of its segments. -/
theorem emergency_pin_released_only_by_authorized_path (platform : Platform)
    (initial : SessionState) (events : List SessionStep) :
    let pool := (sessionMachine platform).run (Pool.initial initial) events
    (∀ event,
      pool.state.emergencyModePinned = true →
      ((sessionMachine platform).step pool event).state.emergencyModePinned =
        false →
      ∃ call, pool.actor event = some call ∧
        call.releases platform pool.state.toSessionCore) ∧
    ∀ task input rest,
      pool.tasks[task]? = some (.exitEmergencyMode input, rest) →
      ExitRefused platform input ((sessionMachine platform).segments task
        (Pool.initial initial) events) →
      ∀ segment ∈ (sessionMachine platform).segments task
        (Pool.initial initial) events,
        segment.2 = segment.1 := by
  intro pool
  constructor
  · intro event pinned unpinned
    have initially : (sessionDiscipline platform).invariant initial := trivial
    have transition :=
      (sessionDiscipline platform).run_transition initially events event
    cases event with
    | start call =>
        exact ⟨call, rfl, transition.releases_of_unpinned pinned unpinned⟩
    | resume task =>
        simp only [Machine.Discipline.Transition] at transition
        split at transition
        · rename_i call program origin found begun
          refine ⟨call, ?_, transition.releases_of_unpinned pinned unpinned⟩
          simp only [Pool.actor, pool, found, Option.map_some]
        · rw [transition] at unpinned
          exact absurd (pinned.symm.trans unpinned) Bool.noConfusion
    | environment event =>
        rcases transition with same | locked
        · rw [same] at unpinned
          exact absurd (pinned.symm.trans unpinned) Bool.noConfusion
        · rw [locked] at unpinned
          exact absurd (pinned.symm.trans unpinned) Bool.noConfusion
  · intro task input rest found refused segment member
    have recorded := @Machine.run_recorded _ _ _ _ _ (sessionMachine platform)
      initial events
    have history := recorded.started task _ rest found
    rcases exitEmergencyMode_history history with quiet | authorized
    · exact quiet.1 segment member
    · obtain ⟨-, opened, verified, allowed⟩ := authorized
      cases refused with
      | phrase closed => exact absurd opened closed
      | emailOtp missing => exact absurd verified missing
      | stale other ran_other stale =>
          exact absurd (allowed other ran_other) stale

/-- The pin of an owned session, cleared under its token. -/
theorem emergency_pin_released_only_by_authorized_path_cleared :
    let machine := sessionMachine (Reference.platform [])
    let pinning : List SessionStep :=
      [.start (.beginVaultSessionUnlock (js "alice")),
        .start (.enterVaultEmergencyMode (some { id := 0 }))]
    let clearing : SessionStep :=
      .start (.clearEmergencyModePin (some { id := 0 }))
    let pool := machine.run (Pool.initial {}) pinning
    pool.state.emergencyModePinned = true ∧
      (machine.step pool clearing).state.emergencyModePinned = false ∧
      ∃ call, pool.actor clearing = some call ∧
        call.releases (Reference.platform []) pool.state.toSessionCore := by
  have pinned : ((sessionMachine (Reference.platform [])).run
      (Pool.initial {})
      [.start (.beginVaultSessionUnlock (js "alice")),
        .start (.enterVaultEmergencyMode (some { id := 0 }))]
      ).state.emergencyModePinned = true := rfl
  refine ⟨pinned, rfl, ?_⟩
  exact (emergency_pin_released_only_by_authorized_path
    (Reference.platform []) {}
    [.start (.beginVaultSessionUnlock (js "alice")),
      .start (.enterVaultEmergencyMode (some { id := 0 }))]).1
    (.start (.clearEmergencyModePin (some { id := 0 }))) pinned rfl

end VaultCore
