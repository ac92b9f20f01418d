import VaultCore.Emergency.Isolation

/-!
# Emergency mode and the primary key

In a run of routed unlocks and emergency operations, a decoy role comes with
the decoy key.  The emergency mode keeps the primary key out of the session as
long as nothing pins the mode over an installed primary key, and no unlock that
was routed to the primary vault goes on in emergency mode.
-/

namespace VaultCore

/-- A decoy that has envelopes of its own, which hold the decoy key. -/
structure OwnDecoy (platform : Platform) (record : VaultSetupWithDecoy)
    (decoy : VaultDecoyRecord) (decoyMaterial : AesKeyMaterial) : Prop where
  configured : record.decoy = some decoy
  password : HoldsByPassword platform decoy.passwordEnvelope decoyMaterial
  passkey : ∃ envelope, decoy.passkeyPrfEnvelope = some envelope ∧
    HoldsByPasskey platform envelope decoyMaterial

/-- The operations of the run: routed unlocks of the record and the operations
on the mode and the owner. -/
def Participates (platform : Platform) (record : VaultSetupWithDecoy)
    (decoyMaterial : AesKeyMaterial) : SessionCall → Prop
  | .unlockVaultWithPasswordRouting input => input.record = record
  | .unlockVaultWithPasskeyRouting input => input.record = record
  | .unlockVaultWithPasskeyCandidateRouting input =>
      input.record = record ∧ ∀ candidates,
        input.decoyCandidates = some candidates →
          HoldByCandidates platform candidates decoyMaterial
  | .hydrateVaultEmergencyModeFromServer _ _ => True
  | .enterVaultEmergencyMode _ => True
  | .exitEmergencyMode _ => True
  | .lockVaultSession => True
  | .beginVaultSessionUnlock _ => True
  | .clearVaultSessionOwner => True
  | _ => False

section

variable {platform : Platform} {record : VaultSetupWithDecoy}
  {decoy : VaultDecoyRecord} {decoyMaterial : AesKeyMaterial}
  {core finish : SessionCore} {vaultKey : CryptoKey}

/-- A participating call installs in the decoy role the decoy key only, and in
the primary role only where it began outside emergency mode. -/
theorem Participates.installs {call : SessionCall}
    (own : OwnDecoy platform record decoy decoyMaterial)
    (participates : Participates platform record decoyMaterial call)
    {origin : SessionState} {role : VaultSessionKeyRole}
    (installs : call.installs platform origin.toSessionCore vaultKey role) :
    (role = .decoy → vaultKey.material = decoyMaterial) ∧
      (role = .primary → origin.isVaultEmergencyMode = false) := by
  obtain ⟨passkeyEnvelope, passkey, passkeyHolds⟩ := own.passkey
  have decoyHolds : ∀ unlock : RoutedUnlock, unlock.record = record →
      (∀ input candidates, unlock = .candidate input →
        input.decoyCandidates = some candidates →
          HoldByCandidates platform candidates decoyMaterial) →
      unlock.call.installs platform origin.toSessionCore vaultKey .decoy →
        vaultKey.material = decoyMaterial := by
    intro unlock same candidates decoyInstalls
    have holds : DecoyHolds platform unlock decoy decoyMaterial :=
      { configured := by rw [same]; exact own.configured
        decoyPassword := own.password
        decoyPasskey := by
          intro envelope other
          rw [passkey] at other
          cases other
          exact passkeyHolds
        decoyCandidates := candidates }
    apply decoy_installs holds _ decoyInstalls
    intro fallback
    cases unlock with
    | password input => exact fallback
    | candidate input => exact fallback
    | passkey input =>
        rw [fallback.2] at passkey
        cases passkey
  cases call with
  | unlockVaultWithPasswordRouting input =>
      refine ⟨?_, ?_⟩
      · rintro rfl
        exact decoyHolds (.password input) participates
          (fun _ _ impossible => by cases impossible) installs
      · rintro rfl
        have target : (RoutedUnlock.password input).target
            origin.toSessionCore = .primary := installs.1.symm
        exact RoutedUnlock.target_primary target
  | unlockVaultWithPasskeyRouting input =>
      refine ⟨?_, ?_⟩
      · rintro rfl
        exact decoyHolds (.passkey input) participates
          (fun _ _ impossible => by cases impossible) installs
      · rintro rfl
        have target : (RoutedUnlock.passkey input).target
            origin.toSessionCore = .primary := installs.1.symm
        exact RoutedUnlock.target_primary target
  | unlockVaultWithPasskeyCandidateRouting input =>
      refine ⟨?_, ?_⟩
      · rintro rfl
        apply decoyHolds (.candidate input) participates.1 _ installs
        intro other candidates same given
        cases same
        exact participates.2 candidates given
      · rintro rfl
        have target : (RoutedUnlock.candidate input).target
            origin.toSessionCore = .primary := installs.1.symm
        exact RoutedUnlock.target_primary target
  | unlockVaultSession vaultKey role operation => exact participates.elim
  | _ => exact installs.elim

/-- In the decoy role the key is the decoy's; in any other role the mode is
normal. -/
structure KeyMatchesMode (decoyMaterial : AesKeyMaterial)
    (core : SessionCore) : Prop where
  decoyRole : core.sessionKeyRole = some .decoy → ∀ vaultKey,
    core.sessionVaultKey = some vaultKey → vaultKey.material = decoyMaterial
  otherRole : core.sessionKeyRole ≠ some .decoy →
    core.sessionVaultKey.isSome = true →
      core.emergencyModePinned = false ∧ core.sessionMode = .normal

theorem KeyMatchesMode.of_empty (empty : core.sessionVaultKey = none) :
    KeyMatchesMode decoyMaterial core where
  decoyRole := by
    intro _ vaultKey holds
    rw [empty] at holds
    cases holds
  otherRole := by
    intro _ holds
    rw [empty] at holds
    cases holds

theorem KeyMatchesMode.in_emergency
    (matching : KeyMatchesMode decoyMaterial core)
    (emergency : core.isVaultEmergencyMode = true)
    (held : core.sessionVaultKey = some vaultKey) :
    vaultKey.material = decoyMaterial := by
  by_cases role : core.sessionKeyRole = some .decoy
  · exact matching.decoyRole role vaultKey held
  · obtain ⟨unpinned, mode⟩ := matching.otherRole role (by rw [held]; rfl)
    simp [SessionCore.isVaultEmergencyMode, SessionCore.getVaultSessionMode,
      role, unpinned, mode] at emergency

/-- One effect preserves the relation when it pins no mode over a primary key
and installs no primary key in emergency mode. -/
theorem KeyMatchesMode.step {token : Option VaultSessionOperation}
    {powers : SessionPowers}
    (matching : KeyMatchesMode decoyMaterial core)
    (effect : SessionEffect token powers core finish)
    (decoyInstalls : ∀ vaultKey, powers.installs vaultKey .decoy →
      vaultKey.material = decoyMaterial)
    (primaryInstalls : ∀ vaultKey, powers.installs vaultKey .primary →
      core.mutationAllowed token = .ok () → core.isVaultEmergencyMode = false)
    (pins : powers.pins → core.mutationAllowed token = .ok () →
      core.sessionVaultKey.isSome = true →
        core.sessionKeyRole = some .decoy) :
    KeyMatchesMode decoyMaterial finish := by
  cases effect with
  | unchanged => exact matching
  | locked => exact .of_empty rfl
  | deleted => exact .of_empty rfl
  | reset => exact ⟨matching.decoyRole, matching.otherRole⟩
  | disowned => exact .of_empty rfl
  | begun ownerId sameOwner clean =>
      exact ⟨matching.decoyRole, matching.otherRole⟩
  | purged ownerId => exact .of_empty rfl
  | installed vaultKey role allowed nonExtractable may =>
      obtain ⟨committed, fields, -⟩ :=
        SessionCore.installed_of_allowed allowed vaultKey role
      cases role with
      | decoy =>
          refine ⟨?_, ?_⟩
          · intro _ installedKey held
            rw [fields.vaultKey] at held
            cases held
            exact decoyInstalls vaultKey may
          · intro other
            exact absurd fields.role other
      | primary =>
          have normal := primaryInstalls vaultKey may allowed
          obtain ⟨unpinned, mode⟩ :=
            SessionCore.isVaultEmergencyMode_false normal
          refine ⟨?_, ?_⟩
          · intro role
            rw [fields.role] at role
            cases role
          · intro _ _
            rw [fields.pin, fields.mode, unpinned, mode]
            exact ⟨rfl, rfl⟩
  | cached entry allowed => exact ⟨matching.decoyRole, matching.otherRole⟩
  | uncached allowed => exact ⟨matching.decoyRole, matching.otherRole⟩
  | pinned allowed may =>
      refine ⟨matching.decoyRole, ?_⟩
      intro other held
      exact absurd (pins may allowed held) other
  | unpinned allowed =>
      refine ⟨matching.decoyRole, ?_⟩
      intro _ _
      exact ⟨rfl, rfl⟩
  | exited allowed => exact .of_empty rfl

end

section Runs

variable (platform : Platform)

/-- The step does not pin the emergency mode over an installed primary key, and
does not go on, in emergency mode, with an unlock that was routed to the
primary vault and opens it. -/
structure OrderlyStep (pool : Pool SessionCall SessionState VaultError
      SessionValue) (origins : List SessionState) (event : SessionStep) :
    Prop where
  pins : ∀ call, pool.actor event = some call → call.pins = true →
    pool.state.mutationAllowed call.token = .ok () →
      pool.state.sessionVaultKey.isSome = true →
        pool.state.sessionKeyRole = some .decoy
  resumes : ∀ task call program origin vaultKey, event = .resume task →
    pool.tasks[task]? = some (call, program) →
    origins[task]? = some origin →
    call.installs platform origin.toSessionCore vaultKey .primary →
    pool.state.mutationAllowed call.token = .ok () →
      pool.state.isVaultEmergencyMode = false

/-- A run each of whose steps is orderly in the state it acts on. -/
inductive OrderlyRun (initial : SessionState) : List SessionStep → Prop where
  | nil : OrderlyRun initial []
  | snoc {events : List SessionStep} (event : SessionStep) :
      OrderlyRun initial events →
      OrderlyStep platform
        ((sessionMachine platform).run (Pool.initial initial) events)
        ((sessionMachine platform).origins (Pool.initial initial) events)
        event →
      OrderlyRun initial (events ++ [event])

end Runs

section Exclusion

variable {platform : Platform} {record : VaultSetupWithDecoy}
  {decoy : VaultDecoyRecord} {decoyMaterial : AesKeyMaterial}
  {initial : SessionState}

/-- An orderly step of participating calls keeps the key in step with the
mode. -/
theorem OrderlyStep.preserves {events : List SessionStep}
    {event : SessionStep}
    (own : OwnDecoy platform record decoy decoyMaterial)
    (participate : ∀ call, PoolEvent.start call ∈ events ++ [event] →
      Participates platform record decoyMaterial call)
    (orderly : OrderlyStep platform
      ((sessionMachine platform).run (Pool.initial initial) events)
      ((sessionMachine platform).origins (Pool.initial initial) events) event)
    (matching : KeyMatchesMode decoyMaterial
      ((sessionMachine platform).run (Pool.initial initial)
        events).state.toSessionCore) :
    KeyMatchesMode decoyMaterial
      ((sessionMachine platform).run (Pool.initial initial)
        (events ++ [event])).state.toSessionCore := by
  rw [(sessionMachine platform).run_append, Machine.run_cons, Machine.run_nil]
  have participating : ∀ task ∈ ((sessionMachine platform).run
      (Pool.initial initial) events).tasks,
      Participates platform record decoyMaterial task.1 := by
    refine @Machine.started_of_mem_tasks _ _ _ _ _ (sessionMachine platform) _
      _ (Participates platform record decoyMaterial) ?_ ?_
    · intro task impossible
      cases impossible
    · intro call started
      exact participate call (List.mem_append_left _ started)
  have initially : (sessionDiscipline platform).invariant initial := trivial
  have transition :=
    (sessionDiscipline platform).run_transition initially events event
  set pool := (sessionMachine platform).run (Pool.initial initial) events
  set finish := ((sessionMachine platform).step pool event).state
  cases event with
  | start call =>
      have participates := participate call (by simp)
      apply matching.step transition
      · intro vaultKey installs
        exact (participates.installs own installs).1 rfl
      · intro vaultKey installs _
        exact (participates.installs own installs).2 rfl
      · exact orderly.pins call rfl
  | resume task =>
      simp only [Machine.Discipline.Transition] at transition
      split at transition
      · rename_i call program origin found begun
        have participates : Participates platform record decoyMaterial call :=
          participating _ (List.mem_of_getElem? found)
        apply matching.step transition
        · intro vaultKey installs
          exact (participates.installs own installs).1 rfl
        · intro vaultKey installs
          exact orderly.resumes task call program origin vaultKey rfl found
            begun installs
        · refine orderly.pins call ?_
          simp only [Pool.actor, found, Option.map_some]
      · rw [transition]
        exact matching
  | environment occurrence =>
      rcases transition with same | locked
      · rw [same]
        exact matching
      · rw [locked]
        exact .of_empty rfl

/-- In every orderly run from a locked session, the emergency mode holds the
decoy key or no key. -/
theorem emergency_excludes_primary_key {events : List SessionStep}
    (own : OwnDecoy platform record decoy decoyMaterial)
    (locked : initial.sessionVaultKey = none)
    (participate : ∀ call, PoolEvent.start call ∈ events →
      Participates platform record decoyMaterial call)
    (orderly : OrderlyRun platform initial events) :
    let final := ((sessionMachine platform).run (Pool.initial initial)
      events).state
    final.isVaultEmergencyMode = true → ∀ vaultKey,
      final.sessionVaultKey = some vaultKey →
        vaultKey.material = decoyMaterial := by
  suffices matching : KeyMatchesMode decoyMaterial ((sessionMachine
      platform).run (Pool.initial initial) events).state.toSessionCore by
    intro final emergency vaultKey held
    exact matching.in_emergency emergency held
  induction orderly with
  | nil => exact .of_empty locked
  | snoc event earlier step ih =>
      apply step.preserves own participate
      apply ih
      intro call started
      exact participate call (List.mem_append_left _ started)

end Exclusion

/-- A password unlock whose envelope opens suspends before it installs the
key. -/
theorem step_passwordUnlock {platform : Platform} {session : SessionState}
    {input : EmergencyUnlockPasswordInput} {envelope : PasswordEnvelope}
    {vaultKey : CryptoKey} {target : VaultUnlockTarget}
    (allowed : session.mutationAllowed input.operation = .ok ())
    (targeted : input.target session.toSessionCore = target)
    (selected : selectPasswordEnvelope input.record target = .ok envelope)
    (opened : unlockWithPasswordEnvelope platform input.password envelope
      input.scope input.profile = .ok vaultKey)
    (tasks : List (SessionCall × SessionAsync SessionValue)) :
    (sessionMachine platform).step { state := session, tasks }
        (.start (.unlockVaultWithPasswordRouting input)) =
      { state := session
        tasks := tasks ++ [(.unlockVaultWithPasswordRouting input,
          .pause (asynchronousCall .vaultKey (Async.await (finalizeUnlock
            vaultKey target (target == .decoy) input.onEmergencyEntered
            input.operation))))] } := by
  simp only [Machine.step, sessionMachine, sessionProgram, asynchronousCall,
    unlockVaultWithPasswordRouting, Async.lift, Async.bind_sync,
    Async.runSegment, assertVaultSessionMutationAllowed, allowed,
    Async.bind_done_ok, Sync.get_apply, Sync.ofExcept_apply, targeted,
    selected, opened, Async.awaitOutcome, Async.bind_pause]

theorem OrderlyStep.of_start {platform : Platform} {call : SessionCall}
    {pool : Pool SessionCall SessionState VaultError SessionValue}
    {origins : List SessionState}
    (pins : call.pins = true → pool.state.sessionVaultKey = none) :
    OrderlyStep platform pool origins (.start call) where
  pins := by
    intro other same pinning _ held
    cases same
    rw [pins pinning] at held
    cases held
  resumes := by
    intro task other program origin vaultKey impossible
    cases impossible

theorem OrderlyStep.of_resume {platform : Platform} {call : SessionCall}
    {pool : Pool SessionCall SessionState VaultError SessionValue}
    {origins : List SessionState} {origin : SessionState} {task : Nat}
    (calls : pool.actor (PoolEvent.resume task : SessionStep) = some call)
    (began : origins[task]? = some origin) (noPins : call.pins = false)
    (noPrimary : ∀ vaultKey,
      ¬ call.installs platform origin.toSessionCore vaultKey .primary) :
    OrderlyStep platform pool origins (.resume task) where
  pins := by
    intro other same pinning
    rw [calls] at same
    cases same
    rw [noPins] at pinning
    cases pinning
  resumes := by
    intro other resumed program started vaultKey same found origin_found
      installs
    cases same
    rw [Pool.actor, found] at calls
    cases calls
    rw [began] at origin_found
    cases origin_found
    exact absurd installs (noPrimary vaultKey)

namespace Reference

/-- A decoy with envelopes of its own. -/
def ownDecoy : VaultDecoyRecord :=
  decoyRecord (some (passkeyEnvelope emergencyLedger decoyPrf decoyMaterial))

def ownDecoyRecord : VaultSetupWithDecoy :=
  emergencyRecord
    (some (passkeyEnvelope emergencyLedger decoyPrf decoyMaterial))

theorem ownDecoy_own :
    OwnDecoy emergencyPlatform ownDecoyRecord ownDecoy decoyMaterial where
  configured := rfl
  password := passwordEnvelope_holds length_decoyMaterial
  passkey := ⟨_, rfl, passkeyEnvelope_holds length_decoyMaterial⟩

def passwordUnlock (password : JsString)
    (operation : Option VaultSessionOperation) :
    EmergencyUnlockPasswordInput :=
  { record := ownDecoyRecord
    password
    duressSequence := none
    emergencyModeActive := false
    scope := referenceScope
    profile := referenceProfile
    onEmergencyEntered := none
    operation }

def pinnedState : SessionState := (enterVaultEmergencyMode none {}).2

/-- The mode is pinned before the unlock, which is then routed to the
decoy. -/
def pinnedUnlock : List SessionStep :=
  [.start (.enterVaultEmergencyMode none),
    .start (.unlockVaultWithPasswordRouting
      (passwordUnlock duressSecret none)),
    .resume 1, .resume 1]

theorem pinnedUnlock_orderly :
    OrderlyRun emergencyPlatform {} pinnedUnlock := by
  have noPrimary : ∀ vaultKey, ¬ SessionCall.installs emergencyPlatform
      (.unlockVaultWithPasswordRouting (passwordUnlock duressSecret none))
      pinnedState.toSessionCore vaultKey .primary := by
    intro vaultKey installs
    cases installs.1
  have first : OrderlyRun emergencyPlatform {} (pinnedUnlock.take 1) :=
    @OrderlyRun.snoc _ _ [] _ .nil (.of_start fun _ => rfl)
  have second : OrderlyRun emergencyPlatform {} (pinnedUnlock.take 2) :=
    .snoc _ first (.of_start fun impossible => by cases impossible)
  have third : OrderlyRun emergencyPlatform {} (pinnedUnlock.take 3) :=
    .snoc _ second (.of_resume rfl rfl rfl noPrimary)
  exact .snoc _ third (.of_resume rfl rfl rfl noPrimary)

theorem pinnedUnlock_participates (call : SessionCall)
    (started : PoolEvent.start call ∈ pinnedUnlock) :
    Participates emergencyPlatform ownDecoyRecord decoyMaterial call := by
  simp only [pinnedUnlock, List.mem_cons, PoolEvent.start.injEq, reduceCtorEq,
    List.not_mem_nil, or_false] at started
  rcases started with rfl | rfl
  · trivial
  · exact rfl

def aliceToken : VaultSessionOperation := { id := 0 }

def aliceSession : SessionState :=
  (beginVaultSessionUnlock (js "alice") {}).2

/-- The mode is pinned while the key of a primary unlock is derived. -/
def overtakenUnlock : List SessionStep :=
  [.start (.beginVaultSessionUnlock (js "alice")),
    .start (.unlockVaultWithPasswordRouting
      (passwordUnlock unlockSecret (some aliceToken))),
    .start (.hydrateVaultEmergencyModeFromServer true (some aliceToken)),
    .resume 1, .resume 1]

theorem overtakenUnlock_participates (call : SessionCall)
    (started : PoolEvent.start call ∈ overtakenUnlock) :
    Participates emergencyPlatform ownDecoyRecord decoyMaterial call := by
  simp only [overtakenUnlock, List.mem_cons, PoolEvent.start.injEq,
    reduceCtorEq, List.not_mem_nil, or_false] at started
  rcases started with rfl | rfl | rfl
  · trivial
  · exact rfl
  · trivial

end Reference

/-- A primary unlock overtaken by the pin installs the primary key in
emergency mode. -/
theorem overtaken_unlock_installs_primary :
    let final := ((sessionMachine Reference.emergencyPlatform).run
      (Pool.initial {}) Reference.overtakenUnlock).state
    OwnDecoy Reference.emergencyPlatform Reference.ownDecoyRecord
      Reference.ownDecoy Reference.decoyMaterial ∧
    (∀ call, PoolEvent.start call ∈ Reference.overtakenUnlock →
      Participates Reference.emergencyPlatform Reference.ownDecoyRecord
        Reference.decoyMaterial call) ∧
    final.isVaultEmergencyMode = true ∧
    ∃ vaultKey, final.sessionVaultKey = some vaultKey ∧
      vaultKey.material = Reference.primaryMaterial ∧
      vaultKey.material ≠ Reference.decoyMaterial := by
  intro final
  refine ⟨Reference.ownDecoy_own, Reference.overtakenUnlock_participates, ?_⟩
  have opened : unlockWithPasswordEnvelope Reference.emergencyPlatform
      Reference.unlockSecret Reference.ownDecoyRecord.passwordEnvelope
      referenceScope referenceProfile =
        .ok (Reference.openedKey Reference.primaryMaterial) :=
    Reference.unlock_passwordEnvelope Reference.length_primaryMaterial
      Reference.unlockSecret
  have second := @step_passwordUnlock Reference.emergencyPlatform
    Reference.aliceSession (Reference.passwordUnlock Reference.unlockSecret
      (some Reference.aliceToken)) Reference.ownDecoyRecord.passwordEnvelope
    (Reference.openedKey Reference.primaryMaterial) .primary (by rfl) (by rfl)
    (by rfl) opened
  have first : (sessionMachine Reference.emergencyPlatform).step
      (Pool.initial {}) (.start (.beginVaultSessionUnlock (js "alice"))) =
        { state := Reference.aliceSession
          tasks := [(.beginVaultSessionUnlock (js "alice"),
            .done (.ok (.operation Reference.aliceToken)))] } := rfl
  simp only [final, Reference.overtakenUnlock, Machine.run_cons,
    Machine.run_nil]
  rw [first, second]
  exact ⟨rfl, _, rfl, rfl, Reference.decoyMaterial_ne.symm⟩

namespace Reference

private theorem pinnedUnlock_final :
    ((sessionMachine emergencyPlatform).run (Pool.initial {})
        pinnedUnlock).state.isVaultEmergencyMode = true ∧
      ((sessionMachine emergencyPlatform).run (Pool.initial {})
        pinnedUnlock).state.sessionVaultKey =
          some (openedKey decoyMaterial) := by
  have opened : unlockWithPasswordEnvelope emergencyPlatform duressSecret
      ownDecoy.passwordEnvelope referenceScope referenceProfile =
        .ok (openedKey decoyMaterial) :=
    unlock_passwordEnvelope length_decoyMaterial duressSecret
  have second := @step_passwordUnlock emergencyPlatform pinnedState
    (passwordUnlock duressSecret none) ownDecoy.passwordEnvelope
    (openedKey decoyMaterial) .decoy (by rfl) (by rfl) (by rfl) opened
  have first : (sessionMachine emergencyPlatform).step (Pool.initial {})
      (.start (.enterVaultEmergencyMode none)) =
        { state := pinnedState
          tasks := [(.enterVaultEmergencyMode none, .done (.ok .unit))] } :=
    rfl
  simp only [pinnedUnlock, Machine.run_cons, Machine.run_nil]
  rw [first, second]
  exact ⟨rfl, rfl⟩

end Reference

/-- With the mode pinned first, the duress password installs the decoy key. -/
theorem emergency_excludes_primary_key_pinned :
    ∃ vaultKey, ((sessionMachine Reference.emergencyPlatform).run
        (Pool.initial {}) Reference.pinnedUnlock).state.sessionVaultKey =
          some vaultKey ∧
      vaultKey.material = Reference.decoyMaterial := by
  obtain ⟨emergency, held⟩ := Reference.pinnedUnlock_final
  have exclusive := emergency_excludes_primary_key Reference.ownDecoy_own rfl
    Reference.pinnedUnlock_participates Reference.pinnedUnlock_orderly
  exact ⟨_, held, exclusive emergency _ held⟩

end VaultCore
