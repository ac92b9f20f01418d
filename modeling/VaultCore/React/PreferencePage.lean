import VaultCore.React.PreferenceHook
import Mathlib.Tactic.Linarith

/-!
# The minutes that are shown

Whatever a user, the session and other tabs do in between: once the effects of
a page have run, the minutes it shows are those the session locks after, and a
choice is found again by the next page.
-/

namespace VaultCore

/-! ## The session by itself -/

section Session

variable {platform : Platform}

/-- The environment without the configuration of the session. -/
def quietEnvironment : SessionEvent → SessionState → SessionState
  | .configureVaultSession _, state => state
  | event, state => sessionEnvironment event state

theorem quietEnvironment_sameConfig (event : SessionEvent)
    (state : SessionState) : SameConfig state (quietEnvironment event state) := by
  cases event with
  | timerFires handle =>
      simp only [quietEnvironment, sessionEnvironment]
      cases state.timeouts.fire state.now handle with
      | none => exact rfl
      | some timeouts =>
          exact keepsConfig_lockVaultSession { state with timeouts }
  | _ => exact rfl

def quietMachine (platform : Platform) :
    Machine SessionCall SessionEvent SessionState VaultError SessionValue where
  program := sessionProgram platform
  environment := quietEnvironment

theorem quietMachine_conduct : (quietMachine platform).Conduct SameConfig where
  programs := sessionProgram_leavesConfig platform
  environment := quietEnvironment_sameConfig

/-- A step that does not configure the session. -/
def SessionQuiet : SessionStep → Prop
  | .environment (.configureVaultSession _) => False
  | _ => True

theorem step_quiet {event : SessionStep} (quiet : SessionQuiet event)
    (pool : SessionPool) :
    (sessionMachine platform).step pool event =
      (quietMachine platform).step pool event := by
  cases event with
  | start call => rfl
  | resume task => rfl
  | environment event =>
      cases event with
      | configureVaultSession config => exact quiet.elim
      | _ => rfl

end Session

/-! ## The minutes of a configuration -/

/-- Minutes that an administrator may have resolved. -/
structure ProperMinutes (minutes : ℚ) : Prop where
  whole : IsWhole minutes
  least : 1 ≤ minutes
  most : minutes ≤ maxVaultAutoLockMinutes

section Minutes

variable {admin : ℚ}

theorem clampVaultAutoLockMinutes_isWhole (minutes : ConfiguredNumber)
    {min max : ℚ} (minWhole : IsWhole min) (maxWhole : IsWhole max) :
    IsWhole (clampVaultAutoLockMinutes minutes min max) := by
  cases minutes with
  | notFinite => exact minWhole
  | finite value =>
      simp only [clampVaultAutoLockMinutes]
      have rounded : IsWhole (roundHalfUp value) := ⟨_, rfl⟩
      split_ifs <;> assumption

theorem clampVaultAutoLockMinutes_self {minutes min max : ℚ}
    (whole : IsWhole minutes) (least : min ≤ minutes)
    (most : minutes ≤ max) :
    clampVaultAutoLockMinutes (.finite minutes) min max = minutes := by
  obtain ⟨integer, rfl⟩ := whole
  rw [clampVaultAutoLockMinutes_whole]
  exact clamped_of_between least (most.trans (le_max_right _ _))

theorem positiveMinutes_of_one_le {minutes : ℚ} (least : 1 ≤ minutes) :
    positiveMinutes (.finite minutes) = .finite minutes := by
  rw [positiveMinutes, if_pos (by linarith)]

/-- The minutes that are shown for a choice. -/
def shownMinutes (admin : ℚ) (user : Option JsNumber) : ℚ :=
  resolveVaultAutoLockMinutesPreference
    { userMinutes := user.map JsNumber.configured
      adminMinutes := some admin }

theorem shownMinutes_eq (proper : ProperMinutes admin)
    (user : Option JsNumber) :
    shownMinutes admin user =
      (user.map fun minutes =>
        clampVaultAutoLockMinutes minutes.configured
          vaultUserAutoLockMinMinutes admin).getD admin := by
  have least : vaultUserAutoLockMinMinutes ≤ admin := proper.least
  cases user with
  | none => exact clampVaultAutoLockMinutes_self proper.whole least le_rfl
  | some minutes =>
      simp only [shownMinutes, resolveVaultAutoLockMinutesPreference,
        ResolveVaultAutoLockMinutesOptions.min, Option.getD_some,
        Option.getD_none, Option.map_some, max_eq_right least]

theorem shownMinutes_proper (proper : ProperMinutes admin)
    (user : Option JsNumber) :
    IsWhole (shownMinutes admin user) ∧ 1 ≤ shownMinutes admin user ∧
      shownMinutes admin user ≤ admin := by
  rw [shownMinutes_eq proper]
  cases user with
  | none => exact ⟨proper.whole, proper.least, le_rfl⟩
  | some minutes =>
      refine ⟨?_, ?_, ?_⟩
      · exact clampVaultAutoLockMinutes_isWhole minutes.configured ⟨1, rfl⟩ proper.whole
      · exact min_le_clampVaultAutoLockMinutes minutes.configured _ admin
      · exact clampVaultAutoLockMinutes_le_max minutes.configured proper.least

/-- The session locks after the minutes that are shown. -/
theorem getVaultAutoLockMinutes_preferenceConfig
    (proper : ProperMinutes admin) (user : Option JsNumber) :
    getVaultAutoLockMinutes (preferenceConfig admin user) =
      .ok (shownMinutes admin user) := by
  obtain ⟨whole, least, most⟩ := shownMinutes_proper proper user
  have preferred : ((user.map fun minutes => ConfiguredNumber.finite
      (clampVaultAutoLockMinutes minutes.configured
        vaultUserAutoLockMinMinutes admin)).getD (.finite admin)) =
      .finite (shownMinutes admin user) := by
    rw [shownMinutes_eq proper]
    cases user <;> rfl
  have ceiling : clampVaultAutoLockMinutes (positiveMinutes (.finite admin))
      vaultUserAutoLockMinMinutes maxVaultAutoLockMinutes = admin := by
    rw [positiveMinutes_of_one_le proper.least]
    exact clampVaultAutoLockMinutes_self proper.whole proper.least proper.most
  have minutes : clampVaultAutoLockMinutes
      (positiveMinutes (.finite (shownMinutes admin user)))
      vaultUserAutoLockMinMinutes admin = shownMinutes admin user := by
    rw [positiveMinutes_of_one_le least]
    exact clampVaultAutoLockMinutes_self whole least most
  change Except.ok (clampVaultAutoLockMinutes (positiveMinutes
    ((user.map fun minutes => ConfiguredNumber.finite
      (clampVaultAutoLockMinutes minutes.configured
        vaultUserAutoLockMinMinutes admin)).getD (.finite admin))) vaultUserAutoLockMinMinutes
    (clampVaultAutoLockMinutes (positiveMinutes (.finite admin))
      vaultUserAutoLockMinMinutes maxVaultAutoLockMinutes)) = _
  rw [preferred, ceiling, minutes]

end Minutes

/-! ## What holds of a page -/

/-- The minutes of the administrator are proper, and nobody else configures
the session. -/
def PreferenceEvent.Proper : PreferenceEvent → Prop
  | mount props => ProperMinutes props.adminResolvedMinutes
  | rerender props => ProperMinutes props.adminResolvedMinutes
  | session event => SessionQuiet event
  | _ => True

/-- What the hook last applied, unless the session refused it. -/
structure PreferenceHolds (page : PreferencePage) : Prop where
  tasks : ∀ task ∈ page.pool.tasks, LeavesConfig task.2
  proper : ∀ hook, page.hook = some hook →
    ProperMinutes hook.props.adminResolvedMinutes
  applied : ∀ hook deps, page.hook = some hook →
    hook.appliedWith = some deps → hook.refused = false →
    page.pool.state.sessionConfig =
      preferenceConfig deps.adminResolvedMinutes deps.userMinutes

section Apply

variable {state : SessionState} {admin : ℚ} {user : Option JsNumber}
  {lease : Option (Option VaultSessionLease)}

theorem applySessionAutoLock_refused
    (refused : refusesPreference state.toSessionCore lease = true) :
    applySessionAutoLock admin user lease state = (.ok (), state) := by
  simp only [applySessionAutoLock, Sync.bind_apply, Sync.get_apply, refused,
    ↓reduceIte]
  rfl

theorem applySessionAutoLock_applied
    (goes : refusesPreference state.toSessionCore lease = false) :
    (applySessionAutoLock admin user lease state).2.sessionConfig =
      preferenceConfig admin user := by
  simp only [applySessionAutoLock, Sync.bind_apply, Sync.get_apply, goes,
    Bool.false_eq_true, ↓reduceIte, Sync.modify_apply]
  cases lease with
  | none => exact keepsConfig_schedule none _
  | some given =>
      cases given with
      | none => rfl
      | some lease => exact keepsConfig_schedule (some lease) _

end Apply

namespace PreferenceHolds

variable {platform : Platform} {page : PreferencePage}

theorem initial (session : SessionState) (storage : PageStorage) :
    PreferenceHolds { pool := Pool.initial session, storage } where
  tasks := by
    intro task impossible
    cases impossible
  proper := by
    intro hook impossible
    cases impossible
  applied := by
    intro hook deps impossible
    cases impossible

/-- Another hook that has applied the same. -/
theorem of_hook {hook earlier : AutoLockPreferenceHook}
    (holds : PreferenceHolds page) (here : page.hook = some earlier)
    (storage : PageStorage)
    (proper : ProperMinutes hook.props.adminResolvedMinutes)
    (applied : hook.appliedWith = earlier.appliedWith)
    (refused : hook.refused = earlier.refused) :
    PreferenceHolds { page with storage, hook := some hook } where
  tasks := holds.tasks
  proper := by
    intro found same
    rw [← Option.some.inj same]
    exact proper
  applied := by
    intro found deps same ran goes
    rw [← Option.some.inj same] at ran goes
    rw [applied] at ran
    rw [refused] at goes
    exact holds.applied earlier deps here ran goes

theorem apply {hook rendered : AutoLockPreferenceHook}
    (holds : PreferenceHolds page) (here : page.hook = some rendered)
    (props : hook.props = rendered.props)
    (applied : hook.appliedWith = rendered.appliedWith)
    (refused : hook.refused = rendered.refused) :
    PreferenceHolds (page.apply hook rendered) := by
  have proper := holds.proper rendered here
  rw [← props] at proper
  unfold PreferencePage.apply
  dsimp only
  by_cases same : rendered.appliedWith = some rendered.dependencies
  · rw [if_pos same]
    exact holds.of_hook here page.storage proper applied refused
  · rw [if_neg same]
    refine ⟨holds.tasks, ?_, ?_⟩
    · intro after found
      obtain ⟨_, -, rfl⟩ := Option.map_eq_some_iff.mp found
      exact proper
    · intro after deps found ran goes
      obtain ⟨_, -, rfl⟩ := Option.map_eq_some_iff.mp found
      obtain rfl := Option.some.inj ran
      exact applySessionAutoLock_applied goes

theorem hydrate_keeps (hook : AutoLockPreferenceHook) (storage : PageStorage) :
    (hook.hydrate storage).props = hook.props ∧
      (hook.hydrate storage).appliedWith = hook.appliedWith ∧
      (hook.hydrate storage).refused = hook.refused := by
  unfold AutoLockPreferenceHook.hydrate
  split_ifs
  · exact ⟨rfl, rfl, rfl⟩
  · exact ⟨rfl, rfl, rfl⟩

theorem step (holds : PreferenceHolds page) {event : PreferenceEvent}
    (proper : event.Proper) : PreferenceHolds (page.step platform event) := by
  cases event with
  | mount props =>
      refine ⟨holds.tasks, ?_, ?_⟩
      · intro hook same
        rw [← Option.some.inj same]
        exact proper
      · intro hook deps same ran
        rw [← Option.some.inj same] at ran
        cases ran
  | rerender props =>
      refine ⟨holds.tasks, ?_, ?_⟩
      · intro hook found
        obtain ⟨earlier, here, rfl⟩ := Option.map_eq_some_iff.mp found
        exact proper
      · intro hook deps found ran goes
        obtain ⟨earlier, here, rfl⟩ := Option.map_eq_some_iff.mp found
        exact holds.applied earlier deps here ran goes
  | unmount =>
      refine ⟨holds.tasks, ?_, ?_⟩
      · intro hook impossible
        cases impossible
      · intro hook deps impossible
        cases impossible
  | setMinutes next =>
      cases here : page.hook with
      | none =>
          simp only [PreferencePage.step, here]
          exact holds
      | some hook =>
          simp only [PreferencePage.step, here]
          exact holds.of_hook here _ (holds.proper hook here) rfl rfl
  | resetToAdminDefault =>
      cases here : page.hook with
      | none =>
          simp only [PreferencePage.step, here]
          exact holds
      | some hook =>
          simp only [PreferencePage.step, here]
          exact holds.of_hook here _ (holds.proper hook here) rfl rfl
  | effects =>
      cases here : page.hook with
      | none =>
          simp only [PreferencePage.step, here]
          exact holds
      | some hook =>
          simp only [PreferencePage.step, here]
          obtain ⟨props, applied, refused⟩ := hydrate_keeps hook page.storage
          exact holds.apply here props applied refused
  | storage storage => exact ⟨holds.tasks, holds.proper, holds.applied⟩
  | session event =>
      have stepped := (@quietMachine_conduct platform).step holds.tasks event
      rw [← step_quiet proper] at stepped
      refine ⟨stepped.2, holds.proper, ?_⟩
      intro hook deps found ran goes
      exact stepped.1.trans (holds.applied hook deps found ran goes)

theorem run (holds : PreferenceHolds page) {events : List PreferenceEvent}
    (proper : ∀ event ∈ events, event.Proper) :
    PreferenceHolds (page.run platform events) := by
  induction events generalizing page with
  | nil => exact holds
  | cons event events ih =>
      apply ih (holds.step (proper event List.mem_cons_self))
      intro other member
      exact proper other (List.mem_cons_of_mem _ member)

end PreferenceHolds

/-! ## The minutes of the session -/

section Enforced

variable {platform : Platform} {page : PreferencePage}
  {hook : AutoLockPreferenceHook}

/-- An application that the session does not refuse arms its timer. -/
theorem applySessionAutoLock_arms {state : SessionState} {admin : ℚ}
    {user : Option JsNumber}
    {lease : Option (Option VaultSessionLease)}
    (proper : ProperMinutes admin) (scheduled : lease ≠ some none)
    (goes : refusesPreference state.toSessionCore lease = false)
    (accepted : state.acceptsTouch lease.join = true) :
    (applySessionAutoLock admin user lease state).2.autoLockDeadline =
      some (state.now + shownMinutes admin user * 60 * 1000) := by
  have resolved : getAutoLockTimeoutMs (preferenceConfig admin user) =
      .ok (shownMinutes admin user * 60 * 1000) := by
    rw [getAutoLockTimeoutMs,
      getVaultAutoLockMinutes_preferenceConfig proper]
    rfl
  have arms := @scheduleVaultAutoLock_arms
    { state with sessionConfig := preferenceConfig admin user } lease.join
    accepted
  have ran : (applySessionAutoLock admin user lease state).2 =
      (scheduleVaultAutoLock lease.join { state with
        sessionConfig := preferenceConfig admin user }).2 := by
    simp only [applySessionAutoLock, Sync.bind_apply, Sync.get_apply, goes,
      Bool.false_eq_true, ↓reduceIte, Sync.modify_apply]
    cases lease with
    | none => rfl
    | some given =>
        cases given with
        | none => exact absurd rfl scheduled
        | some lease => rfl
  rw [ran, arms.autoLockDeadline]
  simp only [SessionState.rearmedTimer, resolved]

theorem effects_pool_refused (here : page.hook = some hook)
    (refused : refusesPreference page.pool.state.toSessionCore
      hook.props.sessionLease = true) :
    (page.step platform .effects).pool = page.pool := by
  simp only [PreferencePage.step, here, PreferencePage.apply]
  split_ifs with same
  · rfl
  · have unchanged : page.applied hook.dependencies =
        (.ok (), page.pool.state) := applySessionAutoLock_refused refused
    simp only [unchanged]

theorem effects_timer (proper : ProperMinutes hook.props.adminResolvedMinutes)
    (here : page.hook = some hook)
    (changed : hook.appliedWith ≠ some hook.dependencies)
    (scheduled : hook.props.sessionLease ≠ some none)
    (goes : refusesPreference page.pool.state.toSessionCore
      hook.props.sessionLease = false)
    (accepted : page.pool.state.acceptsTouch
      hook.props.sessionLease.join = true) :
    (page.step platform .effects).pool.state.autoLockDeadline =
      some (page.pool.state.now + hook.minutes * 60 * 1000) := by
  simp only [PreferencePage.step, here, PreferencePage.apply, if_neg changed]
  exact applySessionAutoLock_arms proper scheduled goes accepted

end Enforced

/-- What is right of a mounted hook and its session. -/
structure ShowsEnforced (platform : Platform) (page : PreferencePage)
    (hook : AutoLockPreferenceHook) : Prop where
  bounds : IsWhole hook.minutes ∧ 1 ≤ hook.minutes ∧
    hook.minutes ≤ hook.props.adminResolvedMinutes
  /-- once the effects have run, unless the lease was refused -/
  enforced : hook.Settled → hook.refused = false →
    getVaultAutoLockMinutes page.pool.state.sessionConfig = .ok hook.minutes
  /-- a change is applied to a timer that runs already -/
  rearmed : hook.appliedWith ≠ some hook.dependencies →
    hook.props.sessionLease ≠ some none →
    refusesPreference page.pool.state.toSessionCore
      hook.props.sessionLease = false →
    page.pool.state.acceptsTouch hook.props.sessionLease.join = true →
    (page.step platform .effects).pool.state.autoLockDeadline =
      some (page.pool.state.now + hook.minutes * 60 * 1000)
  /-- under a lease that is not current, the session is left alone -/
  refused : refusesPreference page.pool.state.toSessionCore
      hook.props.sessionLease = true →
    (page.step platform .effects).pool = page.pool

/-- In every interleaving of a page, its user, other tabs and the session, the
minutes that are shown are those the session locks after, while the
administrator's are whole and no more than a day. -/
theorem shown_minutes_enforced (platform : Platform) (session : SessionState)
    (storage : PageStorage) {events : List PreferenceEvent}
    (proper : ∀ event ∈ events, event.Proper) :
    let page := PreferencePage.run platform
      { pool := Pool.initial session, storage } events
    ∀ hook, page.hook = some hook → ShowsEnforced platform page hook := by
  intro page hook here
  have holds : PreferenceHolds page :=
    (PreferenceHolds.initial session storage).run proper
  have minutes := holds.proper hook here
  refine ⟨shownMinutes_proper minutes hook.userMinutes, ?_,
    effects_timer minutes here, effects_pool_refused here⟩
  intro settled goes
  rw [holds.applied hook _ here settled.2 goes]
  exact getVaultAutoLockMinutes_preferenceConfig minutes hook.userMinutes

/-- A page that is told that its user has chosen five of fifteen minutes. -/
private def fiveMinutes : AutoLockPreferenceProps where
  adminResolvedMinutes := 15
  initialUserMinutes := some (some (.finite 5))

private theorem properMinutes_fifteen : ProperMinutes 15 where
  whole := ⟨15, rfl⟩
  least := by norm_num
  most := by norm_num [maxVaultAutoLockMinutes]

theorem shown_minutes_enforced_five :
    ∃ hook, (PreferencePage.run (Reference.platform [])
        { pool := Pool.initial {}, storage := none }
        [.mount fiveMinutes, .effects]).hook = some hook ∧
      ShowsEnforced (Reference.platform [])
        (PreferencePage.run (Reference.platform [])
          { pool := Pool.initial {}, storage := none }
          [.mount fiveMinutes, .effects]) hook ∧
      hook.Settled ∧ hook.refused = false := by
  have proper : ∀ event ∈ [PreferenceEvent.mount fiveMinutes, .effects],
      event.Proper := by
    simp [PreferenceEvent.Proper, fiveMinutes, properMinutes_fifteen]
  exact ⟨_, rfl, shown_minutes_enforced (Reference.platform []) {} none proper
    _ rfl, ⟨rfl, rfl⟩, rfl⟩

/-! ## A choice is found again -/

section Found

/-- A text with a unit that is no white space is not trimmed away. -/
private theorem trim_ne_nil {text : JsString} {unit : UInt16}
    (member : unit ∈ text) (plain : isWhitespaceUnit unit = false) :
    trim text ≠ [] := by
  intro nothing
  have white := List.rdropWhile_eq_nil_iff.mp nothing
  cases rest : text.dropWhile isWhitespaceUnit with
  | nil =>
      have all := List.dropWhile_eq_nil_iff.mp rest unit member
      rw [plain] at all
      cases all
  | cons first others =>
      have begins : (text.dropWhile isWhitespaceUnit).head
          (by simp [rest]) = first := by
        simp [rest]
      have notWhite := List.head_dropWhile_not isWhitespaceUnit
        (l := text) (by simp [rest])
      rw [begins, white first (by simp [rest])] at notWhite
      cases notWhite

private theorem roundHalfUp_whole (whole : ℤ) :
    roundHalfUp (whole : ℚ) = whole := by
  have floored := Int.floor_intCast_add whole (1 / 2 : ℚ)
  have half : ⌊(1 / 2 : ℚ)⌋ = 0 := by norm_num
  rw [half, add_zero] at floored
  exact congrArg (fun integer : ℤ => (integer : ℚ)) floored

private theorem exists_count {minutes : ℚ} (whole : IsWhole minutes)
    (least : 1 ≤ minutes) (most : minutes ≤ maxVaultAutoLockMinutes) :
    ∃ count : Nat, minutes = count ∧ 0 < count ∧ count < 2 ^ 53 := by
  obtain ⟨integer, rfl⟩ := whole
  have positive : 1 ≤ integer := by exact_mod_cast least
  obtain ⟨count, rfl⟩ := Int.eq_ofNat_of_zero_le (by omega : 0 ≤ integer)
  refine ⟨count, by norm_cast, by omega, ?_⟩
  have ceiling : maxVaultAutoLockMinutes = ((1440 : ℤ) : ℚ) := by
    norm_num [maxVaultAutoLockMinutes]
  rw [ceiling] at most
  have bound : (count : ℤ) ≤ 1440 := by exact_mod_cast most
  omega

/-- Whole minutes are read back as they were written. -/
theorem readUserVaultAutoLockMinutes_write {storage : PageStorage}
    (works : storage.Works) {minutes : ℚ} (whole : IsWhole minutes)
    (least : 1 ≤ minutes) (most : minutes ≤ maxVaultAutoLockMinutes) :
    readUserVaultAutoLockMinutes
        (writeUserVaultAutoLockMinutes minutes storage) =
      some (.finite minutes) := by
  obtain ⟨count, rfl, positive, small⟩ := exists_count whole least most
  have rounded : roundHalfUp (count : ℚ) = count := by
    have same := roundHalfUp_whole (count : ℤ)
    exact_mod_cast same
  have text : numberText (.finite (count : ℚ)) =
      JsNumber.positiveText (count : ℚ) := by
    have nonzero : (count : ℚ) ≠ 0 := by
      exact_mod_cast positive.ne'
    have notNegative : ¬ (count : ℚ) < 0 := not_lt.mpr (Nat.cast_nonneg _)
    rw [numberText, if_neg nonzero, if_neg notNegative]
  obtain ⟨digits, -, nonempty⟩ :=
    JsNumber.positiveText_whole positive small
  obtain ⟨unit, member⟩ := List.exists_mem_of_ne_nil _ nonempty
  have plain : isWhitespaceUnit unit = false := by
    obtain ⟨low, high⟩ := digits unit member
    simp [isWhitespaceUnit]
    omega
  have kept := trim_ne_nil member plain
  rw [← text] at kept
  unfold readUserVaultAutoLockMinutes writeUserVaultAutoLockMinutes
  rw [PageStorage.read_write_self works, rounded]
  simp only [if_neg kept, JsNumber.parseInt_numberText small,
    JsNumber.isFinite, Bool.not_true, Bool.false_eq_true, ↓reduceIte]

/-- What leaves the stored choice alone. -/
def PreferenceEvent.KeepsChoice : PreferenceEvent → Prop
  | setMinutes _ => False
  | resetToAdminDefault => False
  | storage _ => False
  | _ => True

variable {platform : Platform} {page : PreferencePage}

theorem step_storage {event : PreferenceEvent} (keeps : event.KeepsChoice) :
    (page.step platform event).storage = page.storage := by
  cases event with
  | setMinutes next => exact keeps.elim
  | resetToAdminDefault => exact keeps.elim
  | storage storage => exact keeps.elim
  | effects =>
      simp only [PreferencePage.step]
      cases page.hook with
      | none => rfl
      | some hook =>
          simp only [PreferencePage.apply]
          split_ifs <;> rfl
  | _ => rfl

theorem run_storage {events : List PreferenceEvent}
    (keeps : ∀ event ∈ events, event.KeepsChoice) :
    (page.run platform events).storage = page.storage := by
  induction events generalizing page with
  | nil => rfl
  | cons event events ih =>
      have first := @step_storage platform page event
        (keeps event List.mem_cons_self)
      rw [← first]
      apply ih
      intro other member
      exact keeps other (List.mem_cons_of_mem _ member)

end Found

/-- A choice that a working storage has kept is the choice of every page that
is mounted later, until something changes what is stored.  The administrator's
minutes are whole and no more than a day. -/
theorem chosen_minutes_found_again (platform : Platform)
    {page : PreferencePage} {hook : AutoLockPreferenceHook}
    (here : page.hook = some hook)
    (proper : ProperMinutes hook.props.adminResolvedMinutes)
    (works : page.storage.Works) (next : JsNumber)
    {between : List PreferenceEvent}
    (keeps : ∀ event ∈ between, event.KeepsChoice)
    {props : AutoLockPreferenceProps}
    (asks : props.initialUserMinutes = none) :
    let chosen := clampVaultAutoLockMinutes next.configured
      vaultUserAutoLockMinMinutes hook.props.adminResolvedMinutes
    let later := page.run platform
      (.setMinutes next :: between ++ [.mount props, .effects])
    ∀ found, later.hook = some found →
      found.userMinutes = some (.finite chosen) ∧ found.ready = true ∧
        (props.adminResolvedMinutes = hook.props.adminResolvedMinutes →
          found.minutes = chosen) := by
  intro chosen later found mounted
  have whole : IsWhole chosen :=
    clampVaultAutoLockMinutes_isWhole next.configured ⟨1, rfl⟩ proper.whole
  have least : 1 ≤ chosen := min_le_clampVaultAutoLockMinutes next.configured _ _
  have within : chosen ≤ hook.props.adminResolvedMinutes :=
    clampVaultAutoLockMinutes_le_max next.configured proper.least
  have stored : (PreferencePage.run platform
      (page.step platform (.setMinutes next)) between).storage =
        writeUserVaultAutoLockMinutes chosen page.storage := by
    rw [run_storage keeps]
    simp only [PreferencePage.step, here]
    rfl
  have read := readUserVaultAutoLockMinutes_write works whole least
    (within.trans proper.most)
  rw [← stored] at read
  generalize reached : PreferencePage.run platform
    (page.step platform (.setMinutes next)) between = before at read
  have last : later = (before.step platform (.mount props)).step platform
      .effects := by
    rw [← reached]
    simp only [later, PreferencePage.run, List.cons_append, List.foldl_cons,
      List.foldl_append, List.foldl_nil]
  have hydrated : (AutoLockPreferenceHook.mounted props).hydrate
      before.storage =
      { AutoLockPreferenceHook.mounted props with
        userMinutes := some (.finite chosen)
        ready := true
        hydratedWith := some none } := by
    simp only [AutoLockPreferenceHook.hydrate,
      AutoLockPreferenceHook.mounted, asks, read, reduceCtorEq, ↓reduceIte]
  rw [last] at mounted
  simp only [PreferencePage.step, PreferencePage.apply] at mounted
  rw [hydrated, if_neg (by simp [AutoLockPreferenceHook.mounted])] at mounted
  obtain ⟨_, -, rfl⟩ := Option.map_eq_some_iff.mp mounted
  refine ⟨rfl, rfl, ?_⟩
  intro same
  have shown : shownMinutes props.adminResolvedMinutes
      (some (.finite chosen)) = chosen := by
    rw [shownMinutes_eq (same ▸ proper), same]
    exact clampVaultAutoLockMinutes_self whole least within
  exact shown

/-- Seven of fifteen minutes, after a reload. -/
theorem chosen_minutes_found_again_seven :
    ∃ found, (PreferencePage.run (Reference.platform [])
        { pool := Pool.initial {}, storage := some {},
          hook := some (.mounted fiveMinutes) }
        [.setMinutes (.finite 7), .unmount,
          .mount { adminResolvedMinutes := 15 }, .effects]).hook =
          some found ∧
      found.ready = true ∧ found.minutes =
        clampVaultAutoLockMinutes (.finite 7) vaultUserAutoLockMinMinutes
          15 := by
  obtain ⟨found, mounted⟩ : ∃ found, (PreferencePage.run
      (Reference.platform [])
      { pool := Pool.initial {}, storage := some {},
        hook := some (.mounted fiveMinutes) }
      [.setMinutes (.finite 7), .unmount,
        .mount { adminResolvedMinutes := 15 }, .effects]).hook =
      some found := ⟨_, rfl⟩
  obtain ⟨-, ready, same⟩ := @chosen_minutes_found_again
    (Reference.platform []) _ (.mounted fiveMinutes) rfl properMinutes_fifteen
    ⟨{}, rfl, rfl, rfl⟩ (.finite 7) [.unmount]
    (by simp [PreferenceEvent.KeepsChoice]) { adminResolvedMinutes := 15 } rfl
    found mounted
  exact ⟨found, mounted, ready, same rfl⟩

end VaultCore
