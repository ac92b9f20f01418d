import VaultCore.Admin.OverrideSafety
import VaultCore.Async.Alone

/-!
# What an override shows

Run alone, a request that sets an override changes the entry of its key to the
stored value with the admin as its source, and a request that deletes it gives
the entries back that were listed before.
-/

namespace VaultCore

namespace Admin

open RateLimit (Buckets RateLimitDecision VaultApiRateLimitConfig
  consumeVaultApiRateLimit createVaultApiRateLimiterFromAdminConfig)

/-- The entries that are listed for the rows. -/
def Lists (platform : Platform) (env : Env) (rows : Overrides)
    (entries : List VaultAdminConfigEntry) : Prop :=
  ∃ config, buildVaultAdminConfigFromEnv platform.toLowerCase
      (demoConfigInput env (some rows)) = .ok config ∧
    entries = listVaultAdminConfigEntries config env rows

/-! ## The requests alone -/

/-- The limiter lets the client pass and moves on to the next state. -/
def Passes (platform : Platform) (env : Env) (clientKey : JsString)
    (state next : AdminState) : Prop :=
  enforceDemoVaultApiRateLimit platform env clientKey state = (.ok none, next)

/-- The database can be reached and holds valid rows. -/
structure Ready (state : AdminState) : Prop where
  reachable : state.outage = none
  rows : ValidRows state.rows

section Alone

variable {platform : Platform} {database : Database} {env : Env}
  {state next : AdminState} {base : VaultAdminConfig} {clientKey : JsString}

theorem ofExcept_alone {α : Type} {outcome : Except JsString α} {value : α}
    (same : outcome = .ok value) :
    (Async.lift (Sync.ofExcept outcome) : AdminProgram α).runAlone state =
      (.ok value, state) := by
  rw [same]
  rfl

theorem statement_alone {α : Type} {code : Sync AdminState JsString α}
    (reachable : state.outage = none) :
    (statement database code).runAlone state = code state := by
  rw [statement, Async.runAlone_await]
  change reached database code state = code state
  rw [reached, reachable]

theorem schema_alone (reachable : state.outage = none) :
    (ensureVaultAdminConfigSchema database).await.runAlone state =
      (.ok (), state) := by
  rw [Async.runAlone_await]
  exact statement_alone reachable

theorem load_alone (reachable : state.outage = none) :
    (loadVaultAdminOverrides database).await.runAlone state =
      (.ok state.rows, state) := by
  rw [Async.runAlone_await, loadVaultAdminOverrides,
    Async.runAlone_bind_ok (schema_alone reachable)]
  exact statement_alone reachable

theorem listedEntries_alone
    (resolves : resolveBaseConfig platform.toLowerCase
      (demoConfigInput env none) = .ok base) (ready : Ready state) :
    ∃ entries, Lists platform env state.rows entries ∧
      (listedEntries platform database env).runAlone state =
        (.ok (.entries entries), state) := by
  obtain ⟨config, built⟩ := build_of_validRows resolves ready.rows
  refine ⟨_, ⟨config, built, rfl⟩, ?_⟩
  have resolved : (buildResolvedConfig platform database env).await.runAlone
      state = (.ok config, state) := by
    rw [Async.runAlone_await, buildResolvedConfig,
      Async.runAlone_bind_ok (load_alone ready.reachable),
      Async.runAlone_lift, Sync.ofExcept_apply, buildDemoConfig, built]
    rfl
  rw [listedEntries, Async.runAlone_bind_ok (load_alone ready.reachable),
    Async.runAlone_bind_ok resolved,
    listVaultAdminConfigEntries_getVaultAdminEnv]
  rfl

theorem guarded_alone {status : JsString → Nat}
    {route : AdminProgram AdminResponse} {response : AdminResponse}
    {middle : AdminState} (passes : Passes platform env clientKey state middle)
    (ran : route.runAlone middle = (.ok response, next)) :
    (guarded platform env clientKey status route).runAlone state =
      (.ok response, next) := by
  rw [guarded, Async.runAlone_tryCatch, Async.runAlone_bind]
  simp only [Sync.tryCatch, Sync.bind_apply, Async.runAlone_lift]
  rw [show enforceDemoVaultApiRateLimit platform env clientKey state =
    (.ok none, middle) from passes]
  simp only [ran]

theorem Passes.ready (passes : Passes platform env clientKey state next)
    (ready : Ready state) : next.rows = state.rows ∧ Ready next := by
  have kept : next.rows = state.rows ∧ next.outage = state.outage := by
    rw [Passes, enforceDemoVaultApiRateLimit] at passes
    generalize buildDemoConfig platform env none = built at passes
    cases built with
    | error message => cases passes
    | ok config =>
        simp only at passes
        generalize createVaultApiRateLimiterFromAdminConfig config = created
          at passes
        cases created with
        | none =>
            cases passes
            exact ⟨rfl, rfl⟩
        | some limiter =>
            simp only [Prod.mk.injEq] at passes
            obtain ⟨-, rfl⟩ := passes
            exact ⟨rfl, rfl⟩
  obtain ⟨rows, outage⟩ := kept
  refine ⟨rows, ?_, ?_⟩
  · rw [outage]
    exact ready.reachable
  · rw [rows]
    exact ready.rows

/-- The rows of a state replaced. -/
def AdminState.withRows (state : AdminState) (rows : Overrides) : AdminState :=
  { state with rows := rows }

theorem get_alone
    (resolves : resolveBaseConfig platform.toLowerCase
      (demoConfigInput env none) = .ok base) (ready : Ready state)
    (passes : Passes platform env clientKey state next) :
    ∃ entries, Lists platform env state.rows entries ∧
      (adminRoute platform database env (.get clientKey)).runAlone state =
        (.ok (.entries entries), next) := by
  obtain ⟨rows, nextReady⟩ := passes.ready ready
  obtain ⟨entries, lists, ran⟩ :=
    @listedEntries_alone platform database env next base resolves nextReady
  rw [rows] at lists
  exact ⟨entries, lists, guarded_alone passes ran⟩

theorem post_alone {name : JsString} {body : JsValue}
    (resolves : resolveBaseConfig platform.toLowerCase
      (demoConfigInput env none) = .ok base) (ready : Ready state)
    (passes : Passes platform env clientKey state next)
    (read : readBodyKey platform body = .ok (some (.string name)))
    (valid : ValidOverride name (givenValue body))
    (stored : database.refusal (givenValue body) = none) :
    ∃ entries,
      Lists platform env (state.rows.set name (givenValue body)) entries ∧
      (adminRoute platform database env
        (.post clientKey (.ok body))).runAlone state =
          (.ok (.entries entries),
            next.withRows (state.rows.set name (givenValue body))) := by
  obtain ⟨rows, nextReady⟩ := passes.ready ready
  have setReady : Ready
      (next.withRows (state.rows.set name (givenValue body))) :=
    ⟨nextReady.reachable, ready.rows.set valid⟩
  obtain ⟨entries, lists, ran⟩ :=
    @listedEntries_alone platform database env _ base resolves setReady
  refine ⟨entries, lists, guarded_alone passes ?_⟩
  have checked : validateRequest (.string name)
      (memberOf (js "value") body) = .ok name :=
    validateRequest_ok_iff.mpr ⟨rfl, valid⟩
  have set : (setVaultAdminOverride database name
      (givenValue body)).await.runAlone next =
        (.ok (), next.withRows (state.rows.set name (givenValue body))) := by
    rw [Async.runAlone_await, setVaultAdminOverride,
      Async.runAlone_bind_ok (schema_alone nextReady.reachable)]
    refine (statement_alone nextReady.reachable).trans ?_
    simp only [stored, rows]
    rfl
  have parsed : (Async.awaitOutcome (.ok body) :
      AdminProgram JsValue).runAlone next = (.ok body, next) := rfl
  rw [postBody, Async.runAlone_bind_ok parsed,
    Async.runAlone_bind_ok (ofExcept_alone read)]
  refine (Async.runAlone_bind_ok (ofExcept_alone checked)).trans ?_
  exact (Async.runAlone_bind_ok set).trans ran

theorem delete_alone {name : JsString} {body key : JsValue}
    (resolves : resolveBaseConfig platform.toLowerCase
      (demoConfigInput env none) = .ok base) (ready : Ready state)
    (passes : Passes platform env clientKey state next)
    (read : readBodyKey platform body = .ok (some key))
    (compared : database.keyText key = .ok name) :
    ∃ entries, Lists platform env (state.rows.delete name) entries ∧
      (adminRoute platform database env
        (.delete clientKey (.ok body))).runAlone state =
          (.ok (.entries entries), next.withRows (state.rows.delete name)) := by
  obtain ⟨rows, nextReady⟩ := passes.ready ready
  have deletedReady : Ready (next.withRows (state.rows.delete name)) :=
    ⟨nextReady.reachable, ready.rows.delete⟩
  obtain ⟨entries, lists, ran⟩ :=
    @listedEntries_alone platform database env _ base resolves deletedReady
  refine ⟨entries, lists, guarded_alone passes ?_⟩
  have deleted : (deleteVaultAdminOverride database key).await.runAlone next =
      (.ok (), next.withRows (state.rows.delete name)) := by
    rw [Async.runAlone_await, deleteVaultAdminOverride,
      Async.runAlone_bind_ok (schema_alone nextReady.reachable)]
    refine (statement_alone nextReady.reachable).trans ?_
    simp only [compared, rows]
    rfl
  have parsed : (Async.awaitOutcome (.ok body) :
      AdminProgram JsValue).runAlone next = (.ok body, next) := rfl
  rw [deleteBody, Async.runAlone_bind_ok parsed,
    Async.runAlone_bind_ok (ofExcept_alone read)]
  exact (Async.runAlone_bind_ok deleted).trans ran

end Alone

/-! ## The entries of the rows -/

section Entries

variable {platform : Platform} {env : Env} {rows others : Overrides}
  {entries shown : List VaultAdminConfigEntry} {name : JsString}
  {value : JsValue}

theorem valueForKey_congr {config other : VaultAdminConfig}
    {shown : VaultConfigKey}
    (settings : ∀ key, shown = .overridable key →
      config.setting key = other.setting key)
    (profile : config.profile = other.profile) :
    valueForKey config shown = valueForKey other shown := by
  cases shown with
  | aadContextVault => simp only [valueForKey, profile]
  | aadContextEnvelope => simp only [valueForKey, profile]
  | recommendedKdfVersion => rfl
  | encryptionAlgorithm => rfl
  | overridable key =>
      have same := settings key rfl
      cases key with
      | emergencyModeEnabled =>
          have flag : config.features.emergencyModeEnabled =
              other.features.emergencyModeEnabled := same
          simp only [valueForKey, flag]
      | _ => exact same

theorem valueForKey_overridden {config : VaultAdminConfig}
    {key : VaultOverridableConfigKey} (valid : ValidOverride key.name value)
    (setting : config.setting key = storedValue value key) :
    valueForKey config (.overridable key) = storedValue value key := by
  cases key with
  | emergencyModeEnabled =>
      obtain ⟨held, definition, -, found, accepts⟩ := valid
      obtain rfl := Option.some.inj found
      obtain ⟨flag, rfl⟩ := accepts
      have stored : config.features.emergencyModeEnabled = .boolean flag :=
        setting
      rw [valueForKey, stored]
      cases flag <;> rfl
  | _ => exact setting

theorem Lists.config (lists : Lists platform env rows entries) :
    ∃ base config, resolveBaseConfig platform.toLowerCase
        (demoConfigInput env none) = .ok base ∧
      Applies base rows.get? config ∧
      entries = listVaultAdminConfigEntries config env rows := by
  obtain ⟨config, built, rfl⟩ := lists
  rw [buildVaultAdminConfigFromEnv] at built
  obtain ⟨base, resolved, applied⟩ := Outcome.bind_eq_ok_iff.mp built
  exact ⟨base, config, resolved, applyVaultAdminOverrides_applies applied, rfl⟩

theorem Lists.unique (lists : Lists platform env rows entries)
    (listsOther : Lists platform env others shown)
    (same : rows.get? = others.get?) : entries = shown := by
  obtain ⟨base, config, resolved, applies, rfl⟩ := lists.config
  obtain ⟨otherBase, other, otherResolved, otherApplies, rfl⟩ :=
    listsOther.config
  obtain rfl := Except.ok.inj (resolved.symm.trans otherResolved)
  rw [← same] at otherApplies
  obtain rfl := applies.unique otherApplies
  rw [listVaultAdminConfigEntries, listVaultAdminConfigEntries]
  apply List.map_congr_left
  intro display _
  simp only [configEntry, sourceFor, same]

/-- The entry of an override that the admin sets. -/
def VaultAdminConfigEntry.overridden (key : VaultOverridableConfigKey)
    (value : JsValue) (entry : VaultAdminConfigEntry) :
    VaultAdminConfigEntry :=
  if entry.key = .overridable key then
    { entry with value := storedValue value key, source := .admin }
  else entry

theorem VaultConfigKey.name_overridable {shown : VaultConfigKey}
    {key : VaultOverridableConfigKey} :
    shown.name = key.name ↔ shown = .overridable key := by
  constructor
  · intro same
    have found : (overridableConfigKey shown.name).isSome = true := by
      rw [same, overridableConfigKey_name, Option.isSome_some]
    cases shown with
    | overridable other => rw [name_injective same]
    | _ => exact absurd found (by decide +kernel)
  · rintro rfl
    rfl

theorem Lists.set {key : VaultOverridableConfigKey}
    (lists : Lists platform env rows entries)
    (valid : ValidOverride key.name value)
    (listsSet : Lists platform env (rows.set key.name value) shown) :
    shown = entries.map (VaultAdminConfigEntry.overridden key value) := by
  obtain ⟨base, config, resolved, applies, rfl⟩ := lists.config
  obtain ⟨otherBase, other, otherResolved, otherApplies, rfl⟩ :=
    listsSet.config
  obtain rfl := Except.ok.inj (resolved.symm.trans otherResolved)
  rw [listVaultAdminConfigEntries, listVaultAdminConfigEntries, List.map_map,
    List.map_map, List.map_map]
  apply List.map_congr_left
  intro display _
  simp only [Function.comp_apply, VaultAdminConfigEntry.overridden,
    configEntry, vaultConfigKeyDisplay_key]
  by_cases this : display = .overridable key
  · subst this
    have given := rows.get?_set_self key.name value
    have setting := otherApplies.settings key
    rw [given] at setting
    have source : ∀ envVar, sourceFor env (rows.set key.name value)
        (.overridable key) envVar = .admin := by
      intro envVar
      simp only [sourceFor]
      rw [if_pos]
      exact congrArg Option.isSome given
    rw [if_pos rfl, valueForKey_overridden valid setting, source]
  · have kept : (rows.set key.name value).get? display.name =
        rows.get? display.name :=
      OrderedMap.get?_set_of_ne rows
        (fun same => this (VaultConfigKey.name_overridable.mp same)) value
    have shownValue : valueForKey other display =
        valueForKey config display := by
      apply valueForKey_congr
      · rintro otherKey rfl
        have unchanged : (rows.set key.name value).get? otherKey.name =
            rows.get? otherKey.name := kept
        rw [otherApplies.settings, applies.settings, unchanged]
      · rw [otherApplies.profile, applies.profile]
    rw [if_neg this, shownValue]
    simp only [sourceFor, kept]

theorem Lists.delete_set (lists : Lists platform env rows entries)
    (absent : rows.get? name = none)
    (listsAgain : Lists platform env ((rows.set name value).delete name)
      shown) : shown = entries := by
  apply listsAgain.unique lists
  funext other
  by_cases same : other = name
  · rw [same, OrderedMap.get?_delete_self, absent]
  · rw [OrderedMap.get?_delete_of_ne _ same, OrderedMap.get?_set_of_ne _ same]

end Entries

/-- A listing, a request that sets an override and one that deletes its key,
each alone and let pass by the limiter. -/
structure SetAndDelete (platform : Platform) (database : Database) (env : Env)
    (start : AdminState) (body deletion : JsValue) (name : JsString)
    (clients : Fin 3 → JsString) (first second last : AdminState) : Prop where
  ready : Ready start
  read : readBodyKey platform body = .ok (some (.string name))
  valid : ValidOverride name (givenValue body)
  stored : database.refusal (givenValue body) = none
  readAgain : readBodyKey platform deletion = .ok (some (.string name))
  compared : database.keyText (.string name) = .ok name
  passes : Passes platform env (clients 0) start first
  passesSet : Passes platform env (clients 1) first second
  passesDelete : Passes platform env (clients 2)
    (second.withRows (start.rows.set name (givenValue body))) last

/-- Setting an override changes the entry of its key and no other, and
deleting it brings the first entries back, if it was not set before.  The
environment's own configuration resolves, and each request runs alone, passes
the limiter and reaches the database. -/
theorem override_round_trip {platform : Platform} {database : Database}
    {env : Env} {base : VaultAdminConfig} {start first second last : AdminState}
    {body deletion : JsValue} {name : JsString} {clients : Fin 3 → JsString}
    (resolves : resolveBaseConfig platform.toLowerCase
      (demoConfigInput env none) = .ok base)
    (ran : SetAndDelete platform database env start body deletion name clients
      first second last) :
    ∃ (key : VaultOverridableConfigKey)
      (before after : List VaultAdminConfigEntry),
      key.name = name ∧
      (adminRoute platform database env (.get (clients 0))).runAlone start =
        (.ok (.entries before), first) ∧
      (adminRoute platform database env
        (.post (clients 1) (.ok body))).runAlone first =
        (.ok (.entries (before.map
          (VaultAdminConfigEntry.overridden key (givenValue body)))),
          second.withRows (start.rows.set name (givenValue body))) ∧
      (adminRoute platform database env
        (.delete (clients 2) (.ok deletion))).runAlone
          (second.withRows (start.rows.set name (givenValue body))) =
        (.ok (.entries after),
          last.withRows
            ((start.rows.set name (givenValue body)).delete name)) ∧
      (start.rows.get? name = none → after = before) := by
  obtain ⟨before, lists, listed⟩ :=
    @get_alone platform database env _ _ base _ resolves ran.ready ran.passes
  obtain ⟨rows, firstReady⟩ := ran.passes.ready ran.ready
  obtain ⟨during, listsSet, posted⟩ := post_alone resolves firstReady
    ran.passesSet ran.read ran.valid ran.stored
  rw [rows] at listsSet posted
  obtain ⟨-, secondReady⟩ := ran.passesSet.ready firstReady
  have setReady : Ready
      (second.withRows (start.rows.set name (givenValue body))) :=
    ⟨secondReady.reachable, ran.ready.rows.set ran.valid⟩
  obtain ⟨after, listsDeleted, deleted⟩ := delete_alone resolves setReady
    ran.passesDelete ran.readAgain ran.compared
  obtain ⟨key, definition, rfl, -⟩ := id ran.valid
  obtain rfl := lists.set ran.valid listsSet
  refine ⟨key, before, after, rfl, listed, posted, deleted, ?_⟩
  intro absent
  exact lists.delete_set absent listsDeleted

/-- The limit without settings in the environment. -/
def demoLimit : VaultApiRateLimitConfig :=
  { maxRequests := 120, windowMs := JsNumber.times 60 1000 }

/-- The limiter after one more request of the client. -/
def consumed (buckets : Buckets) : RateLimitDecision × Buckets :=
  consumeVaultApiRateLimit demoLimit
    { now := 0
      apiNamespace := js "vault-admin-config"
      clientKey := js "client" } buckets

/-- The state once the limiter has counted a request. -/
def afterRequest (state : AdminState) : AdminState :=
  { state with buckets := (consumed state.buckets).2 }

theorem passes_afterRequest {state : AdminState} (begins : state.now = 0)
    (allowed : (consumed state.buckets).1.allowed = true) :
    Passes (Reference.platform []) emptyEnv (js "client") state
      (afterRequest state) := by
  have built : ∃ config,
      buildDemoConfig (Reference.platform []) emptyEnv none = .ok config ∧
      createVaultApiRateLimiterFromAdminConfig config = some demoLimit :=
    ⟨_, rfl, rfl⟩
  obtain ⟨config, built, created⟩ := built
  rw [consumed] at allowed
  rw [Passes, enforceDemoVaultApiRateLimit, built]
  simp only [created, begins, allowed, if_true, afterRequest, consumed]

/-- The minutes listed, set and deleted at a new table. -/
theorem override_round_trip_minutes :
    ∃ (key : VaultOverridableConfigKey)
      (before after : List VaultAdminConfigEntry),
      key.name = js "autoLockMinutes" ∧
      (adminRoute (Reference.platform []) demoDatabase emptyEnv
        (.post (js "client") (.ok (minutesBody 30)))).runAlone
          (afterRequest newTable) =
        (.ok (.entries (before.map (VaultAdminConfigEntry.overridden key
          (givenValue (minutesBody 30))))),
          (afterRequest (afterRequest newTable)).withRows
            (newTable.rows.set (js "autoLockMinutes")
              (givenValue (minutesBody 30)))) ∧
      after = before := by
  have resolves : resolveBaseConfig (Reference.platform []).toLowerCase
      (demoConfigInput emptyEnv none) = .ok _ := rfl
  have read : readBodyKey (Reference.platform []) (minutesBody 30) =
      .ok (some (.string (js "autoLockMinutes"))) := rfl
  have valid : ValidOverride (js "autoLockMinutes")
      (givenValue (minutesBody 30)) := by
    refine ⟨.autoLockMinutes, _, rfl, rfl, 30, rfl, ?_, ?_⟩
    · intro least bound
      obtain rfl := Option.some.inj bound
      decide +kernel
    · intro most bound
      obtain rfl := Option.some.inj bound
      decide +kernel
  have noRows : ValidRows newTable.rows := by
    intro name value impossible
    cases impossible
  have ran : SetAndDelete (Reference.platform []) demoDatabase emptyEnv
      newTable (minutesBody 30) (minutesBody 30) (js "autoLockMinutes")
      (fun _ => js "client") _ _ _ :=
    { ready := ⟨rfl, noRows⟩
      read := read
      valid := valid
      stored := rfl
      readAgain := read
      compared := rfl
      passes := passes_afterRequest rfl (by decide +kernel)
      passesSet := passes_afterRequest rfl (by decide +kernel)
      passesDelete := passes_afterRequest rfl (by decide +kernel) }
  obtain ⟨key, before, after, named, -, posted, -, restored⟩ :=
    override_round_trip resolves ran
  exact ⟨key, before, after, named, posted, restored rfl⟩

end Admin

end VaultCore
