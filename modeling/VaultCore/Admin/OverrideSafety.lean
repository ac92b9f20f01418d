import VaultCore.Admin.OverrideRoute
import VaultCore.Crypto.Reference

/-!
# Safety of the overrides

In every interleaving of requests the table holds valid overrides only, each
segment of a request changes at most the row it is about, and a request
answers from valid overrides or says which fault it met.  So the configuration
of the application can be built at any time.
-/

namespace VaultCore

namespace Admin

open RateLimit (RateLimitDecision buildVaultRateLimitHttpResponse
  createVaultApiRateLimiterFromAdminConfig)

/-- Every row is an override that is accepted. -/
def ValidRows (rows : Overrides) : Prop :=
  ∀ name value, rows.get? name = some value → ValidOverride name value

namespace AdminRequest

/-- The body of a request that has one. -/
def body : AdminRequest → Option RequestBody
  | get _ => none
  | post _ body => some body
  | delete _ body => some body

/-- The status that the errors of a request are answered with. -/
def status : AdminRequest → JsString → Nat
  | get _ => fun _ => 500
  | post _ _ => statusOf
  | delete _ _ => statusOf

end AdminRequest

/-- The value that a body gives, or `null` in place of none. -/
def givenValue (body : JsValue) : JsValue :=
  (memberOf (js "value") body).getD .null

section Specification

variable (platform : Platform) (database : Database) (env : Env)

/-- What one segment of a request does to the rows. -/
inductive RowChange (rows : Overrides) : AdminRequest → Overrides → Prop where
  | unchanged {request : AdminRequest} : RowChange rows request rows
  | set {clientKey name : JsString} {body : JsValue} :
      readBodyKey platform body = .ok (some (.string name)) →
      ValidOverride name (givenValue body) →
      RowChange rows (.post clientKey (.ok body))
        (rows.set name (givenValue body))
  | delete {clientKey name : JsString} {body key : JsValue} :
      readBodyKey platform body = .ok (some key) →
      database.keyText key = .ok name →
      RowChange rows (.delete clientKey (.ok body)) (rows.delete name)

/-- Why a request fails. -/
inductive Fault : AdminRequest → JsString → Prop where
  | outage {request : AdminRequest} (kind : Nat) :
      Fault request (database.outageMessage kind)
  | unparsed {request : AdminRequest} {message : JsString} :
      request.body = some (.error message) → Fault request message
  | unreadable {request : AdminRequest} {body : JsValue} {message : JsString} :
      request.body = some (.ok body) →
      readBodyKey platform body = .error message → Fault request message
  | invalid {clientKey : JsString} {body key : JsValue} {message : JsString} :
      readBodyKey platform body = .ok (some key) →
      validateRequest key (memberOf (js "value") body) = .error message →
      (∀ name, key = .string name → ¬ ValidOverride name (givenValue body)) →
      Fault (.post clientKey (.ok body)) message
  | unstorable {clientKey : JsString} {body : JsValue} {message : JsString} :
      database.refusal (givenValue body) = some message →
      Fault (.post clientKey (.ok body)) message
  | untyped {clientKey : JsString} {body key : JsValue} {message : JsString} :
      readBodyKey platform body = .ok (some key) →
      database.keyText key = .error message →
      Fault (.delete clientKey (.ok body)) message

/-- A request that does what it asks for: a listing, a valid override or a key
to delete. -/
inductive Admitted : AdminRequest → Prop where
  | get {clientKey : JsString} : Admitted (.get clientKey)
  | post {clientKey name : JsString} {body : JsValue} :
      readBodyKey platform body = .ok (some (.string name)) →
      ValidOverride name (givenValue body) →
      Admitted (.post clientKey (.ok body))
  | delete {clientKey name : JsString} {body key : JsValue} :
      readBodyKey platform body = .ok (some key) →
      database.keyText key = .ok name →
      Admitted (.delete clientKey (.ok body))

/-- What a request may answer. -/
inductive Answers (request : AdminRequest) : AdminResponse → Prop where
  | limited {decision : RateLimitDecision} :
      decision.allowed = false →
      Answers request (.limited (buildVaultRateLimitHttpResponse decision))
  | entries {listed resolved : Overrides} {config : VaultAdminConfig} :
      Admitted platform database request →
      ValidRows listed → ValidRows resolved →
      buildVaultAdminConfigFromEnv platform.toLowerCase
        (demoConfigInput env (some resolved)) = .ok config →
      Answers request
        (.entries (listVaultAdminConfigEntries config env listed))
  | keyRequired {body : JsValue} :
      request.body = some (.ok body) →
      readBodyKey platform body = .ok none → Answers request keyRequired
  | failure {message : JsString} :
      Fault platform database request message →
      Answers request (.failure (request.status message) message)

end Specification

section Requests

variable {platform : Platform} {database : Database} {env : Env}
  {rows : Overrides} {name : JsString} {value : JsValue}

theorem ValidRows.set (valid : ValidRows rows)
    (accepted : ValidOverride name value) : ValidRows (rows.set name value) := by
  intro other held found
  by_cases same : other = name
  · rw [same, OrderedMap.get?_set_self] at found
    obtain rfl := Option.some.inj found
    rw [same]
    exact accepted
  · rw [OrderedMap.get?_set_of_ne _ same] at found
    exact valid other held found

theorem ValidRows.delete (valid : ValidRows rows) :
    ValidRows (rows.delete name) :=
  fun other held found => valid other held (OrderedMap.get?_of_filter found)

theorem RowChange.valid {request : AdminRequest} {next : Overrides}
    (change : RowChange platform database rows request next)
    (valid : ValidRows rows) : ValidRows next := by
  cases change with
  | unchanged => exact valid
  | set _ accepted => exact valid.set accepted
  | delete _ _ => exact valid.delete

theorem build_of_validRows {base : VaultAdminConfig}
    (resolves : resolveBaseConfig platform.toLowerCase
      (demoConfigInput env none) = .ok base) (valid : ValidRows rows) :
    ∃ config, buildVaultAdminConfigFromEnv platform.toLowerCase
      (demoConfigInput env (some rows)) = .ok config := by
  obtain ⟨config, applied⟩ :=
    (@applyVaultAdminOverrides_ok_iff base rows).mpr valid
  refine ⟨config, ?_⟩
  rw [buildVaultAdminConfigFromEnv]
  apply Outcome.bind_eq_ok_iff.mpr
  exact ⟨base, resolves, applied⟩

/-- No segment of the request does more to the rows. -/
def AdminGuarantee (platform : Platform) (database : Database)
    (request : AdminRequest) (start finish : AdminState) : Prop :=
  RowChange platform database start.rows request finish.rows

/-- The invariant of the table. -/
def AdminSound (state : AdminState) : Prop := ValidRows state.rows

/-- A value as said, or a fault of the request. -/
def Results {α : Type} (platform : Platform) (database : Database)
    (request : AdminRequest) (good : α → Prop) : Except JsString α → Prop
  | .ok value => good value
  | .error message => Fault platform database request message

/-- The program of a request, or a part of it. -/
def Serves {α : Type} (platform : Platform) (database : Database)
    (request : AdminRequest) (good : α → Prop) (program : AdminProgram α) :
    Prop :=
  Async.Behaves AdminSound (AdminGuarantee platform database request)
    (Results platform database request good) program

variable {α β : Type} {request : AdminRequest} {good : α → Prop}

theorem AdminGuarantee.refl (state : AdminState) :
    AdminGuarantee platform database request state state :=
  .unchanged

namespace Serves

theorem bind {program : AdminProgram α} {next : α → AdminProgram β}
    {last : β → Prop} (first : Serves platform database request good program)
    (continues : ∀ value, good value →
      Serves platform database request last (next value)) :
    Serves platform database request last (program >>= next) :=
  Async.Behaves.bind first continues fun _ fault => fault

theorem await {program : AdminProgram α}
    (serves : Serves platform database request good program) :
    Serves platform database request good program.await :=
  Async.Behaves.await AdminGuarantee.refl serves

theorem statement {code : Sync AdminState JsString α}
    (acts : ∀ state, AdminSound state →
      AdminGuarantee platform database request state (code state).2 ∧
        Results platform database request good (code state).1) :
    Serves platform database request good (Admin.statement database code) := by
  apply Async.Behaves.await AdminGuarantee.refl
  apply Async.Behaves.pause_lift
  intro state sound
  cases reachable : state.outage with
  | some kind =>
      simp only [reached, reachable]
      exact ⟨.unchanged, .outage kind⟩
  | none =>
      simp only [reached, reachable]
      exact acts state sound

theorem schema : Serves platform database request (fun _ => True)
    (ensureVaultAdminConfigSchema database) :=
  statement fun _ _ => ⟨.unchanged, trivial⟩

theorem load : Serves platform database request ValidRows
    (loadVaultAdminOverrides database) := by
  apply bind schema.await
  intro _ _
  exact statement fun state sound => ⟨.unchanged, sound⟩

theorem ofExcept {outcome : Except JsString α}
    (results : Results platform database request good outcome) :
    Serves platform database request good
      (Async.lift (Sync.ofExcept outcome)) :=
  Async.Behaves.ofExcept results

theorem awaitOutcome {outcome : Except JsString α}
    (results : Results platform database request good outcome) :
    Serves platform database request good (Async.awaitOutcome outcome) :=
  Async.Behaves.awaitOutcome AdminGuarantee.refl results

theorem pure {value : α} (holds : good value) :
    Serves platform database request good (Pure.pure value) :=
  Async.Behaves.pure holds

end Serves

variable {base : VaultAdminConfig}

theorem buildDemoConfig_results
    (resolves : resolveBaseConfig platform.toLowerCase
      (demoConfigInput env none) = .ok base) (valid : ValidRows rows) :
    Results platform database request
      (fun config => buildVaultAdminConfigFromEnv platform.toLowerCase
        (demoConfigInput env (some rows)) = .ok config)
      (buildDemoConfig platform env (some rows)) := by
  obtain ⟨config, built⟩ := build_of_validRows resolves valid
  rw [buildDemoConfig, built]
  rfl

/-- The end of an admitted request. -/
theorem listedEntries_serves
    (resolves : resolveBaseConfig platform.toLowerCase
      (demoConfigInput env none) = .ok base)
    (admitted : Admitted platform database request) :
    Serves platform database request (Answers platform database env request)
      (listedEntries platform database env) := by
  apply Serves.load.await.bind
  intro listed listedValid
  have resolved : Serves platform database request
      (fun config => ∃ resolved, ValidRows resolved ∧
        buildVaultAdminConfigFromEnv platform.toLowerCase
          (demoConfigInput env (some resolved)) = .ok config)
      (buildResolvedConfig platform database env) := by
    apply Serves.load.await.bind
    intro resolved resolvedValid
    apply Serves.ofExcept
    have built := @buildDemoConfig_results platform database env resolved
      request base resolves resolvedValid
    cases outcome : buildDemoConfig platform env (some resolved) with
    | ok config =>
        rw [outcome] at built
        exact ⟨resolved, resolvedValid, built⟩
    | error message =>
        rw [outcome] at built
        exact built
  apply resolved.await.bind
  rintro config ⟨resolved, resolvedValid, built⟩
  apply Serves.pure
  rw [listVaultAdminConfigEntries_getVaultAdminEnv]
  exact .entries admitted listedValid resolvedValid built

theorem validateRequest_ok_iff {key : JsValue} {given : Option JsValue} :
    validateRequest key given = .ok name ↔
      key = .string name ∧ ValidOverride name (given.getD .null) := by
  cases key with
  | string text =>
      rw [← validateVaultAdminOverride_ok_iff, validateRequest]
      cases checked : validateVaultAdminOverride text (given.getD .null) with
      | ok done =>
          constructor
          · intro same
            obtain rfl := Except.ok.inj same
            exact ⟨rfl, checked⟩
          · rintro ⟨same, -⟩
            rw [JsValue.string.inj same]
      | error error =>
          constructor
          · intro impossible
            cases impossible
          · rintro ⟨same, accepted⟩
            rw [JsValue.string.inj same, accepted] at checked
            cases checked
  | _ =>
      constructor
      · intro accepted
        simp only [validateRequest] at accepted
        split at accepted <;> cases accepted
      · rintro ⟨impossible, -⟩
        cases impossible

theorem validateRequest_error {key : JsValue} {given : Option JsValue}
    {message : JsString}
    (refused : validateRequest key given = .error message) :
    ∀ name, key = .string name → ¬ ValidOverride name (given.getD .null) := by
  intro name same accepted
  rw [validateRequest_ok_iff.mpr ⟨same, accepted⟩] at refused
  cases refused

theorem Serves.set {clientKey : JsString} {body : JsValue}
    (read : readBodyKey platform body = .ok (some (.string name)))
    (accepted : ValidOverride name (givenValue body)) :
    Serves platform database (.post clientKey (.ok body)) (fun _ => True)
      (setVaultAdminOverride database name (givenValue body)) := by
  apply Serves.schema.await.bind
  intro _ _
  apply Serves.statement
  intro state sound
  cases refused : database.refusal (givenValue body) with
  | some message => exact ⟨.unchanged, .unstorable refused⟩
  | none => exact ⟨.set read accepted, trivial⟩

theorem Serves.delete {clientKey : JsString} {body key : JsValue}
    (read : readBodyKey platform body = .ok (some key)) :
    Serves platform database (.delete clientKey (.ok body))
      (fun _ => Admitted platform database (.delete clientKey (.ok body)))
      (deleteVaultAdminOverride database key) := by
  apply Serves.schema.await.bind
  intro _ _
  apply Serves.statement
  intro state sound
  cases text : database.keyText key with
  | error message => exact ⟨.unchanged, .untyped read text⟩
  | ok name => exact ⟨.delete read text, .delete read text⟩

theorem Serves.read {body : JsValue} (given : request.body = some (.ok body)) :
    Serves platform database request
      (fun key => readBodyKey platform body = .ok key)
      (Async.lift (Sync.ofExcept (readBodyKey platform body))) := by
  apply Serves.ofExcept
  cases read : readBodyKey platform body with
  | ok key => rfl
  | error message => exact .unreadable given read

theorem Serves.parse {body : RequestBody}
    (given : request.body = some body) :
    Serves platform database request
      (fun parsed => request.body = some (.ok parsed) ∧ body = .ok parsed)
      (Async.awaitOutcome body) := by
  apply Serves.awaitOutcome
  cases body with
  | ok parsed => exact ⟨given, rfl⟩
  | error message => exact .unparsed given

theorem postBody_serves
    (resolves : resolveBaseConfig platform.toLowerCase
      (demoConfigInput env none) = .ok base)
    (clientKey : JsString) (body : RequestBody) :
    Serves platform database (.post clientKey body)
      (Answers platform database env (.post clientKey body))
      (postBody platform database env body) := by
  apply (Serves.parse rfl).bind
  rintro parsed ⟨given, rfl⟩
  apply (Serves.read given).bind
  intro key read
  cases key with
  | none => exact Serves.pure (.keyRequired given read)
  | some key =>
      have checked : Serves platform database (.post clientKey (.ok parsed))
          (fun name => key = .string name ∧
            ValidOverride name (givenValue parsed))
          (Async.lift (Sync.ofExcept
            (validateRequest key (memberOf (js "value") parsed)))) := by
        apply Serves.ofExcept
        cases outcome : validateRequest key
            (memberOf (js "value") parsed) with
        | ok name => exact validateRequest_ok_iff.mp outcome
        | error message =>
            exact .invalid read outcome (validateRequest_error outcome)
      apply checked.bind
      rintro name ⟨rfl, accepted⟩
      apply (Serves.set read accepted).await.bind
      intro _ _
      exact listedEntries_serves resolves (.post read accepted)

theorem deleteBody_serves
    (resolves : resolveBaseConfig platform.toLowerCase
      (demoConfigInput env none) = .ok base)
    (clientKey : JsString) (body : RequestBody) :
    Serves platform database (.delete clientKey body)
      (Answers platform database env (.delete clientKey body))
      (deleteBody platform database env body) := by
  apply (Serves.parse rfl).bind
  rintro parsed ⟨given, rfl⟩
  apply (Serves.read given).bind
  intro key read
  cases key with
  | none => exact Serves.pure (.keyRequired given read)
  | some key =>
      apply (Serves.delete read).await.bind
      intro _ admitted
      exact listedEntries_serves resolves admitted

/-- The limiter changes no row and refuses as it decides. -/
theorem Serves.limiter
    (resolves : resolveBaseConfig platform.toLowerCase
      (demoConfigInput env none) = .ok base) (clientKey : JsString) :
    Serves platform database request
      (fun rateLimited => ∀ response ∈ rateLimited,
        Answers platform database env request response)
      (Async.lift (enforceDemoVaultApiRateLimit platform env clientKey)) := by
  have built : buildDemoConfig platform env none = .ok base := by
    rw [buildDemoConfig, buildVaultAdminConfigFromEnv, resolves]
    rfl
  apply Async.Behaves.lift
  intro start state sound moved
  rw [enforceDemoVaultApiRateLimit, built]
  simp only
  cases createVaultApiRateLimiterFromAdminConfig base with
  | none =>
      refine ⟨moved, ?_⟩
      intro response impossible
      cases impossible
  | some limiter =>
      refine ⟨moved, ?_⟩
      intro response refused
      simp only [Option.mem_def, Option.ite_none_left_eq_some] at refused
      obtain ⟨notAllowed, same⟩ := refused
      rw [← Option.some.inj same]
      exact .limited (eq_false_of_ne_true notAllowed)

/-- A route as a whole always answers. -/
theorem guarded_behaves
    (resolves : resolveBaseConfig platform.toLowerCase
      (demoConfigInput env none) = .ok base)
    (clientKey : JsString) {route : AdminProgram AdminResponse}
    (serves : Serves platform database request
      (Answers platform database env request) route) :
    Async.Behaves AdminSound (AdminGuarantee platform database request)
      (fun outcome => ∃ response, outcome = .ok response ∧
        Answers platform database env request response)
      (guarded platform env clientKey request.status route) := by
  apply Async.Behaves.tryCatch ((Serves.limiter resolves clientKey).bind ?_)
  · intro response answers
    exact ⟨response, rfl, answers⟩
  · intro message fault
    exact Async.Behaves.pure ⟨_, rfl, .failure fault⟩
  · intro rateLimited refused
    cases rateLimited with
    | some limited => exact Serves.pure (refused limited rfl)
    | none => exact serves

theorem adminRoute_behaves
    (resolves : resolveBaseConfig platform.toLowerCase
      (demoConfigInput env none) = .ok base) (request : AdminRequest) :
    Async.Behaves AdminSound (AdminGuarantee platform database request)
      (fun outcome => ∃ response, outcome = .ok response ∧
        Answers platform database env request response)
      (adminRoute platform database env request) := by
  cases request with
  | get clientKey =>
      exact guarded_behaves resolves clientKey
        (listedEntries_serves resolves .get)
  | post clientKey body =>
      exact guarded_behaves resolves clientKey
        (postBody_serves resolves clientKey body)
  | delete clientKey body =>
      exact guarded_behaves resolves clientKey
        (deleteBody_serves resolves clientKey body)

/-- The contract of the route. -/
def adminContract
    (resolves : resolveBaseConfig platform.toLowerCase
      (demoConfigInput env none) = .ok base) :
    (adminMachine platform database env).Contract where
  invariant := AdminSound
  guarantee := AdminGuarantee platform database
  answers := fun request outcome => ∃ response, outcome = .ok response ∧
    Answers platform database env request response
  reflexive := fun _ => AdminGuarantee.refl
  keeps := fun _ _ _ sound change => RowChange.valid change sound
  serves := adminRoute_behaves resolves
  environment := by
    intro event state sound
    cases event with
    | tick now => exact sound
    | database outage => exact sound

end Requests

/-- The table and the requests of one moment: the rows are valid, so the
configuration can be built, no event does more than its request may, and every
request that has ended has answered. -/
structure SafePool (platform : Platform) (database : Database) (env : Env)
    (pool : Pool AdminRequest AdminState JsString AdminResponse) : Prop where
  rows : ValidRows pool.state.rows
  builds : ∃ config, buildVaultAdminConfigFromEnv platform.toLowerCase
    (demoConfigInput env (some pool.state.rows)) = .ok config
  changes : ∀ event : PoolEvent AdminRequest AdminEvent,
    match pool.actor event with
    | some request => RowChange platform database pool.state.rows request
        ((adminMachine platform database env).step pool event).state.rows
    | none => ((adminMachine platform database env).step pool event).state.rows =
        pool.state.rows
  answered : ∀ request outcome, (request, .done outcome) ∈ pool.tasks →
    ∃ response, outcome = .ok response ∧
      Answers platform database env request response

/-- Where the environment's own configuration resolves and the table starts
with valid rows, the overrides stay valid in every run of interleaved requests,
and the requests answer from them. -/
theorem admin_overrides_safe {platform : Platform} {database : Database}
    {env : Env} {base : VaultAdminConfig}
    (resolves : resolveBaseConfig platform.toLowerCase
      (demoConfigInput env none) = .ok base)
    {state : AdminState} (valid : ValidRows state.rows)
    (events : List (PoolEvent AdminRequest AdminEvent)) :
    SafePool platform database env
      ((adminMachine platform database env).run (Pool.initial state)
        events) := by
  let contract := @adminContract platform database env base resolves
  have holds := contract.run_holds (contract.holds_initial valid) events
  refine
    { rows := holds.state
      builds := build_of_validRows resolves holds.state
      changes := ?_
      answered := fun _ _ ended => holds.answered _ ended }
  intro event
  have moves := (contract.step_holds holds event).1
  cases event with
  | start request => exact moves
  | environment occurrence =>
      rw [Machine.Contract.Moves] at moves
      simp only [Pool.actor, moves]
      cases occurrence <;> rfl
  | resume task =>
      simp only [Machine.Contract.Moves] at moves
      simp only [Pool.actor]
      cases found : ((adminMachine platform database env).run
        (Pool.initial state) events).tasks[task]? with
      | none =>
          rw [found] at moves
          exact congrArg AdminState.rows moves
      | some entry =>
          rw [found] at moves
          exact moves

/-- A database that takes every value and compares texts only. -/
def demoDatabase : Database where
  keyText := fun key =>
    match key with
    | .string text => .ok text
    | _ => .error (js "invalid input")
  refusal := fun _ => none
  outageMessage := fun _ => js "connection refused"

def emptyEnv : Env := fun _ => none

/-- A table without overrides, at time zero. -/
def newTable : AdminState :=
  { rows := .empty, buckets := .empty, now := 0, outage := none }

def minutesBody (minutes : ℚ) : JsValue :=
  .object [(js "key", .string (js "autoLockMinutes")),
    (js "value", .number (.finite minutes))]

/-- An admin sets the minutes while another one deletes them. -/
def twoAdmins : List (PoolEvent AdminRequest AdminEvent) :=
  [.start (.post (js "first") (.ok (minutesBody 30))),
    .start (.delete (js "second") (.ok (minutesBody 30))),
    .resume 0, .resume 1, .environment (.tick 5), .resume 0, .resume 0,
    .resume 1, .resume 0, .resume 1]

/-- Two admins at a new table. -/
theorem admin_overrides_safe_twoAdmins :
    SafePool (Reference.platform []) demoDatabase
      emptyEnv
      ((adminMachine (Reference.platform []) demoDatabase
        emptyEnv).run (Pool.initial newTable)
        twoAdmins) := by
  have resolves : resolveBaseConfig
      (Reference.platform []).toLowerCase
      (demoConfigInput emptyEnv none) = .ok _ := rfl
  have valid : ValidRows newTable.rows := by
    intro name value impossible
    cases impossible
  exact admin_overrides_safe resolves valid twoAdmins

end Admin

end VaultCore
