import VaultCore.RateLimit.UnlockLimiter
import VaultCore.RateLimit.WindowBound
import VaultCore.Async.Interleaving

/-!
# The budget of failing unlock attempts

Any number of failing attempts on one scope and action run against a limiter
of any past, interleaved with each other, with the clock, and with operations
on other keys.  An attempt is admitted exactly while fewer failures than the
maximum have been recorded in the window.  Attempts in flight are not reserved
against the maximum, so the number of invoked attempts exceeds the recorded
failures by those in flight.
-/

namespace VaultCore

namespace RateLimit

open JsNumber (plus minus)

/-- An attempt that suspends `suspensions` times and then fails with an error
other than a rate-limit error. -/
structure FailingAttempt where
  suspensions : Nat
  error : { error : VaultError // error.isVaultRateLimitError = false }

/-- The attempt, which is counted when it is invoked. -/
def FailingAttempt.program (call : FailingAttempt) :
    Async LimiterState VaultError Unit :=
  .sync
    (fun state => { state with attemptsInvoked := state.attemptsInvoked + 1 })
    fun _ => .suspendFor call.suspensions (.done (.error call.error.val))

/-- What the other users of the limiter and its clock do. -/
inductive LimiterEvent where
  | advance (elapsedMs : ℚ)
  | operate (operation : LimiterOperation)

/-- What an event does outside the calls. -/
def LimiterEvent.apply (config : VaultUnlockRateLimitConfig) :
    LimiterEvent → LimiterState → LimiterState
  | .advance elapsedMs, state =>
      { state with nowMs := state.nowMs + elapsedMs }
  | .operate operation, state =>
      { state with
        buckets := (perform (limiterConfig config)
          ⟨state.nowMs, operation⟩ state.buckets).2 }

/-- The environment's part of the claim: the clock does not go back and only
the other keys of `domain` are operated on. -/
def LimiterEvent.Admissible (key : JsString) (domain : List JsString) :
    LimiterEvent → Prop
  | .advance elapsedMs => 0 ≤ elapsedMs
  | .operate operation => operation.key ≠ key ∧ operation.key ∈ domain

abbrev UnlockPool := Pool FailingAttempt LimiterState VaultError Unit

abbrev UnlockEvent := PoolEvent FailingAttempt LimiterEvent

section Budget

variable (config : VaultUnlockRateLimitConfig) (scopeKey : JsString)
  (action : VaultUnlockRateLimitAction)

/-- Calls of one key and one action, run at once. -/
def unlockMachine :
    Machine FailingAttempt LimiterEvent LimiterState VaultError Unit :=
  { program := fun call =>
      withVaultUnlockRateLimit config scopeKey action call.program
    environment := LimiterEvent.apply config }

/-- Nothing has been started yet on a limiter that has served `past`. -/
def initialUnlockPool (past : List TimedOperation) (startMs : ℚ) :
    UnlockPool :=
  .initial
    { buckets := run (limiterConfig config) .empty past
      nowMs := startMs
      attemptsInvoked := 0 }

/-- The bucket of the window that the calls fall into. -/
def windowBucket (past : List TimedOperation) (startMs : ℚ) : BucketState :=
  currentBucket (limiterConfig config) (run (limiterConfig config) .empty past)
    (buildUnlockKey scopeKey action) startMs

end Budget

/-- A task whose attempt has failed. -/
def failed (task : FailingAttempt × Async LimiterState VaultError Unit) :
    Bool :=
  match task.2 with
  | .done (.error error) => !error.isVaultRateLimitError
  | _ => false

/-- Whether the call waits. -/
def inFlight (task : FailingAttempt × Async LimiterState VaultError Unit) :
    Bool :=
  task.2.isSuspended

def failures (pool : UnlockPool) : Nat := pool.tasks.countP failed

def attemptsInFlight (pool : UnlockPool) : Nat := pool.tasks.countP inFlight

/-- A program that was refused before its attempt was invoked. -/
def Refused (program : Async LimiterState VaultError Unit) : Prop :=
  ∃ message retryAfterMs resetAtMs,
    program =
      .done (.error (.vaultRateLimitError message retryAfterMs resetAtMs))

/-- A configuration whose lockout is at least as long as its window. -/
structure BudgetConfig (config : VaultUnlockRateLimitConfig) : Prop where
  oneFailure : 1 ≤ config.maxFailures
  window : 0 < config.failureWindowMs
  lockout : config.failureWindowMs ≤ config.lockoutMs

/-- The bucket after `recorded` failures in a window that began at
`startMs`. -/
structure Counted (config : VaultUnlockRateLimitConfig) (clock : Set ℚ)
    (startMs : ℚ) (recorded : Nat) (bucket : BucketState) : Prop where
  started : startMs ≤ bucket.windowStartMs
  below : (recorded : ℚ) < config.maxFailures →
    bucket.count = recorded ∧ bucket.lockedOutUntilMs = none
  full : config.maxFailures ≤ (recorded : ℚ) →
    ∃ lockoutEndMs, bucket.lockedOutUntilMs = some lockoutEndMs ∧
      ∀ later ∈ clock, lockoutEndMs ≤ later →
        config.failureWindowMs ≤ minus later startMs

/-- A reading before the window that began at `startMs` is over. -/
structure InWindow (config : VaultUnlockRateLimitConfig) (clock : Set ℚ)
    (startMs now : ℚ) : Prop where
  shown : now ∈ clock
  going : minus now startMs < config.failureWindowMs

/-- What the limiter holds for the key after `recorded` failures. -/
def Tracks (config : VaultUnlockRateLimitConfig) (clock : Set ℚ)
    (startMs : ℚ) (key : JsString) (recorded : Nat) (now : ℚ)
    (buckets : Buckets) : Prop :=
  Counted config clock startMs recorded
    (currentBucket (limiterConfig config) buckets key now)

section Counting

variable {config : VaultUnlockRateLimitConfig} {clock : Set ℚ}
  {startMs now : ℚ} {recorded : Nat} {bucket : BucketState}
  {buckets : Buckets} {key : JsString}

private theorem Counted.windowGoes
    (counted : Counted config clock startMs recorded bucket)
    (inWindow : InWindow config clock startMs now) :
    windowExpired bucket (limiterConfig config) now = false := by
  rw [windowExpired, decide_eq_false_iff_not, not_le]
  exact (JsNumber.minus_mono le_rfl counted.started).trans_lt inWindow.going

private theorem Counted.lockoutGoes
    (counted : Counted config clock startMs recorded bucket)
    (full : config.maxFailures ≤ (recorded : ℚ))
    (inWindow : InWindow config clock startMs now) :
    ∃ lockoutEndMs, bucket.lockedOutUntilMs = some lockoutEndMs ∧
      now < lockoutEndMs := by
  obtain ⟨lockoutEndMs, locked, late⟩ := counted.full full
  refine ⟨lockoutEndMs, locked, ?_⟩
  by_contra ended
  exact absurd inWindow.going
    (not_lt.mpr (late now inWindow.shown (not_lt.mp ended)))

private theorem Counted.refresh
    (counted : Counted config clock startMs recorded bucket)
    (inWindow : InWindow config clock startMs now) :
    refreshBucketIfExpired bucket (limiterConfig config) now = bucket := by
  have running : lockoutExpired bucket now = false := by
    rcases lt_or_ge (recorded : ℚ) config.maxFailures with below | full
    · simp [lockoutExpired, (counted.below below).2]
    · obtain ⟨lockoutEndMs, locked, late⟩ := counted.lockoutGoes full inWindow
      simp only [lockoutExpired, locked, decide_eq_false_iff_not, not_le]
      exact late
  simp [refreshBucketIfExpired, running, counted.windowGoes inWindow]

private theorem Counted.currentBucket
    (counted : Counted config clock startMs recorded bucket)
    (found : buckets.get? key = some bucket)
    (inWindow : InWindow config clock startMs now) :
    currentBucket (limiterConfig config) buckets key now = bucket := by
  have survives := prunable_of_current (counted.windowGoes inWindow)
  rw [currentBucket_of_some found survives, counted.refresh inWindow]

private theorem Counted.allowed_iff
    (counted : Counted config clock startMs recorded bucket)
    (inWindow : InWindow config clock startMs now) :
    (buildDecision bucket (limiterConfig config) now).allowed = true ↔
      (recorded : ℚ) < config.maxFailures := by
  rcases lt_or_ge (recorded : ℚ) config.maxFailures with below | full
  · obtain ⟨count, unlocked⟩ := counted.below below
    simp [buildDecision, unlocked, windowDecision, count, limiterConfig]
  · obtain ⟨lockoutEndMs, locked, running⟩ := counted.lockoutGoes full inWindow
    simp only [buildDecision, locked, running, ↓reduceIte, lockoutDecision,
      Bool.false_eq_true, false_iff, not_lt]
    exact full

private theorem counted_fresh (valid : BudgetConfig config)
    (later : startMs ≤ now) :
    Counted config clock startMs 0 (freshBucket now) where
  started := later
  below _ := ⟨rfl, rfl⟩
  full := by
    intro full
    have oneFailure := valid.oneFailure
    norm_num at full
    linarith

private theorem Counted.of_fresh
    (counted : Counted config clock startMs recorded (freshBucket now)) :
    recorded = 0 := by
  rcases lt_or_ge (recorded : ℚ) config.maxFailures with below | full
  · exact (counted.below below).1.symm
  · obtain ⟨lockoutEndMs, locked, -⟩ := counted.full full
    cases locked

private theorem Counted.countUse (valid : BudgetConfig config)
    (outlasts : LockoutOutlastsWindow (limiterConfig config) clock)
    (shown : now ∈ clock) (begun : startMs ≤ now)
    (counted : Counted config clock startMs recorded bucket)
    (below : (recorded : ℚ) < config.maxFailures) :
    Counted config clock startMs (recorded + 1)
      (countUse bucket (limiterConfig config) now) := by
  obtain ⟨count, unlocked⟩ := counted.below below
  have lockoutPositive : 0 < config.lockoutMs :=
    lt_of_lt_of_le valid.window valid.lockout
  have used : RateLimit.countUse bucket (limiterConfig config) now =
      if config.maxFailures ≤ ((recorded + 1 : ℕ) : ℚ) then
        { bucket with
          count := recorded + 1
          lockedOutUntilMs := some (plus now config.lockoutMs) }
      else { bucket with count := recorded + 1 } := by
    simp [RateLimit.countUse, limiterConfig, lockoutPositive, count]
  rw [used]
  by_cases full : config.maxFailures ≤ ((recorded + 1 : ℕ) : ℚ)
  · rw [if_pos full]
    refine ⟨counted.started, ?_, ?_⟩
    · intro stillBelow
      exact absurd full (not_le.mpr stillBelow)
    · intro _
      refine ⟨plus now config.lockoutMs, rfl, ?_⟩
      intro later laterShown ended
      have outlasted : config.failureWindowMs ≤ minus later now :=
        outlasts config.lockoutMs rfl lockoutPositive now shown later
          laterShown ended
      exact outlasted.trans (JsNumber.minus_mono le_rfl begun)
  · rw [if_neg full]
    refine ⟨counted.started, ?_, ?_⟩
    · intro _
      exact ⟨rfl, unlocked⟩
    · intro nowFull
      exact absurd nowFull full

private theorem Counted.full_succ
    (counted : Counted config clock startMs recorded bucket)
    (full : config.maxFailures ≤ (recorded : ℚ)) :
    Counted config clock startMs (recorded + 1) bucket where
  started := counted.started
  below := by
    intro below
    push_cast at below
    linarith
  full _ := counted.full full

private theorem Tracks.check
    (tracks : Tracks config clock startMs key recorded now buckets)
    (inWindow : InWindow config clock startMs now) :
    Tracks config clock startMs key recorded now
      (check (limiterConfig config) key now buckets).2 := by
  rw [Tracks, Counted.currentBucket tracks
    (check_get?_self (limiterConfig config) buckets key now) inWindow]
  exact tracks

private theorem Tracks.consume (valid : BudgetConfig config)
    (outlasts : LockoutOutlastsWindow (limiterConfig config) clock)
    (tracks : Tracks config clock startMs key recorded now buckets)
    (begun : startMs ≤ now) (inWindow : InWindow config clock startMs now) :
    Tracks config clock startMs key (recorded + 1) now
      (consume (limiterConfig config) key now buckets).2 := by
  rcases lt_or_ge (recorded : ℚ) config.maxFailures with below | full
  · have kept := consume_allowed
      ((Counted.allowed_iff tracks inWindow).mpr below)
    have counted := Counted.countUse valid outlasts inWindow.shown begun
      tracks below
    rw [Tracks, counted.currentBucket kept inWindow]
    exact counted
  · have refused : (buildDecision
        (RateLimit.currentBucket (limiterConfig config) buckets key now)
        (limiterConfig config) now).allowed = false := by
      rw [Bool.eq_false_iff]
      intro allowed
      exact absurd ((Counted.allowed_iff tracks inWindow).mp allowed)
        (not_lt.mpr full)
    rw [Tracks, Counted.currentBucket tracks (consume_refused refused).2
      inWindow]
    exact Counted.full_succ tracks full

private theorem Tracks.operate {domain : List JsString}
    {operation : LimiterOperation}
    (tracks : Tracks config clock startMs key recorded now buckets)
    (fits : Fits (limiterConfig config) domain buckets)
    (known : operation.key ∈ domain) (different : operation.key ≠ key) :
    Tracks config clock startMs key recorded now
      (perform (limiterConfig config) ⟨now, operation⟩ buckets).2 := by
  have unseen : SameFrom (limiterConfig config) now
      ((perform (limiterConfig config) ⟨now, operation⟩ buckets).2.get? key)
      (buckets.get? key) :=
    @get?_perform_other _ _ _ _ ⟨now, operation⟩ fits known (Ne.symm different)
  rw [Tracks, currentBucket_eq_bucketAlone] at tracks ⊢
  rw [bucketAlone, unseen now le_rfl]
  exact tracks

/-- Time that passes in the window changes nothing. -/
private theorem Tracks.advance (valid : BudgetConfig config) {later : ℚ}
    (tracks : Tracks config clock startMs key recorded now buckets)
    (begun : startMs ≤ now) (ordered : now ≤ later)
    (inWindow : InWindow config clock startMs later) :
    Tracks config clock startMs key recorded later buckets := by
  rw [Tracks, currentBucket_eq_bucketAlone] at tracks ⊢
  cases restarts : windowRestarts (limiterConfig config) (buckets.get? key)
      now with
  | true =>
      rw [bucketAlone_of_restart restarts] at tracks
      rw [bucketAlone_of_restart (windowRestarts_mono ordered restarts),
        tracks.of_fresh]
      exact counted_fresh valid (begun.trans ordered)
  | false =>
      obtain ⟨bucket, found, same⟩ := bucketAlone_of_going restarts
      rw [same] at tracks
      rw [← currentBucket_eq_bucketAlone, tracks.currentBucket found inWindow]
      exact tracks

end Counting

/-! ## The past -/

section Past

variable {config : VaultUnlockRateLimitConfig} {clock : Set ℚ}
  {past : List TimedOperation}

/-- The bucket counts the failures of its own window. -/
def CountsOwn (config : VaultUnlockRateLimitConfig) (clock : Set ℚ)
    (now : ℚ) (bucket : BucketState) : Prop :=
  bucket.windowStartMs ≤ now ∧
    Counted config clock bucket.windowStartMs bucket.count bucket

private theorem countsOwn_fresh (valid : BudgetConfig config) (now : ℚ) :
    CountsOwn config clock now (freshBucket now) :=
  ⟨le_rfl, counted_fresh valid le_rfl⟩

private theorem CountsOwn.countUse (valid : BudgetConfig config)
    (outlasts : LockoutOutlastsWindow (limiterConfig config) clock)
    {now : ℚ} (shown : now ∈ clock) {bucket : BucketState}
    (own : CountsOwn config clock now bucket)
    (allowed : (buildDecision bucket (limiterConfig config) now).allowed =
      true) :
    CountsOwn config clock now
      (countUse bucket (limiterConfig config) now) := by
  obtain ⟨begun, counted⟩ := own
  have below : (bucket.count : ℚ) < config.maxFailures :=
    count_lt_of_allowed allowed
  have next := Counted.countUse valid outlasts shown begun counted below
  rw [CountsOwn, countUse_windowStartMs, countUse_count]
  exact ⟨begun, next⟩

/-- The calls that a limiter has served, up to `startMs`. -/
structure Past (config : VaultUnlockRateLimitConfig) (clock : Set ℚ)
    (domain : List JsString) (past : List TimedOperation) (startMs : ℚ) :
    Prop where
  shown : ∀ call ∈ past, call.now ∈ clock
  ordered : past.Pairwise fun earlier later => earlier.now ≤ later.now
  earlier : ∀ call ∈ past, call.now ≤ startMs
  known : ∀ key ∈ callKeys past, key ∈ domain

private theorem everyBucket_countsOwn (valid : BudgetConfig config)
    (outlasts : LockoutOutlastsWindow (limiterConfig config) clock)
    {domain : List JsString} {startMs : ℚ}
    (served : Past config clock domain past startMs) :
    EveryBucket (CountsOwn config clock startMs)
      (run (limiterConfig config) .empty past) := by
  induction past using List.reverseRecOn generalizing startMs with
  | nil => exact EveryBucket.empty
  | append_singleton past call ih =>
      obtain ⟨pastOrdered, -, before⟩ := List.pairwise_append.mp served.ordered
      have earlier : Past config clock domain past call.now :=
        { shown := fun other member =>
            served.shown other (List.mem_append_left _ member)
          ordered := pastOrdered
          earlier := fun other member =>
            before other member call List.mem_cons_self
          known := fun key member => served.known key (by
            rw [callKeys, List.map_append]
            exact List.mem_append_left _ member) }
      have last : call ∈ past ++ [call] :=
        List.mem_append_right _ List.mem_cons_self
      have next := (ih earlier).perform (countsOwn_fresh valid call.now)
        (fun bucket => CountsOwn.countUse valid outlasts
          (served.shown call last)) call.operation
      rw [run_append]
      exact next.mono fun bucket own =>
        ⟨own.1.trans (served.earlier call last), own.2⟩

/-- Whatever a limiter has served, the bucket of the key counts the failures
of its window. -/
private theorem tracks_past (valid : BudgetConfig config)
    (outlasts : LockoutOutlastsWindow (limiterConfig config) clock)
    {domain : List JsString} {startMs : ℚ}
    (served : Past config clock domain past startMs) (scopeKey : JsString)
    (action : VaultUnlockRateLimitAction) :
    CountsOwn config clock startMs
      (windowBucket config scopeKey action past startMs) :=
  ((EveryBucket.filter (everyBucket_countsOwn valid outlasts served)
    _).getOrCreateBucket (countsOwn_fresh valid startMs)).1

end Past

section Proof

variable {config : VaultUnlockRateLimitConfig} {scopeKey : JsString}
  {action : VaultUnlockRateLimitAction}

/-- The rest of a call once its attempt has failed. -/
private def afterFailure (config : VaultUnlockRateLimitConfig)
    (scopeKey : JsString) (action : VaultUnlockRateLimitAction)
    (call : FailingAttempt) : Async LimiterState VaultError Unit :=
  .sync
    (fun state =>
      { state with
        buckets := (consume (limiterConfig config)
          (buildUnlockKey scopeKey action) state.nowMs state.buckets).2 })
    fun _ => .done (.error call.error.val)

private theorem attempt_eq (call : FailingAttempt) :
    ((Async.suspendFor call.suspensions
        (.done (.error call.error.val) :
          Async LimiterState VaultError Unit)).await >>= fun result => do
          Async.lift (recordVaultUnlockSuccess scopeKey action)
          return result).tryCatch
        (fun error => do
          if !error.isVaultRateLimitError then
            Async.lift (recordVaultUnlockFailure config scopeKey action)
          Async.throw error) =
      .suspendFor (call.suspensions + 1)
        (afterFailure config scopeKey action call) := by
  have recorded : (do
      if !call.error.val.isVaultRateLimitError then
        Async.lift (recordVaultUnlockFailure config scopeKey action)
      (Async.throw call.error.val : Async LimiterState VaultError Unit)) =
        afterFailure config scopeKey action call := by
    rw [call.error.property]
    rfl
  rw [Async.suspendFor_await, Async.suspendFor_bind,
    Async.suspendFor_tryCatch, ← Async.suspendFor_pause, ← recorded]
  rfl

/-- Starting a call runs it up to its refusal or into its attempt. -/
private theorem start_segment (call : FailingAttempt)
    (state : LimiterState) :
    ((unlockMachine config scopeKey action).program call).runSegment state =
      match assertVaultUnlockAllowed config scopeKey action state with
      | (.ok _, next) =>
          (.suspendFor (call.suspensions + 1)
              (afterFailure config scopeKey action call),
            { next with attemptsInvoked := next.attemptsInvoked + 1 })
      | (.error error, next) => (.done (.error error), next) := by
  have attempted := @attempt_eq config scopeKey action call
  have unfolded :
      ((unlockMachine config scopeKey action).program call).runSegment state =
        Async.runSegment
          (Async.done (assertVaultUnlockAllowed config scopeKey action state).1
            >>= fun _ => Async.sync
              (fun current => { current with
                attemptsInvoked := current.attemptsInvoked + 1 })
              fun _ => Async.suspendFor (call.suspensions + 1)
                (afterFailure config scopeKey action call))
          (assertVaultUnlockAllowed config scopeKey action state).2 := by
    rw [← attempted]
    rfl
  rw [unfolded]
  cases outcome : assertVaultUnlockAllowed config scopeKey action state with
  | mk result next =>
      cases result with
      | ok value => rfl
      | error error => rfl

/-- A call stands inside its attempt, or it has ended with an error. -/
private def Shaped (config : VaultUnlockRateLimitConfig)
    (scopeKey : JsString) (action : VaultUnlockRateLimitAction)
    (task : FailingAttempt × Async LimiterState VaultError Unit) : Prop :=
  (∃ count, task.2 = .suspendFor (count + 1)
      (afterFailure config scopeKey action task.1)) ∨
    ∃ error, task.2 = .done (.error error)

/-- What holds in every state of a run inside the window that began at
`startMs` and has recorded `base` failures before the run. -/
private structure BudgetHolds (config : VaultUnlockRateLimitConfig)
    (scopeKey : JsString) (action : VaultUnlockRateLimitAction)
    (clock : Set ℚ) (startMs : ℚ) (base : Nat) (domain : List JsString)
    (pool : UnlockPool) : Prop where
  fits : Fits (limiterConfig config) domain pool.state.buckets
  begun : startMs ≤ pool.state.nowMs
  tracks : Tracks config clock startMs (buildUnlockKey scopeKey action)
    (base + failures pool) pool.state.nowMs pool.state.buckets
  invoked : pool.state.attemptsInvoked = failures pool + attemptsInFlight pool
  shaped : ∀ task ∈ pool.tasks, Shaped config scopeKey action task

variable {clock : Set ℚ} {startMs : ℚ} {base : Nat} {domain : List JsString}
  {pool : UnlockPool}

private theorem fits_check {key : JsString} {now : ℚ} {buckets : Buckets}
    (fits : Fits (limiterConfig config) domain buckets)
    (known : key ∈ domain) :
    Fits (limiterConfig config) domain
      (check (limiterConfig config) key now buckets).2 :=
  @Fits.perform _ _ _ ⟨now, .check key⟩ fits known

private theorem fits_consume {key : JsString} {now : ℚ} {buckets : Buckets}
    (fits : Fits (limiterConfig config) domain buckets)
    (known : key ∈ domain) :
    Fits (limiterConfig config) domain
      (consume (limiterConfig config) key now buckets).2 :=
  @Fits.perform _ _ _ ⟨now, .consume key⟩ fits known

private theorem BudgetHolds.admits
    (holds : BudgetHolds config scopeKey action clock startMs base domain pool)
    (known : buildUnlockKey scopeKey action ∈ domain)
    (inWindow : InWindow config clock startMs pool.state.nowMs)
    (call : FailingAttempt) :
    BudgetHolds config scopeKey action clock startMs base domain
      { state := { pool.state with
          buckets := (check (limiterConfig config)
            (buildUnlockKey scopeKey action) pool.state.nowMs
            pool.state.buckets).2
          attemptsInvoked := pool.state.attemptsInvoked + 1 }
        tasks := pool.tasks ++ [(call, .suspendFor (call.suspensions + 1)
          (afterFailure config scopeKey action call))] } where
  fits := fits_check holds.fits known
  begun := holds.begun
  tracks := by
    have tracked := holds.tracks.check inWindow
    simpa [failures, failed, Async.suspendFor] using tracked
  invoked := by
    simp only [holds.invoked, failures, attemptsInFlight, List.countP_append]
    simp [failed, inFlight, Async.suspendFor, Async.isSuspended, Nat.add_assoc]
  shaped := List.forall_mem_append.mpr ⟨holds.shaped,
    List.forall_mem_singleton.mpr (.inl ⟨call.suspensions, rfl⟩)⟩

private theorem BudgetHolds.refuses
    (holds : BudgetHolds config scopeKey action clock startMs base domain pool)
    (known : buildUnlockKey scopeKey action ∈ domain)
    (inWindow : InWindow config clock startMs pool.state.nowMs)
    (call : FailingAttempt) {error : VaultError}
    (limited : error.isVaultRateLimitError = true) :
    BudgetHolds config scopeKey action clock startMs base domain
      { state := { pool.state with
          buckets := (check (limiterConfig config)
            (buildUnlockKey scopeKey action) pool.state.nowMs
            pool.state.buckets).2 }
        tasks := pool.tasks ++ [(call, .done (.error error))] } where
  fits := fits_check holds.fits known
  begun := holds.begun
  tracks := by
    have tracked := holds.tracks.check inWindow
    simpa [failures, failed, limited] using tracked
  invoked := by
    simp only [holds.invoked, failures, attemptsInFlight, List.countP_append]
    simp [failed, inFlight, limited, Async.isSuspended]
  shaped := List.forall_mem_append.mpr ⟨holds.shaped,
    List.forall_mem_singleton.mpr (.inr ⟨error, rfl⟩)⟩

/-- A call is admitted exactly below the maximum of recorded failures, and a
refused call has not invoked its attempt. -/
private theorem start_step
    (known : buildUnlockKey scopeKey action ∈ domain)
    (holds : BudgetHolds config scopeKey action clock startMs base domain pool)
    (inWindow : InWindow config clock startMs pool.state.nowMs)
    (call : FailingAttempt) :
    BudgetHolds config scopeKey action clock startMs base domain
        ((unlockMachine config scopeKey action).step pool (.start call)) ∧
      failures ((unlockMachine config scopeKey action).step pool
        (.start call)) = failures pool ∧
      (((base + failures pool : ℕ) : ℚ) < config.maxFailures →
        ((unlockMachine config scopeKey action).step pool
          (.start call)).state.attemptsInvoked =
            pool.state.attemptsInvoked + 1) ∧
      (config.maxFailures ≤ ((base + failures pool : ℕ) : ℚ) →
        ((unlockMachine config scopeKey action).step pool
          (.start call)).state.attemptsInvoked =
            pool.state.attemptsInvoked ∧
        ∃ program, Refused program ∧
          ((unlockMachine config scopeKey action).step pool
            (.start call)).tasks = pool.tasks ++ [(call, program)]) := by
  let key := buildUnlockKey scopeKey action
  let checked := check (limiterConfig config) key pool.state.nowMs
    pool.state.buckets
  have admits : checked.1.allowed = true ↔
      ((base + failures pool : ℕ) : ℚ) < config.maxFailures :=
    Counted.allowed_iff holds.tracks inWindow
  rcases lt_or_ge ((base + failures pool : ℕ) : ℚ) config.maxFailures with
    below | full
  · have admitted : assertVaultUnlockAllowed config scopeKey action
        pool.state = (.ok (), { pool.state with buckets := checked.2 }) := by
      simp only [assertVaultUnlockAllowed]
      rw [if_pos (admits.mpr below)]
    have stepped : (unlockMachine config scopeKey action).step pool
        (.start call) =
          { state := { pool.state with
              buckets := checked.2
              attemptsInvoked := pool.state.attemptsInvoked + 1 }
            tasks := pool.tasks ++ [(call, .suspendFor (call.suspensions + 1)
              (afterFailure config scopeKey action call))] } := by
      simp only [Machine.step, start_segment, admitted]
    rw [stepped]
    refine ⟨holds.admits known inWindow call, ?_, fun _ => rfl, ?_⟩
    · simp [failures, failed, Async.suspendFor]
    · intro full
      exact absurd below (not_lt.mpr full)
  · have refused : ¬ checked.1.allowed = true := by
      intro allowed
      exact absurd (admits.mp allowed) (not_lt.mpr full)
    let error : VaultError := .vaultRateLimitError
      (formatUnlockRateLimitMessage checked.1.retryAfterMs)
      checked.1.retryAfterMs checked.1.resetAtMs
    have denied : assertVaultUnlockAllowed config scopeKey action
        pool.state =
          (.error error, { pool.state with buckets := checked.2 }) := by
      simp only [assertVaultUnlockAllowed]
      rw [if_neg refused]
    have stepped : (unlockMachine config scopeKey action).step pool
        (.start call) =
          { state := { pool.state with buckets := checked.2 }
            tasks := pool.tasks ++ [(call, .done (.error error))] } := by
      simp only [Machine.step, start_segment, denied]
    have limited : error.isVaultRateLimitError = true := rfl
    rw [stepped]
    refine ⟨holds.refuses known inWindow call limited, ?_, ?_, ?_⟩
    · simp [failures, failed, limited]
    · intro below
      exact absurd below (not_lt.mpr full)
    · intro _
      exact ⟨rfl, _, ⟨_, _, _, rfl⟩, rfl⟩

section Resumed

variable {call : FailingAttempt}
  {before after : List (FailingAttempt × Async LimiterState VaultError Unit)}

private theorem shaped_replaced
    {old new : Async LimiterState VaultError Unit}
    (holds : BudgetHolds config scopeKey action clock startMs base domain pool)
    (split : pool.tasks = before ++ (call, old) :: after)
    (shaped : Shaped config scopeKey action (call, new)) :
    ∀ task ∈ before ++ (call, new) :: after,
      Shaped config scopeKey action task := by
  have every := holds.shaped
  rw [split, List.forall_mem_append, List.forall_mem_cons] at every
  exact List.forall_mem_append.mpr
    ⟨every.1, List.forall_mem_cons.mpr ⟨shaped, every.2.2⟩⟩

private theorem BudgetHolds.fails (valid : BudgetConfig config)
    (outlasts : LockoutOutlastsWindow (limiterConfig config) clock)
    (known : buildUnlockKey scopeKey action ∈ domain)
    (holds : BudgetHolds config scopeKey action clock startMs base domain pool)
    (inWindow : InWindow config clock startMs pool.state.nowMs)
    (split : pool.tasks = before ++ (call, .suspendFor 1
      (afterFailure config scopeKey action call)) :: after) :
    BudgetHolds config scopeKey action clock startMs base domain
      { state := { pool.state with
          buckets := (consume (limiterConfig config)
            (buildUnlockKey scopeKey action) pool.state.nowMs
            pool.state.buckets).2 }
        tasks := before ++ (call, .done (.error call.error.val)) :: after } where
  fits := fits_consume holds.fits known
  begun := holds.begun
  tracks := by
    have tracked := holds.tracks.consume valid outlasts holds.begun inWindow
    simpa [failures, split, failed, call.error.property, Async.suspendFor,
      Nat.add_assoc] using tracked
  invoked := by
    have counted := holds.invoked
    simp only [failures, attemptsInFlight, split, List.countP_append,
      List.countP_cons, failed, inFlight, call.error.property,
      Async.suspendFor, Async.isSuspended, Bool.not_false, ↓reduceIte,
      Bool.false_eq_true] at counted ⊢
    omega
  shaped := shaped_replaced holds split (.inr ⟨_, rfl⟩)

private theorem BudgetHolds.waits {count : Nat}
    (holds : BudgetHolds config scopeKey action clock startMs base domain pool)
    (split : pool.tasks = before ++ (call, .suspendFor (count + 2)
      (afterFailure config scopeKey action call)) :: after) :
    BudgetHolds config scopeKey action clock startMs base domain
      { pool with
        tasks := before ++ (call, .suspendFor (count + 1)
          (afterFailure config scopeKey action call)) :: after } where
  fits := holds.fits
  begun := holds.begun
  tracks := by
    have tracked := holds.tracks
    simpa [failures, split, failed, Async.suspendFor] using tracked
  invoked := by
    have counted := holds.invoked
    simpa [failures, attemptsInFlight, split, List.countP_cons, failed,
      inFlight, Async.suspendFor, Async.isSuspended] using counted
  shaped := shaped_replaced holds split (.inl ⟨count, rfl⟩)

end Resumed

/-- Resuming a call keeps it inside its attempt or records its failure. -/
private theorem resume_step (valid : BudgetConfig config)
    (outlasts : LockoutOutlastsWindow (limiterConfig config) clock)
    (known : buildUnlockKey scopeKey action ∈ domain)
    (holds : BudgetHolds config scopeKey action clock startMs base domain pool)
    (inWindow : InWindow config clock startMs pool.state.nowMs)
    (task : Nat) :
    BudgetHolds config scopeKey action clock startMs base domain
        ((unlockMachine config scopeKey action).step pool (.resume task)) ∧
      ((unlockMachine config scopeKey action).step pool
        (.resume task)).state.attemptsInvoked =
          pool.state.attemptsInvoked := by
  cases found : pool.tasks[task]? with
  | none =>
      rw [Machine.step_resume_none _ found]
      exact ⟨holds, rfl⟩
  | some entry =>
      obtain ⟨call, program⟩ := entry
      obtain ⟨before, after, split, stepped⟩ :=
        (unlockMachine config scopeKey action).step_resume_some found
      rw [stepped]
      rcases holds.shaped _ (List.mem_of_getElem? found) with
        ⟨count, standing⟩ | ⟨error, ended⟩
      · simp only at standing
        subst standing
        cases count with
        | zero =>
            exact ⟨holds.fails valid outlasts known inWindow split, rfl⟩
        | succ count => exact ⟨holds.waits split, rfl⟩
      · simp only at ended
        subst ended
        simp only [Async.wake, Async.runSegment, ← split, and_true]
        exact holds

private theorem environment_step (valid : BudgetConfig config)
    (holds : BudgetHolds config scopeKey action clock startMs base domain pool)
    {event : LimiterEvent}
    (admissible : event.Admissible (buildUnlockKey scopeKey action) domain)
    (inWindow : InWindow config clock startMs
      ((unlockMachine config scopeKey action).step pool
        (.environment event)).state.nowMs) :
    BudgetHolds config scopeKey action clock startMs base domain
        ((unlockMachine config scopeKey action).step pool
          (.environment event)) ∧
      ((unlockMachine config scopeKey action).step pool
        (.environment event)).state.attemptsInvoked =
          pool.state.attemptsInvoked := by
  cases event with
  | advance elapsedMs =>
      have forward : pool.state.nowMs ≤ pool.state.nowMs + elapsedMs :=
        le_add_of_nonneg_right admissible
      exact ⟨⟨holds.fits, holds.begun.trans forward,
        holds.tracks.advance valid holds.begun forward inWindow,
        holds.invoked, holds.shaped⟩, rfl⟩
  | operate operation =>
      obtain ⟨different, known⟩ := admissible
      refine ⟨⟨?_, holds.begun, ?_, holds.invoked, holds.shaped⟩, rfl⟩
      · exact holds.fits.perform known
      · exact holds.tracks.operate holds.fits known different

/-- An event of an admissible run invokes no attempt, or it does so below the
maximum of recorded failures. -/
private theorem budget_step (valid : BudgetConfig config)
    (outlasts : LockoutOutlastsWindow (limiterConfig config) clock)
    (known : buildUnlockKey scopeKey action ∈ domain)
    (holds : BudgetHolds config scopeKey action clock startMs base domain pool)
    (inWindow : InWindow config clock startMs pool.state.nowMs)
    (event : UnlockEvent)
    (admissible : ∀ occurrence, event = .environment occurrence →
      occurrence.Admissible (buildUnlockKey scopeKey action) domain)
    (inWindowNext : InWindow config clock startMs
      ((unlockMachine config scopeKey action).step pool event).state.nowMs) :
    BudgetHolds config scopeKey action clock startMs base domain
        ((unlockMachine config scopeKey action).step pool event) ∧
      (((unlockMachine config scopeKey action).step pool
          event).state.attemptsInvoked = pool.state.attemptsInvoked ∨
        ((base + failures ((unlockMachine config scopeKey action).step pool
          event) : ℕ) : ℚ) < config.maxFailures) := by
  cases event with
  | start call =>
      obtain ⟨next, sameFailures, _, refused⟩ :=
        start_step known holds inWindow call
      refine ⟨next, ?_⟩
      rcases lt_or_ge ((base + failures pool : ℕ) : ℚ) config.maxFailures with
        below | full
      · right
        rw [sameFailures]
        exact below
      · exact .inl (refused full).1
  | resume task =>
      obtain ⟨next, same⟩ :=
        resume_step valid outlasts known holds inWindow task
      exact ⟨next, .inl same⟩
  | environment occurrence =>
      obtain ⟨next, same⟩ :=
        environment_step valid holds (admissible occurrence rfl) inWindowNext
      exact ⟨next, .inl same⟩

end Proof

/-- The runs the budget is about: after any past of the limiter, inside one
window of the key, with the clock going forward and all keys within the
limiter's capacity. -/
structure BudgetRun (config : VaultUnlockRateLimitConfig)
    (scopeKey : JsString) (action : VaultUnlockRateLimitAction)
    (clock : Set ℚ) (past : List TimedOperation) (startMs : ℚ)
    (domain : List JsString) (events : List UnlockEvent) : Prop where
  served : Past config clock domain past startMs
  known : buildUnlockKey scopeKey action ∈ domain
  capacity : (domain.toFinset.card : ℚ) ≤ maxBuckets (limiterConfig config)
  admissible : ∀ occurrence, .environment occurrence ∈ events →
    occurrence.Admissible (buildUnlockKey scopeKey action) domain
  oneWindow : ∀ earlier, earlier <+: events →
    InWindow config clock
      (windowBucket config scopeKey action past startMs).windowStartMs
      ((unlockMachine config scopeKey action).run
        (initialUnlockPool config past startMs) earlier).state.nowMs

namespace BudgetRun

variable {config : VaultUnlockRateLimitConfig} {scopeKey : JsString}
  {action : VaultUnlockRateLimitAction} {clock : Set ℚ}
  {past : List TimedOperation} {startMs : ℚ} {domain : List JsString}
  {events : List UnlockEvent}

theorem of_prefix {earlier : List UnlockEvent}
    (run : BudgetRun config scopeKey action clock past startMs domain events)
    (initial : earlier <+: events) :
    BudgetRun config scopeKey action clock past startMs domain earlier where
  served := run.served
  known := run.known
  capacity := run.capacity
  admissible occurrence member :=
    run.admissible occurrence (initial.subset member)
  oneWindow first start := run.oneWindow first (start.trans initial)

private theorem admissible_last {event : UnlockEvent}
    (run : BudgetRun config scopeKey action clock past startMs domain
      (events ++ [event])) :
    ∀ occurrence, event = .environment occurrence →
      occurrence.Admissible (buildUnlockKey scopeKey action) domain := by
  intro occurrence same
  apply run.admissible
  rw [same]
  exact List.mem_append_right _ List.mem_cons_self

private theorem holds (valid : BudgetConfig config)
    (outlasts : LockoutOutlastsWindow (limiterConfig config) clock)
    (run : BudgetRun config scopeKey action clock past startMs domain events) :
    BudgetHolds config scopeKey action clock
      (windowBucket config scopeKey action past startMs).windowStartMs
      (windowBucket config scopeKey action past startMs).count domain
      ((unlockMachine config scopeKey action).run
        (initialUnlockPool config past startMs) events) := by
  induction events using List.reverseRecOn with
  | nil =>
      obtain ⟨begun, counted⟩ :=
        tracks_past valid outlasts run.served scopeKey action
      have start : Fits (limiterConfig config) domain (.empty : Buckets) :=
        { capacity := run.capacity, within := by simp }
      exact
        { fits := start.run run.served.known
          begun := begun
          tracks := counted
          invoked := rfl
          shaped := by simp [initialUnlockPool, Pool.initial] }
  | append_singleton earlier event ih =>
      have earlierPrefix : earlier <+: earlier ++ [event] :=
        List.prefix_append _ _
      have earlierRun := run.of_prefix earlierPrefix
      have inWindowNext := run.oneWindow _ (List.prefix_refl _)
      rw [Machine.run_append] at inWindowNext ⊢
      exact (budget_step valid outlasts run.known (ih earlierRun)
        (run.oneWindow earlier earlierPrefix) event run.admissible_last
        inWindowNext).1

/-- The number of invoked attempts stays within what is left of the maximum,
rounded up, and the attempts in flight besides one. -/
private theorem invoked_le (valid : BudgetConfig config)
    (outlasts : LockoutOutlastsWindow (limiterConfig config) clock)
    (run : BudgetRun config scopeKey action clock past startMs domain events)
    {extra : Nat}
    (concurrency : ∀ earlier, earlier <+: events →
      attemptsInFlight ((unlockMachine config scopeKey action).run
        (initialUnlockPool config past startMs) earlier) ≤ extra + 1) :
    ((unlockMachine config scopeKey action).run
        (initialUnlockPool config past startMs) events).state.attemptsInvoked ≤
      ⌈config.maxFailures⌉₊ -
        (windowBucket config scopeKey action past startMs).count + extra := by
  induction events using List.reverseRecOn with
  | nil => exact Nat.zero_le _
  | append_singleton earlier event ih =>
      have earlierPrefix : earlier <+: earlier ++ [event] :=
        List.prefix_append _ _
      have earlierRun := run.of_prefix earlierPrefix
      have before := ih earlierRun fun first start =>
        concurrency first (start.trans earlierPrefix)
      have inWindowNext := run.oneWindow _ (List.prefix_refl _)
      have atMost := concurrency _ (List.prefix_refl (earlier ++ [event]))
      rw [Machine.run_append, Machine.run_cons, Machine.run_nil]
        at inWindowNext atMost ⊢
      obtain ⟨next, effect⟩ := budget_step valid outlasts run.known
        (earlierRun.holds valid outlasts) (run.oneWindow earlier earlierPrefix)
        event run.admissible_last inWindowNext
      rcases effect with same | below
      · rw [same]
        exact before
      · have room := Nat.lt_ceil.mpr below
        rw [next.invoked]
        omega

end BudgetRun

/-- After any past of the limiter, an attempt is invoked exactly while fewer
failures than the maximum have been recorded in the window, every other call
is refused without invoking it, and where at most one attempt more than
`extra` is in flight at any time, at most the maximum, rounded up, less the
failures of the past, and `extra` attempts are invoked. -/
theorem unlock_attempts_bounded {config : VaultUnlockRateLimitConfig}
    {scopeKey : JsString} {action : VaultUnlockRateLimitAction}
    {clock : Set ℚ} {past : List TimedOperation} {startMs : ℚ}
    {domain : List JsString} {events : List UnlockEvent}
    (valid : BudgetConfig config)
    (outlasts : LockoutOutlastsWindow (limiterConfig config) clock)
    (run : BudgetRun config scopeKey action clock past startMs domain events) :
    let base := (windowBucket config scopeKey action past startMs).count
    let start := initialUnlockPool config past startMs
    (∀ earlier call, earlier ++ [.start call] <+: events →
      let pool := (unlockMachine config scopeKey action).run start earlier
      let next := (unlockMachine config scopeKey action).step pool
        (.start call)
      let recorded : ℕ := base + failures pool
      ((recorded : ℚ) < config.maxFailures →
        next.state.attemptsInvoked = pool.state.attemptsInvoked + 1) ∧
      (config.maxFailures ≤ (recorded : ℚ) →
        next.state.attemptsInvoked = pool.state.attemptsInvoked ∧
          ∃ program, Refused program ∧
            next.tasks = pool.tasks ++ [(call, program)])) ∧
    ∀ extra : ℕ,
      (∀ earlier, earlier <+: events →
        attemptsInFlight ((unlockMachine config scopeKey action).run start
          earlier) ≤ extra + 1) →
      ((unlockMachine config scopeKey action).run start
        events).state.attemptsInvoked ≤
          ⌈config.maxFailures⌉₊ - base + extra := by
  intro base start
  constructor
  · intro earlier call initial
    have earlierPrefix : earlier <+: events :=
      (List.prefix_append _ _).trans initial
    have earlierRun := run.of_prefix earlierPrefix
    obtain ⟨_, _, admitted, refused⟩ := start_step run.known
      (earlierRun.holds valid outlasts) (run.oneWindow earlier earlierPrefix)
      call
    exact ⟨admitted, refused⟩
  · intro extra concurrency
    exact run.invoked_le valid outlasts concurrency

def oneFailureConfig : VaultUnlockRateLimitConfig :=
  { maxFailures := 1, failureWindowMs := 1000, lockoutMs := 1000 }

def wrongPassword : FailingAttempt :=
  { suspensions := 1
    error := ⟨.vaultAuthorizationError "Current vault password is incorrect",
      rfl⟩ }

/-- Two calls whose attempts overlap. -/
def overlapping : List UnlockEvent :=
  [.start wrongPassword, .start wrongPassword]

theorem oneFailureConfig_valid : BudgetConfig oneFailureConfig where
  oneFailure := by decide +kernel
  window := by decide +kernel
  lockout := by decide +kernel

/-- The clock shows whole milliseconds. -/
def wholeClock : Set ℚ := { now | JsNumber.SafeInteger now }

theorem oneFailureConfig_outlasts :
    LockoutOutlastsWindow (limiterConfig oneFailureConfig) wholeClock := by
  apply lockoutOutlastsWindow_of_whole safeInteger_thousand _ fun _ shown => shown
  rintro lockoutMs ⟨⟩ _
  exact ⟨safeInteger_thousand, le_rfl⟩

theorem prefix_overlapping {earlier : List UnlockEvent}
    (initial : earlier <+: overlapping) :
    earlier = [] ∨ earlier = [.start wrongPassword] ∨
      earlier = overlapping := by
  simpa [overlapping, List.inits] using
    (List.mem_inits earlier overlapping).mpr initial

theorem overlapping_run :
    BudgetRun oneFailureConfig (js "user") .password wholeClock [] 0
      [buildUnlockKey (js "user") .password] overlapping where
  served :=
    { shown := by simp
      ordered := List.Pairwise.nil
      earlier := by simp
      known := by simp [callKeys] }
  known := List.mem_cons_self
  capacity := by decide +kernel
  admissible := by
    intro occurrence member
    simp [overlapping] at member
  oneWindow := by
    intro earlier initial
    have stands : ((unlockMachine oneFailureConfig (js "user") .password).run
        (initialUnlockPool oneFailureConfig [] 0) earlier).state.nowMs = 0 := by
      rcases prefix_overlapping initial with rfl | rfl | rfl
      · rfl
      · decide +kernel
      · decide +kernel
    rw [stands]
    exact
      { shown := @JsNumber.safeInteger_intCast 0 (by decide)
        going := by decide +kernel }

theorem unlock_attempts_bounded_overlapping :
    ((unlockMachine oneFailureConfig (js "user") .password).run
        (initialUnlockPool oneFailureConfig [] 0)
        overlapping).state.attemptsInvoked ≤
      ⌈oneFailureConfig.maxFailures⌉₊ -
        (windowBucket oneFailureConfig (js "user") .password [] 0).count +
          1 := by
  apply (unlock_attempts_bounded oneFailureConfig_valid
    oneFailureConfig_outlasts overlapping_run).2
  intro earlier initial
  rcases prefix_overlapping initial with rfl | rfl | rfl
  · decide +kernel
  · decide +kernel
  · decide +kernel

/-- With a maximum of one failure, two overlapping calls both invoke their
attempt. -/
theorem overlapping_attempts_exceed_maximum :
    BudgetConfig oneFailureConfig ∧
      BudgetRun oneFailureConfig (js "user") .password wholeClock [] 0
        [buildUnlockKey (js "user") .password] overlapping ∧
      oneFailureConfig.maxFailures <
        (((unlockMachine oneFailureConfig (js "user") .password).run
          (initialUnlockPool oneFailureConfig [] 0)
          overlapping).state.attemptsInvoked : ℚ) :=
  ⟨oneFailureConfig_valid, overlapping_run, by decide +kernel⟩

end RateLimit

end VaultCore
