import VaultCore.Data.OrderedMap
import VaultCore.Text.Rounding

/-!
# The fixed-window rate limiter

A limiter holds one bucket a key, in the order in which the keys were first
seen.  `check` and `consume` prune idle buckets, find or create the bucket of
their key, refresh it, and decide.  Times and bounds are finite numbers, and
every sum and difference of them is rounded as the language rounds it.
-/

namespace VaultCore

namespace RateLimit

open JsNumber (plus minus)

/-- The window of a key: its start, its count and a lockout. -/
structure BucketState where
  windowStartMs : ℚ
  count : Nat
  lockedOutUntilMs : Option ℚ
deriving DecidableEq

/-- The bounds that a limiter is created with. -/
structure FixedWindowRateLimitConfig where
  max : ℚ
  windowMs : ℚ
  lockoutMs : Option ℚ := none
  maxBuckets : Option ℚ := none

structure RateLimitDecision where
  allowed : Bool
  remaining : ℚ
  resetAtMs : ℚ
  retryAfterMs : ℚ
  lockedOut : Bool
deriving DecidableEq

/-- The buckets of a limiter, in the order they were made. -/
abbrev Buckets := OrderedMap JsString BucketState

def defaultRateLimitMaxBuckets : ℚ := 10000

/-- The bound on the number of buckets. -/
def maxBuckets (config : FixedWindowRateLimitConfig) : ℚ :=
  config.maxBuckets.getD defaultRateLimitMaxBuckets

/-- The refusal of a lockout that runs. -/
def lockoutDecision (lockedOutUntilMs now : ℚ) : RateLimitDecision :=
  { allowed := false
    remaining := 0
    resetAtMs := lockedOutUntilMs
    retryAfterMs := minus lockedOutUntilMs now
    lockedOut := true }

/-- The decision by the count of the window. -/
def windowDecision (bucket : BucketState)
    (config : FixedWindowRateLimitConfig) (now : ℚ) : RateLimitDecision :=
  let windowEndMs := plus bucket.windowStartMs config.windowMs
  let remaining := Max.max 0 (minus config.max bucket.count)
  let allowed := decide ((bucket.count : ℚ) < config.max)
  { allowed := allowed
    remaining := if allowed then remaining else 0
    resetAtMs := windowEndMs
    retryAfterMs := if allowed then 0 else minus windowEndMs now
    lockedOut := false }

/-- The lockout decides while it runs, else the window does. -/
def buildDecision (bucket : BucketState)
    (config : FixedWindowRateLimitConfig) (now : ℚ) : RateLimitDecision :=
  match bucket.lockedOutUntilMs with
  | some lockedOutUntilMs =>
      if now < lockedOutUntilMs then lockoutDecision lockedOutUntilMs now
      else windowDecision bucket config now
  | none => windowDecision bucket config now

/-- A bucket whose window starts now. -/
def freshBucket (now : ℚ) : BucketState :=
  { windowStartMs := now, count := 0, lockedOutUntilMs := none }

/-- Whether there was a lockout and it is over. -/
def lockoutExpired (bucket : BucketState) (now : ℚ) : Bool :=
  match bucket.lockedOutUntilMs with
  | some lockedOutUntilMs => decide (lockedOutUntilMs ≤ now)
  | none => false

def windowExpired (bucket : BucketState)
    (config : FixedWindowRateLimitConfig) (now : ℚ) : Bool :=
  decide (config.windowMs ≤ minus now bucket.windowStartMs)

/-- A bucket that is over is replaced by a fresh one. -/
def refreshBucketIfExpired (bucket : BucketState)
    (config : FixedWindowRateLimitConfig) (now : ℚ) : BucketState :=
  if lockoutExpired bucket now then freshBucket now
  else if windowExpired bucket config now then freshBucket now
  else bucket

/-- `!bucket.lockedOutUntilMs`: absent, or the falsy number zero. -/
def lockoutFalsy (bucket : BucketState) : Bool :=
  bucket.lockedOutUntilMs == none || bucket.lockedOutUntilMs == some 0

def prunable (bucket : BucketState) (config : FixedWindowRateLimitConfig)
    (now : ℚ) : Bool :=
  (lockoutExpired bucket now && windowExpired bucket config now &&
      bucket.count == 0) ||
    (lockoutFalsy bucket && windowExpired bucket config now &&
      bucket.count == 0)

/-- The buckets that are not over yet. -/
def pruneExpired (buckets : Buckets) (config : FixedWindowRateLimitConfig)
    (now : ℚ) : Buckets :=
  buckets.filter fun _ bucket => !prunable bucket config now

/-- The first entry with the least window start. -/
def oldestEntry : List (JsString × BucketState) →
    Option (JsString × ℚ) → Option (JsString × ℚ)
  | [], oldest => oldest
  | (key, bucket) :: rest, none =>
      oldestEntry rest (some (key, bucket.windowStartMs))
  | (key, bucket) :: rest, some (oldestKey, oldestStart) =>
      if bucket.windowStartMs < oldestStart then
        oldestEntry rest (some (key, bucket.windowStartMs))
      else oldestEntry rest (some (oldestKey, oldestStart))

/-- The empty key is falsy, so a bucket under it is never evicted. -/
def evictOldestBucket (buckets : Buckets) : Buckets :=
  match oldestEntry buckets.entries none with
  | some (key, _) => if key = [] then buckets else buckets.delete key
  | none => buckets

/-- The bucket of a key, and the map that holds it. -/
def getOrCreateBucket (buckets : Buckets)
    (config : FixedWindowRateLimitConfig) (key : JsString) (now : ℚ) :
    BucketState × Buckets :=
  match buckets.get? key with
  | none =>
      let pruned := pruneExpired buckets config now
      let room :=
        if maxBuckets config ≤ (pruned.size : ℚ) then evictOldestBucket pruned
        else pruned
      (freshBucket now, room.set key (freshBucket now))
  | some bucket =>
      let refreshed := refreshBucketIfExpired bucket config now
      (refreshed, buckets.set key refreshed)

/-- The decision about a key, without counting a use. -/
def check (config : FixedWindowRateLimitConfig) (key : JsString) (now : ℚ)
    (buckets : Buckets) : RateLimitDecision × Buckets :=
  let found := getOrCreateBucket (pruneExpired buckets config now) config key now
  (buildDecision found.1 config now, found.2)

/-- The bucket after one more use. -/
def countUse (bucket : BucketState) (config : FixedWindowRateLimitConfig)
    (now : ℚ) : BucketState :=
  let count := bucket.count + 1
  match config.lockoutMs with
  | some lockoutMs =>
      if config.max ≤ (count : ℚ) ∧ 0 < lockoutMs then
        { bucket with
          count := count
          lockedOutUntilMs := some (plus now lockoutMs) }
      else { bucket with count := count }
  | none => { bucket with count := count }

/-- Count a use of the key, unless it is refused. -/
def consume (config : FixedWindowRateLimitConfig) (key : JsString) (now : ℚ)
    (buckets : Buckets) : RateLimitDecision × Buckets :=
  let found := getOrCreateBucket (pruneExpired buckets config now) config key now
  let before := buildDecision found.1 config now
  if before.allowed then
    let used := countUse found.1 config now
    ({ buildDecision used config now with allowed := true },
      found.2.set key used)
  else (before, found.2)

def reset (key : JsString) (buckets : Buckets) : Buckets :=
  buckets.delete key

/-- The operations a limiter exposes. -/
inductive LimiterOperation where
  | check (key : JsString)
  | consume (key : JsString)
  | reset (key : JsString)
deriving DecidableEq

namespace LimiterOperation

def key : LimiterOperation → JsString
  | .check key => key
  | .consume key => key
  | .reset key => key

/-- Whether the operation returns a decision about the key. -/
def Decides (operation : LimiterOperation) (key : JsString) : Prop :=
  operation = .check key ∨ operation = .consume key

end LimiterOperation

/-- An operation called when the limiter's clock shows `now`. -/
structure TimedOperation where
  now : ℚ
  operation : LimiterOperation

/-- One operation of the limiter, with its decision. -/
def perform (config : FixedWindowRateLimitConfig) (call : TimedOperation)
    (buckets : Buckets) : Option RateLimitDecision × Buckets :=
  match call.operation with
  | .check key =>
      let outcome := check config key call.now buckets
      (some outcome.1, outcome.2)
  | .consume key =>
      let outcome := consume config key call.now buckets
      (some outcome.1, outcome.2)
  | .reset key => (none, reset key buckets)

def run (config : FixedWindowRateLimitConfig) (buckets : Buckets)
    (calls : List TimedOperation) : Buckets :=
  calls.foldl (fun current call => (perform config call current).2) buckets

@[simp] theorem run_nil (config : FixedWindowRateLimitConfig)
    (buckets : Buckets) : run config buckets [] = buckets := rfl

@[simp] theorem run_cons (config : FixedWindowRateLimitConfig)
    (buckets : Buckets) (call : TimedOperation)
    (calls : List TimedOperation) :
    run config buckets (call :: calls) =
      run config (perform config call buckets).2 calls := rfl

theorem run_append (config : FixedWindowRateLimitConfig) (buckets : Buckets)
    (first second : List TimedOperation) :
    run config buckets (first ++ second) =
      run config (run config buckets first) second :=
  List.foldl_append

theorem count_lt_of_allowed {bucket : BucketState}
    {config : FixedWindowRateLimitConfig} {now : ℚ}
    (allowed : (buildDecision bucket config now).allowed = true) :
    (bucket.count : ℚ) < config.max := by
  cases locked : bucket.lockedOutUntilMs with
  | none => simpa [buildDecision, locked, windowDecision] using allowed
  | some lockoutEndMs =>
      simp only [buildDecision, locked] at allowed
      split at allowed
      · cases allowed
      · simpa [windowDecision] using allowed

@[simp] theorem countUse_windowStartMs (bucket : BucketState)
    (config : FixedWindowRateLimitConfig) (now : ℚ) :
    (countUse bucket config now).windowStartMs = bucket.windowStartMs := by
  rw [countUse]
  split
  · split
    · rfl
    · rfl
  · rfl

@[simp] theorem countUse_count (bucket : BucketState)
    (config : FixedWindowRateLimitConfig) (now : ℚ) :
    (countUse bucket config now).count = bucket.count + 1 := by
  rw [countUse]
  split
  · split
    · rfl
    · rfl
  · rfl

theorem prunable_of_used {bucket : BucketState}
    (used : bucket.count ≠ 0) (config : FixedWindowRateLimitConfig) (now : ℚ) :
    prunable bucket config now = false := by
  simp [prunable, used]

theorem prunable_of_current {bucket : BucketState}
    {config : FixedWindowRateLimitConfig} {now : ℚ}
    (current : windowExpired bucket config now = false) :
    prunable bucket config now = false := by
  simp [prunable, current]

theorem pruneExpired_keeps {config : FixedWindowRateLimitConfig}
    {now : ℚ} {buckets : Buckets} {key : JsString} {bucket : BucketState}
    (found : buckets.get? key = some bucket)
    (survives : prunable bucket config now = false) :
    (pruneExpired buckets config now).get? key = some bucket := by
  apply OrderedMap.get?_filter_of_keep found
  simp [survives]

theorem getOrCreateBucket_of_some {config : FixedWindowRateLimitConfig}
    {now : ℚ} {buckets : Buckets} {key : JsString} {bucket : BucketState}
    (found : buckets.get? key = some bucket) :
    getOrCreateBucket buckets config key now =
      (refreshBucketIfExpired bucket config now,
        buckets.set key (refreshBucketIfExpired bucket config now)) := by
  simp [getOrCreateBucket, found]

theorem getOrCreateBucket_of_none {config : FixedWindowRateLimitConfig}
    {now : ℚ} {buckets : Buckets} {key : JsString}
    (absent : buckets.get? key = none)
    (room : ((pruneExpired buckets config now).size : ℚ) < maxBuckets config) :
    getOrCreateBucket buckets config key now =
      (freshBucket now,
        (pruneExpired buckets config now).set key (freshBucket now)) := by
  simp only [getOrCreateBucket, absent, if_neg (not_le.mpr room)]

theorem mem_keys_pruneExpired {config : FixedWindowRateLimitConfig} {now : ℚ}
    {buckets : Buckets} {key : JsString}
    (member : key ∈ (pruneExpired buckets config now).keys) :
    key ∈ buckets.keys :=
  OrderedMap.mem_keys_of_filter member

theorem mem_keys_evictOldestBucket {buckets : Buckets} {key : JsString}
    (member : key ∈ (evictOldestBucket buckets).keys) :
    key ∈ buckets.keys := by
  unfold evictOldestBucket at member
  split at member
  · split at member
    · exact member
    · exact OrderedMap.mem_keys_of_filter member
  · exact member

theorem mem_keys_getOrCreateBucket {config : FixedWindowRateLimitConfig}
    {now : ℚ} {buckets : Buckets} {key other : JsString}
    (member : other ∈ (getOrCreateBucket buckets config key now).2.keys) :
    other = key ∨ other ∈ buckets.keys := by
  cases found : buckets.get? key with
  | some bucket =>
      rw [getOrCreateBucket_of_some found] at member
      exact OrderedMap.mem_keys_set.mp member
  | none =>
      simp only [getOrCreateBucket, found] at member
      rcases OrderedMap.mem_keys_set.mp member with same | roomMember
      · exact .inl same
      · right
        split at roomMember
        · exact mem_keys_pruneExpired (mem_keys_evictOldestBucket roomMember)
        · exact mem_keys_pruneExpired roomMember

theorem mem_keys_check {config : FixedWindowRateLimitConfig} {now : ℚ}
    {buckets : Buckets} {key other : JsString}
    (member : other ∈ (check config key now buckets).2.keys) :
    other = key ∨ other ∈ (pruneExpired buckets config now).keys :=
  mem_keys_getOrCreateBucket member

theorem mem_keys_consume {config : FixedWindowRateLimitConfig} {now : ℚ}
    {buckets : Buckets} {key other : JsString}
    (member : other ∈ (consume config key now buckets).2.keys) :
    other = key ∨ other ∈ (pruneExpired buckets config now).keys := by
  simp only [consume] at member
  split at member
  · rcases OrderedMap.mem_keys_set.mp member with same | found
    · exact .inl same
    · exact mem_keys_getOrCreateBucket found
  · exact mem_keys_getOrCreateBucket member

theorem mem_keys_perform {config : FixedWindowRateLimitConfig}
    {call : TimedOperation} {buckets : Buckets} {key : JsString}
    (member : key ∈ (perform config call buckets).2.keys) :
    key = call.operation.key ∨ key ∈ buckets.keys := by
  obtain ⟨now, operation⟩ := call
  cases operation with
  | check target =>
      rcases mem_keys_check member with same | earlier
      · exact .inl same
      · exact .inr (mem_keys_pruneExpired earlier)
  | consume target =>
      rcases mem_keys_consume member with same | earlier
      · exact .inl same
      · exact .inr (mem_keys_pruneExpired earlier)
  | reset target => exact .inr (OrderedMap.mem_keys_of_filter member)

/-! ## What holds of every bucket -/

/-- Every bucket of the map satisfies a property. -/
def EveryBucket (property : BucketState → Prop) (buckets : Buckets) : Prop :=
  ∀ key bucket, buckets.get? key = some bucket → property bucket

namespace EveryBucket

variable {property : BucketState → Prop} {buckets : Buckets}
  {config : FixedWindowRateLimitConfig} {key : JsString} {now : ℚ}

theorem empty : EveryBucket property .empty := by
  intro key bucket found
  rw [OrderedMap.get?_empty] at found
  cases found

theorem mono {weaker : BucketState → Prop}
    (every : EveryBucket property buckets)
    (implies : ∀ bucket, property bucket → weaker bucket) :
    EveryBucket weaker buckets :=
  fun key bucket found => implies bucket (every key bucket found)

theorem filter (every : EveryBucket property buckets)
    (keep : JsString → BucketState → Bool) :
    EveryBucket property (buckets.filter keep) :=
  fun key bucket found => every key bucket (OrderedMap.get?_of_filter found)

theorem set {bucket : BucketState} (every : EveryBucket property buckets)
    (holds : property bucket) (key : JsString) :
    EveryBucket property (buckets.set key bucket) := by
  intro other held found
  by_cases same : other = key
  · rw [same, OrderedMap.get?_set_self] at found
    rw [← Option.some.inj found]
    exact holds
  · rw [OrderedMap.get?_set_of_ne _ same] at found
    exact every other held found

theorem evictOldestBucket (every : EveryBucket property buckets) :
    EveryBucket property (evictOldestBucket buckets) := by
  rw [RateLimit.evictOldestBucket]
  split
  · split
    · exact every
    · exact every.filter _
  · exact every

theorem getOrCreateBucket (every : EveryBucket property buckets)
    (fresh : property (freshBucket now)) :
    property (getOrCreateBucket buckets config key now).1 ∧
      EveryBucket property (getOrCreateBucket buckets config key now).2 := by
  cases held : buckets.get? key with
  | some bucket =>
      have refreshed : property (refreshBucketIfExpired bucket config now) := by
        rw [refreshBucketIfExpired]
        split
        · exact fresh
        · split
          · exact fresh
          · exact every key bucket held
      rw [getOrCreateBucket_of_some held]
      exact ⟨refreshed, every.set refreshed key⟩
  | none =>
      simp only [RateLimit.getOrCreateBucket, held]
      refine ⟨fresh, EveryBucket.set ?_ fresh key⟩
      split
      · exact (every.filter _).evictOldestBucket
      · exact every.filter _

/-- A call keeps what holds of new buckets and is kept by a counted use. -/
theorem perform (every : EveryBucket property buckets)
    (fresh : property (freshBucket now))
    (used : ∀ bucket, property bucket →
      (buildDecision bucket config now).allowed = true →
        property (countUse bucket config now))
    (operation : LimiterOperation) :
    EveryBucket property (perform config ⟨now, operation⟩ buckets).2 := by
  cases operation with
  | check key => exact ((every.filter _).getOrCreateBucket fresh).2
  | consume key =>
      obtain ⟨current, next⟩ :=
        @EveryBucket.getOrCreateBucket _ _ config key now (every.filter _) fresh
      simp only [RateLimit.perform, consume]
      split
      · rename_i allowed
        exact next.set (used _ current allowed) key
      · exact next
  | reset key => exact every.filter _

end EveryBucket

/-- The keys of a list of calls. -/
def callKeys (calls : List TimedOperation) : List JsString :=
  calls.map fun call => call.operation.key

theorem mem_keys_run {config : FixedWindowRateLimitConfig}
    {buckets : Buckets} {calls : List TimedOperation} {key : JsString}
    (member : key ∈ (run config buckets calls).keys) :
    key ∈ callKeys calls ∨ key ∈ buckets.keys := by
  induction calls generalizing buckets with
  | nil => exact .inr member
  | cons call calls ih =>
      rw [run_cons] at member
      rcases ih member with later | earlier
      · exact .inl (List.mem_cons_of_mem _ later)
      · rcases mem_keys_perform earlier with same | held
        · exact .inl (by simp [callKeys, same])
        · exact .inr held

/-- The limiter holds only keys of `domain`, and all of `domain` fits into it
at once. -/
structure Fits (config : FixedWindowRateLimitConfig)
    (domain : List JsString) (buckets : Buckets) : Prop where
  capacity : (domain.toFinset.card : ℚ) ≤ maxBuckets config
  within : ∀ key ∈ buckets.keys, key ∈ domain

theorem Fits.pruneExpired {config : FixedWindowRateLimitConfig}
    {domain : List JsString} {buckets : Buckets}
    (fits : Fits config domain buckets) (now : ℚ) :
    Fits config domain (pruneExpired buckets config now) :=
  { capacity := fits.capacity
    within := fun key member =>
      fits.within key (mem_keys_pruneExpired member) }

theorem Fits.perform {config : FixedWindowRateLimitConfig}
    {domain : List JsString} {buckets : Buckets} {call : TimedOperation}
    (fits : Fits config domain buckets)
    (known : call.operation.key ∈ domain) :
    Fits config domain (perform config call buckets).2 where
  capacity := fits.capacity
  within := by
    intro key member
    rcases mem_keys_perform member with same | held
    · rw [same]
      exact known
    · exact fits.within key held

theorem Fits.run {config : FixedWindowRateLimitConfig}
    {domain : List JsString} {buckets : Buckets}
    {calls : List TimedOperation} (fits : Fits config domain buckets)
    (known : ∀ key ∈ callKeys calls, key ∈ domain) :
    Fits config domain (run config buckets calls) where
  capacity := fits.capacity
  within := by
    intro key member
    rcases mem_keys_run member with called | held
    · exact known key called
    · exact fits.within key held

theorem Fits.size_lt {config : FixedWindowRateLimitConfig}
    {domain : List JsString} {buckets : Buckets} {key : JsString}
    (fits : Fits config domain buckets) (known : key ∈ domain)
    (absent : buckets.get? key = none) :
    (buckets.size : ℚ) < maxBuckets config := by
  have smaller := OrderedMap.size_lt_of_absent fits.within
    (OrderedMap.get?_eq_none_iff.mp absent) known
  calc
    (buckets.size : ℚ) < (domain.toFinset.card : ℚ) := by
      exact_mod_cast smaller
    _ ≤ maxBuckets config := fits.capacity

section

variable {config : FixedWindowRateLimitConfig} {now : ℚ} {buckets : Buckets}
  {domain : List JsString} {key other : JsString} {bucket : BucketState}

theorem getOrCreateBucket_of_fits (fits : Fits config domain buckets)
    (known : key ∈ domain) (absent : buckets.get? key = none) :
    getOrCreateBucket buckets config key now =
      (freshBucket now,
        (pruneExpired buckets config now).set key (freshBucket now)) := by
  apply getOrCreateBucket_of_none absent
  apply (fits.pruneExpired now).size_lt known
  exact OrderedMap.get?_filter_of_none absent

/-- Within its capacity, finding or creating the bucket of one key leaves
every bucket of another key that survives pruning. -/
theorem getOrCreateBucket_other (fits : Fits config domain buckets)
    (known : key ∈ domain) (different : other ≠ key)
    (found : buckets.get? other = some bucket)
    (survives : prunable bucket config now = false) :
    (getOrCreateBucket (pruneExpired buckets config now)
      config key now).2.get? other = some bucket := by
  have kept := pruneExpired_keeps found survives
  cases held : (pruneExpired buckets config now).get? key with
  | some current =>
      rw [getOrCreateBucket_of_some held, OrderedMap.get?_set_of_ne _ different]
      exact kept
  | none =>
      rw [getOrCreateBucket_of_fits (fits.pruneExpired now) known held,
        OrderedMap.get?_set_of_ne _ different]
      exact pruneExpired_keeps kept survives

/-- Within its capacity, a call on one key leaves every bucket of another key
that survives pruning. -/
theorem perform_other {call : TimedOperation}
    (fits : Fits config domain buckets)
    (known : call.operation.key ∈ domain)
    (different : other ≠ call.operation.key)
    (found : buckets.get? other = some bucket)
    (survives : prunable bucket config call.now = false) :
    (perform config call buckets).2.get? other = some bucket := by
  obtain ⟨now, operation⟩ := call
  cases operation with
  | check target =>
      exact getOrCreateBucket_other fits known different found survives
  | consume target =>
      have kept := getOrCreateBucket_other fits known different found survives
      simp only [perform, consume]
      split
      · exact (OrderedMap.get?_set_of_ne _ different _).trans kept
      · exact kept
  | reset target =>
      exact (OrderedMap.get?_delete_of_ne _ different).trans found

/-- The bucket on which a `check` or `consume` of the key decides. -/
def currentBucket (config : FixedWindowRateLimitConfig) (buckets : Buckets)
    (key : JsString) (now : ℚ) : BucketState :=
  (getOrCreateBucket (pruneExpired buckets config now) config key now).1

theorem currentBucket_of_some (found : buckets.get? key = some bucket)
    (survives : prunable bucket config now = false) :
    currentBucket config buckets key now =
      refreshBucketIfExpired bucket config now := by
  rw [currentBucket, getOrCreateBucket_of_some (pruneExpired_keeps found survives)]

private theorem getOrCreateBucket_get?_self :
    (getOrCreateBucket buckets config key now).2.get? key =
      some (getOrCreateBucket buckets config key now).1 := by
  cases held : buckets.get? key with
  | some current => rw [getOrCreateBucket_of_some held, OrderedMap.get?_set_self]
  | none => simp [getOrCreateBucket, held]

theorem check_decision (config : FixedWindowRateLimitConfig)
    (buckets : Buckets) (key : JsString) (now : ℚ) :
    (check config key now buckets).1 =
      buildDecision (currentBucket config buckets key now) config now := rfl

theorem check_get?_self (config : FixedWindowRateLimitConfig)
    (buckets : Buckets) (key : JsString) (now : ℚ) :
    (check config key now buckets).2.get? key =
      some (currentBucket config buckets key now) :=
  getOrCreateBucket_get?_self

theorem consume_allowed
    (allowed : (buildDecision (currentBucket config buckets key now)
      config now).allowed = true) :
    (consume config key now buckets).2.get? key =
      some (countUse (currentBucket config buckets key now) config now) := by
  rw [currentBucket] at allowed ⊢
  simp only [consume, if_pos allowed]
  exact OrderedMap.get?_set_self _ _ _

theorem consume_refused
    (refused : (buildDecision (currentBucket config buckets key now)
      config now).allowed = false) :
    (consume config key now buckets).1 =
        buildDecision (currentBucket config buckets key now) config now ∧
      (consume config key now buckets).2.get? key =
        some (currentBucket config buckets key now) := by
  have notAllowed : ¬ (buildDecision (currentBucket config buckets key now)
      config now).allowed = true := by simp [refused]
  rw [currentBucket] at notAllowed ⊢
  constructor
  · simp only [consume, if_neg notAllowed]
  · simp only [consume, if_neg notAllowed]
    exact getOrCreateBucket_get?_self

end

end RateLimit

end VaultCore
