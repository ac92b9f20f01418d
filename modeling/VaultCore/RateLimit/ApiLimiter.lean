import VaultCore.Admin.TypeSafety
import VaultCore.RateLimit.FixedWindow
import VaultCore.Text.NumberText
import Mathlib.Algebra.Order.Floor.Semiring
import Mathlib.Data.List.Pairwise
import Mathlib.Data.Rat.Floor
import Mathlib.Tactic.Linarith

/-!
# The limiter of the API

Routes count the requests of a client under its namespace and refuse a
request with the time to wait.  This limiter sets no lockouts, so a refusal
leaves a full bucket whose window ends when the refusal says, and nothing
before that time moves the end.  Its windows are whole seconds and its clock
shows whole milliseconds, so that its sums and differences are exact.
-/

namespace VaultCore

namespace RateLimit

open Admin (VaultAdminConfig VaultAdminConfigInput)
open JsNumber (SafeInteger minus plus)

/-- How many requests a client may send in a window. -/
structure VaultApiRateLimitConfig where
  maxRequests : ℚ
  windowMs : ℚ
deriving DecidableEq

/-- The limiter that `createVaultApiRateLimiter` creates is its configuration
and the buckets of a run. -/
def createVaultApiRateLimiter (config : VaultApiRateLimitConfig) :
    FixedWindowRateLimitConfig :=
  { max := config.maxRequests, windowMs := config.windowMs }

/-- The two settings are numbers in every configuration that is built. -/
def createVaultApiRateLimiterFromAdminConfig (config : VaultAdminConfig) :
    Option VaultApiRateLimitConfig :=
  match config.rateLimit.apiMaxRequests,
      config.rateLimit.apiWindowSeconds with
  | .number (.finite maxRequests), .number (.finite windowSeconds) =>
      some
        { maxRequests := maxRequests
          windowMs := JsNumber.times windowSeconds 1000 }
  | _, _ => none

/-- The key of a client in a namespace. -/
def buildApiKey (apiNamespace clientKey : JsString) : JsString :=
  apiNamespace ++ js ":" ++ clientKey

/-- A request of a client when the clock shows `now`. -/
structure ApiRequest where
  now : ℚ
  apiNamespace : JsString
  clientKey : JsString

namespace ApiRequest

/-- The key that the request is counted under. -/
def key (request : ApiRequest) : JsString :=
  buildApiKey request.apiNamespace request.clientKey

/-- Two requests of one client in one namespace. -/
def SameClient (first second : ApiRequest) : Prop :=
  first.apiNamespace = second.apiNamespace ∧
    first.clientKey = second.clientKey

def separator : UInt16 := 58

/-- The separator does not occur in the namespace. -/
def Plain (request : ApiRequest) : Prop :=
  separator ∉ request.apiNamespace

instance (request : ApiRequest) : Decidable request.Plain :=
  inferInstanceAs (Decidable (¬ _))

instance (first second : ApiRequest) : Decidable (first.SameClient second) :=
  inferInstanceAs (Decidable (_ ∧ _))

/-- The request as an operation of the limiter. -/
def call (request : ApiRequest) : TimedOperation :=
  { now := request.now, operation := .consume request.key }

end ApiRequest

def consumeVaultApiRateLimit (config : VaultApiRateLimitConfig)
    (request : ApiRequest) (buckets : Buckets) :
    RateLimitDecision × Buckets :=
  consume (createVaultApiRateLimiter config) request.key request.now buckets

/-- The buckets after some requests to a new limiter. -/
def afterRequests (config : VaultApiRateLimitConfig)
    (requests : List ApiRequest) : Buckets :=
  requests.foldl
    (fun buckets request => (consumeVaultApiRateLimit config request buckets).2)
    .empty

/-- The seconds of the header. -/
def retryAfterSeconds (decision : RateLimitDecision) : Nat :=
  Max.max 1 ⌈JsNumber.quotient decision.retryAfterMs 1000⌉₊

/-- The body that a refused client reads. -/
structure VaultRateLimitHttpBody where
  error : JsString
  retryAfterMs : ℚ
  resetAtMs : ℚ

/-- The response of a refusal, with the header that names the wait. -/
structure VaultRateLimitHttpResponse where
  status : Nat
  retryAfter : JsString
  body : VaultRateLimitHttpBody

/-- The response that a refusal is answered with. -/
def buildVaultRateLimitHttpResponse (decision : RateLimitDecision) :
    VaultRateLimitHttpResponse :=
  { status := 429
    retryAfter := JsNumber.digitsText (retryAfterSeconds decision)
    body :=
      { error := js "Too many requests"
        retryAfterMs := decision.retryAfterMs
        resetAtMs := decision.resetAtMs } }

/-! ## Times -/

/-- The largest time value. -/
def maxTimeMs : Nat := 8640000000000000

/-- What `Date.now()` shows: whole milliseconds since 1970. -/
def TimeValue (now : ℚ) : Prop := ∃ ms : ℕ, ms ≤ maxTimeMs ∧ now = ms

/-- A window of at most an hour in whole milliseconds. -/
def WindowLength (windowMs : ℚ) : Prop :=
  ∃ ms : ℕ, ms ≤ 3600 * 1000 ∧ windowMs = ms

section Times

variable {now start windowMs : ℚ}

theorem TimeValue.safe (shown : TimeValue now) : SafeInteger now := by
  obtain ⟨ms, most, rfl⟩ := shown
  refine ⟨ms, ?_, rfl⟩
  rw [maxTimeMs] at most
  rw [Nat.abs_cast]
  omega

theorem WindowLength.safe (window : WindowLength windowMs) :
    SafeInteger windowMs := by
  obtain ⟨ms, most, rfl⟩ := window
  refine ⟨ms, ?_, rfl⟩
  rw [Nat.abs_cast]
  omega

theorem windowEnd_exact (started : TimeValue start)
    (window : WindowLength windowMs) :
    plus start windowMs = start + windowMs := by
  obtain ⟨startMs, startMost, rfl⟩ := started
  obtain ⟨ms, most, rfl⟩ := window
  rw [maxTimeMs] at startMost
  have sum : SafeInteger ((startMs : ℚ) + ms) := by
    refine ⟨(startMs + ms : ℕ), ?_, by push_cast; rfl⟩
    rw [Nat.abs_cast]
    omega
  exact JsNumber.rounded_safeInteger sum

theorem retryAfter_exact (started : TimeValue start)
    (window : WindowLength windowMs) (shown : TimeValue now) :
    minus (start + windowMs) now = start + windowMs - now := by
  obtain ⟨startMs, startMost, rfl⟩ := started
  obtain ⟨ms, most, rfl⟩ := window
  obtain ⟨nowMs, nowMost, rfl⟩ := shown
  rw [maxTimeMs] at startMost nowMost
  have difference : SafeInteger ((startMs : ℚ) + ms - nowMs) := by
    refine ⟨startMs + ms - nowMs, ?_, by push_cast; rfl⟩
    rw [abs_lt]
    omega
  exact JsNumber.rounded_safeInteger difference

end Times

/-! ## Limiters without lockouts -/

section Lockless

variable {config : FixedWindowRateLimitConfig} {buckets : Buckets}
  {key : JsString} {now : ℚ}

/-- No key is locked out, and all windows have begun at times of the clock. -/
def Unlocked (buckets : Buckets) : Prop :=
  EveryBucket
    (fun bucket =>
      bucket.lockedOutUntilMs = none ∧ TimeValue bucket.windowStartMs)
    buckets

theorem Unlocked.currentBucket (unlocked : Unlocked buckets)
    (shown : TimeValue now) :
    (currentBucket config buckets key now).lockedOutUntilMs = none ∧
      TimeValue (currentBucket config buckets key now).windowStartMs :=
  ((EveryBucket.filter unlocked _).getOrCreateBucket ⟨rfl, shown⟩).1

theorem Unlocked.consume (unlocked : Unlocked buckets)
    (lockless : config.lockoutMs = none) (shown : TimeValue now) :
    Unlocked (consume config key now buckets).2 := by
  apply @EveryBucket.perform _ _ config now unlocked ⟨rfl, shown⟩ _
    (.consume key)
  rintro bucket ⟨free, started⟩ _
  simp only [countUse, lockless]
  exact ⟨free, started⟩

theorem windowExpired_iff {bucket : BucketState}
    (window : WindowLength config.windowMs)
    (started : TimeValue bucket.windowStartMs) (shown : TimeValue now) :
    windowExpired bucket config now =
      decide (bucket.windowStartMs + config.windowMs ≤ now) := by
  rw [windowExpired, decide_eq_decide,
    JsNumber.le_minus_iff window.safe shown.safe started.safe,
    le_sub_iff_add_le, add_comm]

/-- A bucket in use is one whose window goes on. -/
theorem currentBucket_current
    (used : (currentBucket config buckets key now).count ≠ 0) :
    windowExpired (currentBucket config buckets key now) config now =
      false := by
  rw [currentBucket] at used ⊢
  cases held : (pruneExpired buckets config now).get? key with
  | none =>
      simp only [getOrCreateBucket, held] at used
      exact absurd rfl used
  | some bucket =>
      rw [getOrCreateBucket_of_some held] at used ⊢
      simp only [refreshBucketIfExpired] at used ⊢
      split at used
      · exact absurd rfl used
      · split at used
        · exact absurd rfl used
        · rename_i notOver notExpired
          rw [if_neg notOver, if_neg notExpired]
          exact Bool.eq_false_iff.mpr notExpired

/-- A bucket that refuses until its window ends. -/
structure FullBucket (config : FixedWindowRateLimitConfig) (resetAtMs : ℚ)
    (bucket : BucketState) : Prop where
  window : WindowLength config.windowMs
  started : TimeValue bucket.windowStartMs
  used : bucket.count ≠ 0
  full : config.max ≤ bucket.count
  free : bucket.lockedOutUntilMs = none
  ends : bucket.windowStartMs + config.windowMs = resetAtMs

/-- What a refusal says about a key whose window ends at `resetAtMs`. -/
def refusal (resetAtMs now : ℚ) : RateLimitDecision :=
  { allowed := false
    remaining := 0
    resetAtMs := resetAtMs
    retryAfterMs := resetAtMs - now
    lockedOut := false }

namespace FullBucket

variable {bucket : BucketState} {resetAtMs : ℚ}

theorem decision (full : FullBucket config resetAtMs bucket)
    (shown : TimeValue now) :
    buildDecision bucket config now = refusal resetAtMs now := by
  have stopped : ¬ (bucket.count : ℚ) < config.max := not_lt.mpr full.full
  have wait := retryAfter_exact full.started full.window shown
  rw [full.ends] at wait
  simp only [buildDecision, full.free, windowDecision, stopped,
    windowEnd_exact full.started full.window, full.ends, wait,
    decide_false, Bool.false_eq_true, ↓reduceIte, refusal]

theorem refresh (full : FullBucket config resetAtMs bucket)
    (shown : TimeValue now) :
    refreshBucketIfExpired bucket config now =
      if resetAtMs ≤ now then freshBucket now else bucket := by
  have notOver : lockoutExpired bucket now = false := by
    rw [lockoutExpired, full.free]
  simp only [refreshBucketIfExpired, notOver,
    windowExpired_iff full.window full.started shown, full.ends,
    Bool.false_eq_true, ↓reduceIte, decide_eq_true_eq]

theorem currentBucket (full : FullBucket config resetAtMs bucket)
    (found : buckets.get? key = some bucket) (shown : TimeValue now) :
    currentBucket config buckets key now =
      if resetAtMs ≤ now then freshBucket now else bucket := by
  rw [currentBucket_of_some found (prunable_of_used full.used config now),
    full.refresh shown]

theorem consume_before (full : FullBucket config resetAtMs bucket)
    (found : buckets.get? key = some bucket) (shown : TimeValue now)
    (early : now < resetAtMs) :
    (consume config key now buckets).1 = refusal resetAtMs now ∧
      (consume config key now buckets).2.get? key = some bucket := by
  have current := full.currentBucket found shown
  rw [if_neg (not_le.mpr early)] at current
  have refused : (buildDecision (RateLimit.currentBucket config buckets key
      now) config now).allowed = false := by
    rw [current, full.decision shown]
    rfl
  obtain ⟨decided, kept⟩ := consume_refused refused
  rw [current, full.decision shown] at decided
  rw [current] at kept
  exact ⟨decided, kept⟩

theorem consume_from (full : FullBucket config resetAtMs bucket)
    (found : buckets.get? key = some bucket) (admits : 0 < config.max)
    (shown : TimeValue now) (late : resetAtMs ≤ now) :
    (consume config key now buckets).1.allowed = true := by
  have current := full.currentBucket found shown
  rw [if_pos late, RateLimit.currentBucket] at current
  have allowed : (buildDecision (freshBucket now) config now).allowed =
      true := by
    simpa [buildDecision, freshBucket, windowDecision] using admits
  simp only [consume, current, allowed, ↓reduceIte]

end FullBucket

/-- A refusal leaves the bucket that it speaks of. -/
theorem refused_leaves (admits : 0 < config.max)
    (window : WindowLength config.windowMs) (unlocked : Unlocked buckets)
    (shown : TimeValue now)
    (refused : (consume config key now buckets).1.allowed = false) :
    ∃ bucket resetAtMs, FullBucket config resetAtMs bucket ∧
      now < resetAtMs ∧
      (consume config key now buckets).1 = refusal resetAtMs now ∧
      (consume config key now buckets).2.get? key = some bucket := by
  have stopped : (buildDecision (currentBucket config buckets key now)
      config now).allowed = false := by
    rw [Bool.eq_false_iff]
    intro allowed
    rw [currentBucket] at allowed
    simp only [consume, if_pos allowed] at refused
    cases refused
  obtain ⟨decided, kept⟩ := consume_refused stopped
  obtain ⟨free, started⟩ :=
    @Unlocked.currentBucket config _ key now unlocked shown
  have most : config.max ≤ (currentBucket config buckets key now).count := by
    simpa [buildDecision, free, windowDecision] using stopped
  have used : (currentBucket config buckets key now).count ≠ 0 := by
    intro unused
    rw [unused, Nat.cast_zero] at most
    exact absurd admits (not_lt.mpr most)
  have full : FullBucket config _ (currentBucket config buckets key now) :=
    { window := window
      started := started
      used := used
      full := most
      free := free
      ends := rfl }
  have running := currentBucket_current used
  rw [windowExpired_iff window started shown, decide_eq_false_iff_not,
    not_le] at running
  exact ⟨_, _, full, running, by rw [decided, full.decision shown], kept⟩

end Lockless

/-! ## Runs -/

section Runs

variable {config : VaultApiRateLimitConfig}

theorem afterRequests_eq_run (config : VaultApiRateLimitConfig)
    (requests : List ApiRequest) :
    afterRequests config requests =
      run (createVaultApiRateLimiter config) .empty
        (requests.map ApiRequest.call) := by
  rw [afterRequests, run, List.foldl_map]
  rfl

theorem afterRequests_append (config : VaultApiRateLimitConfig)
    (first second : List ApiRequest) :
    afterRequests config (first ++ second) =
      second.foldl
        (fun buckets request =>
          (consumeVaultApiRateLimit config request buckets).2)
        (afterRequests config first) :=
  List.foldl_append

theorem unlocked_afterRequests (config : VaultApiRateLimitConfig)
    {requests : List ApiRequest}
    (shown : ∀ request ∈ requests, TimeValue request.now) :
    Unlocked (afterRequests config requests) := by
  induction requests using List.reverseRecOn with
  | nil => exact EveryBucket.empty
  | append_singleton requests request ih =>
      have earlier := ih fun other member =>
        shown other (List.mem_append_left _ member)
      rw [afterRequests_append]
      exact earlier.consume rfl
        (shown request (List.mem_append_right _ List.mem_cons_self))

/-- A list is split at the first separator in one way. -/
theorem append_separator_inj {α : Type} {separator : α}
    {first second firstRest secondRest : List α}
    (firstFree : separator ∉ first) (secondFree : separator ∉ second)
    (same : first ++ separator :: firstRest =
      second ++ separator :: secondRest) :
    first = second ∧ firstRest = secondRest := by
  induction first generalizing second with
  | nil =>
      cases second with
      | nil => exact ⟨rfl, (List.cons.inj same).2⟩
      | cons item items =>
          obtain ⟨rfl, -⟩ := List.cons.inj same
          exact absurd List.mem_cons_self secondFree
  | cons item items ih =>
      cases second with
      | nil =>
          obtain ⟨rfl, -⟩ := List.cons.inj same
          exact absurd List.mem_cons_self firstFree
      | cons other others =>
          obtain ⟨rfl, rest⟩ := List.cons.inj same
          obtain ⟨rfl, rests⟩ := ih
            (fun member => firstFree (List.mem_cons_of_mem _ member))
            (fun member => secondFree (List.mem_cons_of_mem _ member)) rest
          exact ⟨rfl, rests⟩

theorem sameClient_of_key {first second : ApiRequest}
    (firstPlain : first.Plain) (secondPlain : second.Plain)
    (same : first.key = second.key) : first.SameClient second := by
  have firstKey : first.key =
      first.apiNamespace ++ ApiRequest.separator :: first.clientKey := by
    rw [ApiRequest.key, buildApiKey, List.append_assoc]
    rfl
  have secondKey : second.key =
      second.apiNamespace ++ ApiRequest.separator :: second.clientKey := by
    rw [ApiRequest.key, buildApiKey, List.append_assoc]
    rfl
  rw [firstKey, secondKey] at same
  exact append_separator_inj firstPlain secondPlain same

/-- What the requests to one limiter have to satisfy: they come at times that
the clock can show, no namespace contains the separator, and the limiter has
room for all clients. -/
structure ApiTraffic (requests : List ApiRequest) : Prop where
  shown : ∀ request ∈ requests, TimeValue request.now
  plain : ∀ request ∈ requests, request.Plain
  capacity : ((requests.map ApiRequest.key).toFinset.card : ℚ) ≤
    defaultRateLimitMaxBuckets

theorem ApiTraffic.fits {requests served : List ApiRequest}
    (traffic : ApiTraffic requests) (config : VaultApiRateLimitConfig)
    (part : ∀ request ∈ served, request ∈ requests) :
    Fits (createVaultApiRateLimiter config) (requests.map ApiRequest.key)
      (afterRequests config served) := by
  have start : Fits (createVaultApiRateLimiter config)
      (requests.map ApiRequest.key) (.empty : Buckets) :=
    { capacity := traffic.capacity, within := by simp }
  rw [afterRequests_eq_run]
  apply start.run
  intro key member
  simp only [callKeys, List.map_map, List.mem_map] at member
  obtain ⟨request, here, rfl⟩ := member
  exact List.mem_map_of_mem (part request here)

/-- A full bucket outlasts the requests that come before its window ends and
all requests of other clients. -/
theorem full_afterRequests {domain : List JsString} {buckets : Buckets}
    {key : JsString} {resetAtMs : ℚ} {bucket : BucketState}
    {requests : List ApiRequest}
    (full : FullBucket (createVaultApiRateLimiter config) resetAtMs bucket)
    (fits : Fits (createVaultApiRateLimiter config) domain buckets)
    (found : buckets.get? key = some bucket)
    (known : ∀ request ∈ requests, request.key ∈ domain)
    (shown : ∀ request ∈ requests, TimeValue request.now)
    (early : ∀ request ∈ requests, request.key = key →
      request.now < resetAtMs) :
    (requests.foldl
      (fun buckets request =>
        (consumeVaultApiRateLimit config request buckets).2)
      buckets).get? key = some bucket := by
  induction requests generalizing buckets with
  | nil => exact found
  | cons request requests ih =>
      have requestKnown : request.key ∈ domain :=
        known request List.mem_cons_self
      have nextFits : Fits (createVaultApiRateLimiter config) domain
          (consumeVaultApiRateLimit config request buckets).2 :=
        @Fits.perform _ _ _ request.call fits requestKnown
      have kept : (consumeVaultApiRateLimit config request buckets).2.get?
          key = some bucket := by
        by_cases same : request.key = key
        · subst same
          exact (full.consume_before found
            (shown request List.mem_cons_self)
            (early request List.mem_cons_self rfl)).2
        · exact @perform_other _ _ _ _ _ request.call fits requestKnown
            (Ne.symm same) found (prunable_of_used full.used _ _)
      apply ih nextFits kept
      · exact fun other member => known other (List.mem_cons_of_mem _ member)
      · exact fun other member => shown other (List.mem_cons_of_mem _ member)
      · exact fun other member => early other (List.mem_cons_of_mem _ member)

end Runs

/-- What the response to a request refused at `refusedAt` promises about a
later request of the same client: it is admitted from the announced time on
and only then, an earlier one is refused with the same time, and the seconds
of the header are the fewest after which a request is admitted. -/
structure RetryContract (refusedAt : ℚ) (response : VaultRateLimitHttpResponse)
    (retryAt : ℚ) (later : RateLimitDecision) : Prop where
  announced : response.body.resetAtMs = refusedAt + response.body.retryAfterMs
  positive : 0 < response.body.retryAfterMs
  admitted : later.allowed = true ↔ response.body.resetAtMs ≤ retryAt
  again : later.allowed = false →
    later.resetAtMs = response.body.resetAtMs
  header : ∀ seconds : ℕ, retryAt = refusedAt + 1000 * seconds →
    (later.allowed = true ↔
      JsNumber.digitsValue response.retryAfter ≤ seconds)

/-- A time to wait in whole milliseconds. -/
def Wait (retryAfterMs : ℚ) : Prop :=
  ∃ ms : ℕ, 0 < ms ∧ ms < 1000 * 2 ^ 43 ∧ retryAfterMs = ms

theorem FullBucket.wait {config : FixedWindowRateLimitConfig}
    {bucket : BucketState} {resetAtMs now : ℚ}
    (full : FullBucket config resetAtMs bucket) (shown : TimeValue now)
    (running : now < resetAtMs) : Wait (resetAtMs - now) := by
  obtain ⟨startMs, startMost, started⟩ := full.started
  obtain ⟨windowMs, windowMost, window⟩ := full.window
  obtain ⟨nowMs, -, rfl⟩ := shown
  rw [← full.ends, started, window] at running ⊢
  have before : nowMs < startMs + windowMs := by exact_mod_cast running
  rw [maxTimeMs] at startMost
  refine ⟨startMs + windowMs - nowMs, by omega, by omega, ?_⟩
  rw [Nat.cast_sub before.le, Nat.cast_add]

theorem retryAfterSeconds_le_iff {decision : RateLimitDecision}
    (wait : Wait decision.retryAfterMs) (seconds : ℕ) :
    retryAfterSeconds decision ≤ seconds ↔
      decision.retryAfterMs ≤ 1000 * seconds := by
  obtain ⟨ms, positive, small, same⟩ := wait
  have quotient := @JsNumber.quotient_le_iff ms positive small
  have least : 1 ≤ ⌈JsNumber.quotient ms 1000⌉₊ := by
    rw [Nat.one_le_ceil_iff, ← not_le]
    intro none
    have zero := (quotient 0).mp (by rw [Nat.cast_zero]; exact none)
    omega
  rw [retryAfterSeconds, same, max_eq_right least, Nat.ceil_le, quotient]
  exact_mod_cast Iff.rfl

theorem RetryContract.of_refusal {resetAtMs refusedAt retryAt : ℚ}
    {later : RateLimitDecision} (running : refusedAt < resetAtMs)
    (wait : Wait (resetAtMs - refusedAt))
    (admitted : later.allowed = true ↔ resetAtMs ≤ retryAt)
    (again : later.allowed = false → later.resetAtMs = resetAtMs) :
    RetryContract refusedAt
      (buildVaultRateLimitHttpResponse (refusal resetAtMs refusedAt))
      retryAt later := by
  refine
    { announced := (add_sub_cancel refusedAt resetAtMs).symm
      positive := sub_pos.mpr running
      admitted := admitted
      again := again
      header := ?_ }
  intro seconds waited
  rw [buildVaultRateLimitHttpResponse, JsNumber.digitsValue_digitsText,
    retryAfterSeconds_le_iff wait, admitted, waited]
  exact sub_le_iff_le_add'.symm

section Contract

variable {config : VaultApiRateLimitConfig} {before between : List ApiRequest}
  {refused retry : ApiRequest}

/-- One refusal and a later request of the same client. -/
theorem retryContract (admits : 0 < config.maxRequests)
    (window : WindowLength config.windowMs)
    (traffic : ApiTraffic (before ++ refused :: between ++ [retry]))
    (same : retry.SameClient refused)
    (stopped : (consumeVaultApiRateLimit config refused
      (afterRequests config before)).1.allowed = false)
    (early : ∀ request ∈ between, request.SameClient refused →
      request.now < (consumeVaultApiRateLimit config refused
        (afterRequests config before)).1.resetAtMs) :
    RetryContract refused.now
      (buildVaultRateLimitHttpResponse
        (consumeVaultApiRateLimit config refused
          (afterRequests config before)).1)
      retry.now
      (consumeVaultApiRateLimit config retry
        (afterRequests config (before ++ refused :: between))).1 := by
  have admitsAny : 0 < (createVaultApiRateLimiter config).max := admits
  have shownBefore : ∀ request ∈ before, TimeValue request.now :=
    fun request member => traffic.shown request (by simp [member])
  have shownBetween : ∀ request ∈ between, TimeValue request.now :=
    fun request member => traffic.shown request (by simp [member])
  have shownRefused := traffic.shown refused (by simp)
  have shownRetry := traffic.shown retry (by simp)
  obtain ⟨bucket, resetAtMs, full, running, decided, found⟩ :=
    refused_leaves admitsAny window
      (unlocked_afterRequests config shownBefore) shownRefused stopped
  have wait := full.wait shownRefused running
  change (consumeVaultApiRateLimit config refused
    (afterRequests config before)).1 = refusal resetAtMs refused.now at decided
  rw [decided] at early ⊢
  have sameKey : retry.key = refused.key := by
    rw [ApiRequest.key, ApiRequest.key, same.1, same.2]
  have kept : (afterRequests config (before ++ refused :: between)).get?
      retry.key = some bucket := by
    have parted : afterRequests config (before ++ refused :: between) =
        between.foldl
          (fun buckets request =>
            (consumeVaultApiRateLimit config request buckets).2)
          (afterRequests config (before ++ [refused])) := by
      rw [← afterRequests_append, List.append_assoc]
      rfl
    have left : (afterRequests config (before ++ [refused])).get?
        refused.key = some bucket := by
      rw [afterRequests_append]
      exact found
    rw [sameKey, parted]
    have known : ∀ request ∈ between, request.key ∈
        (before ++ refused :: between ++ [retry]).map ApiRequest.key := by
      intro request member
      apply List.mem_map_of_mem
      simp [member]
    have ownEarly : ∀ request ∈ between, request.key = refused.key →
        request.now < resetAtMs := by
      intro request member sameAgain
      apply early request member
      apply sameClient_of_key _ _ sameAgain
      · exact traffic.plain request (by simp [member])
      · exact traffic.plain refused (by simp)
    apply full_afterRequests full (traffic.fits config _) left known
      shownBetween ownEarly
    intro request member
    simp only [List.mem_append, List.mem_cons, List.not_mem_nil,
      or_false] at member ⊢
    tauto
  rcases lt_or_ge retry.now resetAtMs with soon | late
  · obtain ⟨again, -⟩ := full.consume_before kept shownRetry soon
    change (consumeVaultApiRateLimit config retry
      (afterRequests config (before ++ refused :: between))).1 =
        refusal resetAtMs retry.now at again
    rw [again]
    exact RetryContract.of_refusal running wait
      (iff_of_false Bool.false_ne_true (not_le.mpr soon)) fun _ => rfl
  · have admitted : (consumeVaultApiRateLimit config retry
        (afterRequests config (before ++ refused :: between))).1.allowed =
          true :=
      full.consume_from kept admitsAny shownRetry late
    apply RetryContract.of_refusal running wait (iff_of_true admitted late)
    intro refusedAgain
    rw [admitted] at refusedAgain
    cases refusedAgain

end Contract

/-! ## The limiter of a configuration -/

section Configured

variable {toLowerCase : JsString → JsString} {input : VaultAdminConfigInput}
  {adminConfig : VaultAdminConfig}

/-- A whole number of the table's range is in every configuration that is
built, whatever the environment and the overrides. -/
theorem built_inDomain {key : Admin.VaultOverridableConfigKey}
    (notCast : ¬ Admin.IsCastEnum key)
    (resolved : ∀ base, Admin.resolveBaseConfig toLowerCase input = .ok base →
      Admin.InDomain key (base.setting key))
    (built : Admin.buildVaultAdminConfigFromEnv toLowerCase input =
      .ok adminConfig) : Admin.InDomain key (adminConfig.setting key) := by
  obtain ⟨base, baseResolved, applied⟩ := Outcome.bind_eq_ok_iff.mp built
  have entries : Admin.applyEntries base
      (input.adminOverrides.getD .empty).entries = .ok adminConfig := by
    rw [Admin.applyVaultAdminOverrides] at applied
    split at applied
    · rename_i empty
      rw [List.length_eq_zero_iff.mp empty]
      exact applied
    · exact applied
  apply (Admin.applyEntries_inDomain_iff (OrderedMap.nodup _) entries).mpr
  exact ⟨fun _ _ both => notCast both.1, fun _ => resolved base baseResolved⟩

theorem resolveBaseConfig_rateLimit
    (resolved : Admin.resolveBaseConfig toLowerCase input = .ok adminConfig) :
    Admin.ResolvedRateLimit adminConfig.rateLimit := by
  obtain ⟨wordCount, -, rest⟩ := Outcome.bind_eq_ok_iff.mp resolved
  obtain ⟨enabled, -, rest⟩ := Outcome.bind_eq_ok_iff.mp rest
  obtain ⟨policy, -, rest⟩ := Outcome.bind_eq_ok_iff.mp rest
  obtain ⟨minutes, -, rest⟩ := Outcome.bind_eq_ok_iff.mp rest
  obtain ⟨rateLimit, read, rest⟩ := Outcome.bind_eq_ok_iff.mp rest
  obtain ⟨features, -, rest⟩ := Outcome.bind_eq_ok_iff.mp rest
  obtain rfl := Except.ok.inj rest
  exact Admin.resolveRateLimit_resolved read

theorem inDomain_positive {key : Admin.VaultOverridableConfigKey}
    {definition : Admin.VaultConfigKeyDefinition} {value : JsValue}
    (found : Admin.getVaultConfigKeyDefinition key.name = some definition)
    (type : definition.type = .number) (least : definition.min = some 1)
    (notWordCount : key ≠ .defaultRecoveryWordCount)
    (domain : Admin.InDomain key value) :
    ∃ positive : ℕ, 0 < positive ∧ value = .number (.finite positive) ∧
      ∀ most ∈ definition.max, (positive : ℚ) ≤ most := by
  rw [Admin.InDomain, if_neg notWordCount] at domain
  obtain ⟨other, otherFound, admits⟩ := domain
  obtain rfl := Option.some.inj (found.symm.trans otherFound)
  rw [Admin.VaultConfigKeyDefinition.Admits, type] at admits
  obtain ⟨integer, same, above, below⟩ := admits
  have atLeast : (1 : ℤ) ≤ integer := by
    exact_mod_cast above 1 (by rw [least]; rfl)
  obtain ⟨positive, rfl⟩ := Int.eq_ofNat_of_zero_le (by omega : 0 ≤ integer)
  exact ⟨positive, by omega, same, below⟩

/-- Every configuration that is built gives a limiter that admits requests, in
windows of at most an hour. -/
theorem createVaultApiRateLimiterFromAdminConfig_built
    (built : Admin.buildVaultAdminConfigFromEnv toLowerCase input =
      .ok adminConfig) :
    ∃ config, createVaultApiRateLimiterFromAdminConfig adminConfig =
      some config ∧ 0 < config.maxRequests ∧
        WindowLength config.windowMs := by
  have requests := @built_inDomain _ _ _ .apiMaxRequests (by decide)
    (fun _ resolved => (resolveBaseConfig_rateLimit resolved).apiMaxRequests)
    built
  have window := @built_inDomain _ _ _ .apiWindowSeconds (by decide)
    (fun _ resolved => (resolveBaseConfig_rateLimit resolved).apiWindowSeconds)
    built
  obtain ⟨maxRequests, somePositive, sameRequests, -⟩ :=
    inDomain_positive rfl rfl rfl (by decide) requests
  obtain ⟨seconds, -, sameSeconds, bounded⟩ :=
    inDomain_positive rfl rfl rfl (by decide) window
  change adminConfig.rateLimit.apiMaxRequests = _ at sameRequests
  change adminConfig.rateLimit.apiWindowSeconds = _ at sameSeconds
  have hour : seconds ≤ 3600 := by
    exact_mod_cast bounded 3600 rfl
  have exactly : JsNumber.times seconds 1000 = ((seconds * 1000 : ℕ) : ℚ) := by
    have safe : SafeInteger ((seconds * 1000 : ℕ) : ℚ) :=
      WindowLength.safe ⟨seconds * 1000, by omega, rfl⟩
    rw [← JsNumber.rounded_safeInteger safe, JsNumber.times]
    push_cast
    rfl
  refine ⟨{ maxRequests := maxRequests
            windowMs := JsNumber.times seconds 1000 }, ?_, ?_, ?_⟩
  · simp only [createVaultApiRateLimiterFromAdminConfig, sameRequests,
      sameSeconds]
  · exact Nat.cast_pos.mpr somePositive
  · exact ⟨seconds * 1000, by omega, exactly⟩

end Configured

/-- Every configuration that is built gives a limiter whose refusals keep
their word: in any order of requests of any clients, a client that comes back
after a refusal, and whose requests in between all came before the announced
time, is admitted exactly from the announced time on. -/
theorem api_refusal_retry_exact {toLowerCase : JsString → JsString}
    {input : VaultAdminConfigInput} {adminConfig : VaultAdminConfig}
    (built : Admin.buildVaultAdminConfigFromEnv toLowerCase input =
      .ok adminConfig) :
    ∃ config, createVaultApiRateLimiterFromAdminConfig adminConfig =
      some config ∧
      ∀ before refused between retry,
        ApiTraffic (before ++ refused :: between ++ [retry]) →
        retry.SameClient refused →
        let decision := (consumeVaultApiRateLimit config refused
          (afterRequests config before)).1
        decision.allowed = false →
        (∀ request ∈ between, request.SameClient refused →
          request.now < decision.resetAtMs) →
        RetryContract refused.now (buildVaultRateLimitHttpResponse decision)
          retry.now
          (consumeVaultApiRateLimit config retry
            (afterRequests config (before ++ refused :: between))).1 := by
  obtain ⟨config, created, admits, window⟩ :=
    createVaultApiRateLimiterFromAdminConfig_built built
  refine ⟨config, created, ?_⟩
  intro before refused between retry traffic same decision stopped early
  exact retryContract admits window traffic same stopped early

/-- A server that admits one request a minute. -/
def singleRequestOverrides : Admin.Overrides :=
  OrderedMap.empty.set (js "apiMaxRequests") (.number (.finite 1))

def singleRequestConfig : VaultAdminConfig :=
  { Admin.defaultConfig with
    rateLimit :=
      { Admin.defaultConfig.rateLimit with
        apiMaxRequests := .number (.finite 1) } }

def configRequest (now : ℚ) : ApiRequest :=
  { now := now, apiNamespace := js "config", clientKey := js "client" }

theorem api_refusal_retry_exact_single :
    ∃ config, createVaultApiRateLimiterFromAdminConfig singleRequestConfig =
      some config ∧
      RetryContract 1000
        (buildVaultRateLimitHttpResponse
          (consumeVaultApiRateLimit config (configRequest 1000)
            (afterRequests config [configRequest 0])).1)
        60000
        (consumeVaultApiRateLimit config (configRequest 60000)
          (afterRequests config [configRequest 0, configRequest 1000])).1 := by
  have built : Admin.buildVaultAdminConfigFromEnv Admin.asciiLowerCase
      { adminOverrides := some singleRequestOverrides } =
        .ok singleRequestConfig := rfl
  obtain ⟨config, created, contract⟩ := api_refusal_retry_exact built
  obtain rfl : { maxRequests := 1, windowMs := JsNumber.times 60 1000 } =
      config := Option.some.inj created
  have traffic : ApiTraffic [configRequest 0, configRequest 1000,
      configRequest 60000] :=
    { shown := by
        intro request member
        simp only [List.mem_cons, List.not_mem_nil, or_false] at member
        rcases member with rfl | rfl | rfl
        · exact ⟨0, by decide, rfl⟩
        · exact ⟨1000, by decide, rfl⟩
        · exact ⟨60000, by decide, rfl⟩
      plain := by decide
      capacity := by decide +kernel }
  exact ⟨_, created, contract [configRequest 0] (configRequest 1000) []
    (configRequest 60000) traffic ⟨rfl, rfl⟩ (by decide +kernel) nofun⟩

end RateLimit

end VaultCore
