import VaultCore.RateLimit.FixedWindow
import Mathlib.Data.List.Pairwise

/-!
# Every key has a limiter of its own

Calls on other keys prune, create and refresh buckets, and a bucket of this
key may be swept away by any of them.  A bucket that may be swept away at one
time may be swept away at every later time, so its key cannot tell the sweep
from the restart it would have got anyway: what the limiter answers about a
key is what a limiter answers that is asked about this key only.
-/

namespace VaultCore

namespace RateLimit

/-- The bucket that pruning leaves of the one a key holds. -/
def liveBucket (config : FixedWindowRateLimitConfig)
    (held : Option BucketState) (now : ℚ) : Option BucketState :=
  held.filter fun bucket => !prunable bucket config now

/-- Whether the next decision starts a new window for the key. -/
def windowRestarts (config : FixedWindowRateLimitConfig)
    (held : Option BucketState) (now : ℚ) : Bool :=
  match liveBucket config held now with
  | some bucket => lockoutExpired bucket now || windowExpired bucket config now
  | none => true

/-- What is observed of a call on a key. -/
structure Answer where
  now : ℚ
  operation : LimiterOperation
  decision : Option RateLimitDecision
  restarted : Bool

namespace Answer

/-- The call was a `consume` and it was allowed. -/
def isUse (answer : Answer) : Bool :=
  match answer.operation, answer.decision with
  | .consume _, some decision => decision.allowed
  | _, _ => false

end Answer

def restartedBy (config : FixedWindowRateLimitConfig) (call : TimedOperation)
    (held : Option BucketState) : Bool :=
  match call.operation with
  | .reset _ => false
  | _ => windowRestarts config held call.now

/-- The answers to the calls on one key, in order. -/
def answers (config : FixedWindowRateLimitConfig) (key : JsString) :
    Buckets → List TimedOperation → List Answer
  | _, [] => []
  | buckets, call :: calls =>
      let outcome := perform config call buckets
      if call.operation.key = key then
        { now := call.now
          operation := call.operation
          decision := outcome.1
          restarted := restartedBy config call (buckets.get? key) } ::
            answers config key outcome.2 calls
      else answers config key outcome.2 calls

/-- The calls on one key, with their times. -/
def callsOn (key : JsString) (calls : List TimedOperation) :
    List TimedOperation :=
  calls.filter fun call => call.operation.key = key

/-- The decisions returned for one key. -/
def decisionsOn (config : FixedWindowRateLimitConfig) (key : JsString)
    (buckets : Buckets) (calls : List TimedOperation) :
    List (Option RateLimitDecision) :=
  (answers config key buckets calls).map Answer.decision

/-! ## The limiter of one key -/

section Alone

/-- The bucket on which a limiter of one key decides. -/
def bucketAlone (config : FixedWindowRateLimitConfig)
    (held : Option BucketState) (now : ℚ) : BucketState :=
  match liveBucket config held now with
  | some bucket => refreshBucketIfExpired bucket config now
  | none => freshBucket now

/-- A call on a limiter that serves one key only. -/
def performAlone (config : FixedWindowRateLimitConfig) (call : TimedOperation)
    (held : Option BucketState) :
    Option RateLimitDecision × Option BucketState :=
  let bucket := bucketAlone config held call.now
  let decision := buildDecision bucket config call.now
  match call.operation with
  | .check _ => (some decision, some bucket)
  | .consume _ =>
      if decision.allowed then
        let used := countUse bucket config call.now
        (some { buildDecision used config call.now with allowed := true },
          some used)
      else (some decision, some bucket)
  | .reset _ => (none, none)

/-- What the limiter answers about one key when it serves no other. -/
def answersAlone (config : FixedWindowRateLimitConfig) :
    Option BucketState → List TimedOperation → List Answer
  | _, [] => []
  | held, call :: calls =>
      let outcome := performAlone config call held
      { now := call.now
        operation := call.operation
        decision := outcome.1
        restarted := restartedBy config call held } ::
          answersAlone config outcome.2 calls

end Alone

/-! ## A sweep is invisible -/

section Visibility

variable {config : FixedWindowRateLimitConfig} {now later : ℚ}
  {buckets : Buckets} {key : JsString}

theorem windowExpired_mono {bucket : BucketState} (ordered : now ≤ later)
    (expired : windowExpired bucket config now = true) :
    windowExpired bucket config later = true := by
  simp only [windowExpired, decide_eq_true_eq] at expired ⊢
  exact expired.trans (JsNumber.minus_mono ordered le_rfl)

theorem lockoutExpired_mono {bucket : BucketState} (ordered : now ≤ later)
    (expired : lockoutExpired bucket now = true) :
    lockoutExpired bucket later = true := by
  cases locked : bucket.lockedOutUntilMs with
  | none => simp [lockoutExpired, locked] at expired
  | some lockedOutUntilMs =>
      simp only [lockoutExpired, locked, decide_eq_true_eq] at expired ⊢
      exact expired.trans ordered

theorem prunable_mono {bucket : BucketState} (ordered : now ≤ later)
    (swept : prunable bucket config now = true) :
    prunable bucket config later = true := by
  simp only [prunable, Bool.or_eq_true, Bool.and_eq_true] at swept ⊢
  rcases swept with ⟨⟨lockout, window⟩, unused⟩ | ⟨⟨falsy, window⟩, unused⟩
  · exact .inl ⟨⟨lockoutExpired_mono ordered lockout,
      windowExpired_mono ordered window⟩, unused⟩
  · exact .inr ⟨⟨falsy, windowExpired_mono ordered window⟩, unused⟩

/-- A window that is over stays over. -/
theorem windowRestarts_mono {held : Option BucketState} (ordered : now ≤ later)
    (restarts : windowRestarts config held now = true) :
    windowRestarts config held later = true := by
  cases held with
  | none => rfl
  | some bucket =>
      cases sweptLater : prunable bucket config later with
      | true => simp [windowRestarts, liveBucket, Option.filter, sweptLater]
      | false =>
          have sweptNow : prunable bucket config now = false := by
            rw [Bool.eq_false_iff]
            intro swept
            rw [prunable_mono ordered swept] at sweptLater
            cases sweptLater
          simp only [windowRestarts, liveBucket, Option.filter, sweptNow,
            sweptLater, Bool.not_false, ↓reduceIte, Bool.or_eq_true]
            at restarts ⊢
          exact restarts.imp (lockoutExpired_mono ordered)
            (windowExpired_mono ordered)

theorem pruneExpired_get? (buckets : Buckets) (key : JsString) (now : ℚ) :
    (pruneExpired buckets config now).get? key =
      liveBucket config (buckets.get? key) now := by
  cases found : buckets.get? key with
  | none => exact OrderedMap.get?_filter_of_none found
  | some bucket =>
      cases swept : prunable bucket config now with
      | false =>
          rw [pruneExpired_keeps found swept]
          simp [liveBucket, Option.filter, swept]
      | true =>
          simp only [liveBucket, Option.filter, swept, Bool.not_true,
            Bool.false_eq_true, ↓reduceIte]
          apply OrderedMap.get?_eq_none_iff.mpr
          intro member
          obtain ⟨entry, kept, same⟩ := List.mem_map.mp member
          obtain ⟨present, survives⟩ := List.mem_filter.mp kept
          have here : buckets.get? key = some entry.2 :=
            OrderedMap.get?_eq_some_iff.mpr (by rw [← same]; exact present)
          rw [found] at here
          simp [← Option.some.inj here, swept] at survives

/-- Two states of a key that no later call on it tells apart. -/
def SameFrom (config : FixedWindowRateLimitConfig) (now : ℚ)
    (first second : Option BucketState) : Prop :=
  ∀ later, now ≤ later →
    liveBucket config first later = liveBucket config second later

theorem SameFrom.refl (held : Option BucketState) :
    SameFrom config now held held :=
  fun _ _ => rfl

theorem SameFrom.trans {first second third : Option BucketState}
    (left : SameFrom config now first second)
    (right : SameFrom config now second third) :
    SameFrom config now first third := by
  intro later ordered
  exact (left later ordered).trans (right later ordered)

theorem SameFrom.mono {first second : Option BucketState}
    (same : SameFrom config now first second) (ordered : now ≤ later) :
    SameFrom config later first second := by
  intro moment after
  exact same moment (ordered.trans after)

theorem sameFrom_none_of_prunable {bucket : BucketState}
    (swept : prunable bucket config now = true) :
    SameFrom config now none (some bucket) := by
  intro later ordered
  simp [liveBucket, Option.filter, prunable_mono ordered swept]

theorem get?_perform_of_absent {call : TimedOperation}
    (different : key ≠ call.operation.key)
    (absent : buckets.get? key = none) :
    (perform config call buckets).2.get? key = none := by
  rw [OrderedMap.get?_eq_none_iff] at absent ⊢
  intro member
  rcases mem_keys_perform member with same | held
  · exact different same
  · exact absent held

/-- A call on another key keeps the bucket of this key, or drops it when it
could be swept away. -/
theorem get?_perform_other {domain : List JsString} {call : TimedOperation}
    (fits : Fits config domain buckets)
    (known : call.operation.key ∈ domain)
    (different : key ≠ call.operation.key) :
    SameFrom config call.now ((perform config call buckets).2.get? key)
      (buckets.get? key) := by
  cases found : buckets.get? key with
  | none =>
      rw [get?_perform_of_absent different found]
      exact SameFrom.refl none
  | some bucket =>
      cases swept : prunable bucket config call.now with
      | false =>
          rw [perform_other fits known different found swept]
          exact SameFrom.refl (some bucket)
      | true =>
          have pruned : key ∉ (pruneExpired buckets config call.now).keys := by
            rw [← OrderedMap.get?_eq_none_iff, pruneExpired_get?, found]
            simp [liveBucket, Option.filter, swept]
          obtain ⟨now, operation⟩ := call
          cases operation with
          | check target =>
              have gone : (check config target now buckets).2.get? key =
                  none := by
                apply OrderedMap.get?_eq_none_iff.mpr
                intro member
                exact (mem_keys_check member).elim different pruned
              simp only [perform, gone]
              exact sameFrom_none_of_prunable swept
          | consume target =>
              have gone : (consume config target now buckets).2.get? key =
                  none := by
                apply OrderedMap.get?_eq_none_iff.mpr
                intro member
                exact (mem_keys_consume member).elim different pruned
              simp only [perform, gone]
              exact sameFrom_none_of_prunable swept
          | reset target =>
              have kept : (reset target buckets).get? key = some bucket :=
                (OrderedMap.get?_delete_of_ne _ different).trans found
              simp only [perform, kept]
              exact SameFrom.refl (some bucket)

end Visibility

/-! ## The limiter seen from one key -/

section Simulation

variable {config : FixedWindowRateLimitConfig} {buckets : Buckets}
  {key : JsString} {held : Option BucketState}

theorem currentBucket_eq_bucketAlone (buckets : Buckets) (key : JsString)
    (now : ℚ) :
    currentBucket config buckets key now =
      bucketAlone config (buckets.get? key) now := by
  rw [bucketAlone, ← pruneExpired_get?]
  cases live : (pruneExpired buckets config now).get? key with
  | none => simp [currentBucket, getOrCreateBucket, live]
  | some bucket => rw [currentBucket, getOrCreateBucket_of_some live]

theorem performAlone_congr {call : TimedOperation}
    {first second : Option BucketState}
    (same : SameFrom config call.now first second) :
    performAlone config call first = performAlone config call second ∧
      restartedBy config call first = restartedBy config call second := by
  have live := same call.now le_rfl
  have bucket : bucketAlone config first call.now =
      bucketAlone config second call.now := by
    rw [bucketAlone, live, bucketAlone]
  have restarts : windowRestarts config first call.now =
      windowRestarts config second call.now := by
    rw [windowRestarts, live, windowRestarts]
  constructor
  · rw [performAlone, bucket, performAlone]
  · rw [restartedBy, restarts, restartedBy]

/-- A call on the key does to its bucket what it does to a limiter of its
own. -/
theorem perform_self {call : TimedOperation}
    (own : call.operation.key = key) :
    ((perform config call buckets).1,
        (perform config call buckets).2.get? key) =
      performAlone config call (buckets.get? key) := by
  obtain ⟨now, operation⟩ := call
  subst own
  cases operation with
  | check target =>
      simp only [perform, LimiterOperation.key, check_decision, check_get?_self,
        performAlone, currentBucket_eq_bucketAlone]
  | consume target =>
      cases allowance : (buildDecision (currentBucket config buckets target
          now) config now).allowed with
      | false =>
          obtain ⟨decided, kept⟩ := consume_refused allowance
          rw [currentBucket_eq_bucketAlone] at allowance decided kept
          simp only [perform, LimiterOperation.key, decided, kept,
            performAlone, allowance, Bool.false_eq_true, ↓reduceIte]
      | true =>
          have kept := consume_allowed allowance
          have decided : (consume config target now buckets).1 =
              { buildDecision (countUse (currentBucket config buckets target
                  now) config now) config now with allowed := true } := by
            rw [currentBucket] at allowance ⊢
            simp only [consume, if_pos allowance]
          rw [currentBucket_eq_bucketAlone] at allowance decided kept
          simp only [perform, LimiterOperation.key, decided, kept,
            performAlone, allowance, ↓reduceIte]
  | reset target =>
      simp only [perform, LimiterOperation.key, performAlone, reset,
        OrderedMap.get?_delete_self]

/-- The answers about one key are those of a limiter that serves this key
only. -/
theorem answers_eq_alone {domain : List JsString}
    {calls : List TimedOperation} (fits : Fits config domain buckets)
    (known : ∀ other ∈ callKeys calls, other ∈ domain)
    (ordered : calls.Pairwise fun earlier later => earlier.now ≤ later.now)
    (same : ∀ call ∈ calls, SameFrom config call.now (buckets.get? key) held) :
    answers config key buckets calls =
      answersAlone config held (callsOn key calls) := by
  induction calls generalizing buckets held with
  | nil => rfl
  | cons call calls ih =>
      obtain ⟨callFirst, callsOrdered⟩ := List.pairwise_cons.mp ordered
      have callKnown : call.operation.key ∈ domain :=
        known _ List.mem_cons_self
      have callsKnown : ∀ other ∈ callKeys calls, other ∈ domain := by
        intro other member
        exact known other (List.mem_cons_of_mem _ member)
      have nextFits := fits.perform callKnown
      have sameNow := same call List.mem_cons_self
      by_cases own : call.operation.key = key
      · have alone : ((perform config call buckets).1,
            (perform config call buckets).2.get? key) =
              performAlone config call (buckets.get? key) := perform_self own
        obtain ⟨performed, restarted⟩ := performAlone_congr sameNow
        rw [performed] at alone
        have decided : (perform config call buckets).1 =
            (performAlone config call held).1 := congrArg Prod.fst alone
        have kept : (perform config call buckets).2.get? key =
            (performAlone config call held).2 := congrArg Prod.snd alone
        have nextSame : ∀ other ∈ calls, SameFrom config other.now
            ((perform config call buckets).2.get? key)
            (performAlone config call held).2 := by
          intro other _
          rw [kept]
          exact SameFrom.refl _
        have rest := ih nextFits callsKnown callsOrdered nextSame
        simp only [answers, own, ↓reduceIte, callsOn, List.filter_cons,
          decide_true, answersAlone]
        rw [restarted, rest, decided]
        rfl
      · have unseen := get?_perform_other fits callKnown (Ne.symm own)
        have nextSame : ∀ other ∈ calls, SameFrom config other.now
            ((perform config call buckets).2.get? key) held := by
          intro other member
          have later := callFirst other member
          exact (unseen.mono later).trans
            (same other (List.mem_cons_of_mem _ member))
        have rest := ih nextFits callsKnown callsOrdered nextSame
        simp only [answers, own, ↓reduceIte, callsOn, List.filter_cons,
          decide_false, Bool.false_eq_true]
        exact rest

/-- From a new limiter, the answers about a key depend on the calls on this
key only. -/
theorem answers_empty_eq_alone {calls : List TimedOperation}
    (clock : calls.Pairwise fun earlier later => earlier.now ≤ later.now)
    (capacity : ((callKeys calls).toFinset.card : ℚ) ≤ maxBuckets config) :
    answers config key .empty calls =
      answersAlone config none (callsOn key calls) := by
  have fits : Fits config (callKeys calls) (.empty : Buckets) :=
    { capacity := capacity, within := by simp }
  apply answers_eq_alone fits (fun _ member => member) clock
  intro call _
  exact SameFrom.refl none

end Simulation

/-- Two runs of a new limiter that make the same calls on a key at the same
times get the same decisions for it, whatever they do with other keys. -/
theorem limiter_keys_do_not_interfere {config : FixedWindowRateLimitConfig}
    {key : JsString} {first second : List TimedOperation}
    (firstClock : first.Pairwise fun earlier later => earlier.now ≤ later.now)
    (secondClock : second.Pairwise fun earlier later =>
      earlier.now ≤ later.now)
    (firstCapacity : ((callKeys first).toFinset.card : ℚ) ≤ maxBuckets config)
    (secondCapacity : ((callKeys second).toFinset.card : ℚ) ≤
      maxBuckets config)
    (agree : callsOn key first = callsOn key second) :
    decisionsOn config key .empty first =
      decisionsOn config key .empty second := by
  simp only [decisionsOn]
  rw [answers_empty_eq_alone firstClock firstCapacity,
    answers_empty_eq_alone secondClock secondCapacity, agree]

/-- One failure a second, with room for two keys. -/
def twoKeyConfig : FixedWindowRateLimitConfig :=
  { max := 1, windowMs := 1000, maxBuckets := some 2 }

theorem limiter_keys_do_not_interfere_swept :
    decisionsOn twoKeyConfig (js "a") .empty
        [⟨0, .check (js "a")⟩, ⟨1000, .consume (js "b")⟩,
          ⟨1500, .consume (js "a")⟩, ⟨2400, .consume (js "a")⟩] =
      decisionsOn twoKeyConfig (js "a") .empty
        [⟨0, .check (js "a")⟩, ⟨1500, .consume (js "a")⟩,
          ⟨2400, .consume (js "a")⟩] :=
  limiter_keys_do_not_interfere (by decide +kernel) (by decide +kernel)
    (by decide +kernel) (by decide +kernel) rfl

end RateLimit

end VaultCore
