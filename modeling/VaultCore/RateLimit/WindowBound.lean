import VaultCore.RateLimit.KeyIsolation
import Mathlib.Algebra.Order.Floor.Semiring
import Mathlib.Data.Rat.Floor
import Mathlib.Order.Interval.Set.OrdConnected
import Mathlib.Tactic.Linarith

/-!
# How many uses a window admits

The bucket of a key counts the uses of its window and never more than the
maximum, rounded up.  Two windows of a key begin at least one window length
apart, as the limiter subtracts its readings, so a stretch of time that is
shorter meets at most two of them.  Readings in whole milliseconds are
subtracted exactly, and there the stretch may be any half-open interval as
long as the window.
-/

namespace VaultCore

namespace RateLimit

open JsNumber (plus minus SafeInteger)

/-- How many uses the answers report at times of an interval. -/
def usesIn (interval : Set ℚ) [DecidablePred (· ∈ interval)]
    (found : List Answer) : Nat :=
  found.countP fun answer => answer.isUse && decide (answer.now ∈ interval)

def uses (found : List Answer) : Nat := found.countP Answer.isUse

/-- Everything a limiter answers. -/
def decisions (config : FixedWindowRateLimitConfig) :
    Buckets → List TimedOperation → List (Option RateLimitDecision)
  | _, [] => []
  | buckets, call :: calls =>
      (perform config call buckets).1 ::
        decisions config (perform config call buckets).2 calls

/-- A lockout, where there is one, is not over on this clock before a window
that begins when the lockout is set. -/
def LockoutOutlastsWindow (config : FixedWindowRateLimitConfig)
    (clock : Set ℚ) : Prop :=
  ∀ lockoutMs, config.lockoutMs = some lockoutMs → 0 < lockoutMs →
    ∀ locked ∈ clock, ∀ now ∈ clock, plus locked lockoutMs ≤ now →
      config.windowMs ≤ minus now locked

/-- On a clock that shows whole milliseconds, a lockout of whole milliseconds
that is at least as long as the window outlasts it. -/
theorem lockoutOutlastsWindow_of_whole {config : FixedWindowRateLimitConfig}
    {clock : Set ℚ} (window : SafeInteger config.windowMs)
    (lockout : ∀ lockoutMs, config.lockoutMs = some lockoutMs →
      0 < lockoutMs → SafeInteger lockoutMs ∧ config.windowMs ≤ lockoutMs)
    (whole : ∀ now ∈ clock, SafeInteger now) :
    LockoutOutlastsWindow config clock := by
  intro lockoutMs set positive locked lockedShown now nowShown ended
  obtain ⟨wholeLockout, longer⟩ := lockout lockoutMs set positive
  rw [JsNumber.plus_le_iff (whole now nowShown) (whole locked lockedShown)
    wholeLockout] at ended
  rw [JsNumber.le_minus_iff window (whole now nowShown)
    (whole locked lockedShown)]
  linarith

section Bucket

variable {config : FixedWindowRateLimitConfig} {clock : Set ℚ}
  {now later : ℚ} {bucket : BucketState} {held : Option BucketState}

/-- What holds of every bucket: it counts at most the maximum, and it is not
unlocked before its window ends. -/
structure SoundBucket (config : FixedWindowRateLimitConfig) (clock : Set ℚ)
    (now : ℚ) (bucket : BucketState) : Prop where
  reading : bucket.windowStartMs ∈ clock
  started : bucket.windowStartMs ≤ now
  counted : bucket.count ≤ ⌈config.max⌉₊
  lockout : ∀ lockoutEndMs, bucket.lockedOutUntilMs = some lockoutEndMs →
    ∀ later ∈ clock, lockoutEndMs ≤ later →
      config.windowMs ≤ minus later bucket.windowStartMs

theorem SoundBucket.mono (sound : SoundBucket config clock now bucket)
    (ordered : now ≤ later) : SoundBucket config clock later bucket :=
  { sound with started := sound.started.trans ordered }

theorem soundBucket_fresh (shown : now ∈ clock) :
    SoundBucket config clock now (freshBucket now) where
  reading := shown
  started := le_rfl
  counted := Nat.zero_le _
  lockout := by
    intro lockoutEndMs locked
    cases locked

theorem SoundBucket.countUse (sound : SoundBucket config clock now bucket)
    (outlasts : LockoutOutlastsWindow config clock) (shown : now ∈ clock)
    (allowed : (buildDecision bucket config now).allowed = true) :
    SoundBucket config clock now (countUse bucket config now) ∧
      (RateLimit.countUse bucket config now).windowStartMs =
        bucket.windowStartMs ∧
      (RateLimit.countUse bucket config now).count = bucket.count + 1 := by
  have below : (bucket.count : ℚ) < config.max :=
    count_lt_of_allowed allowed
  have counted : bucket.count + 1 ≤ ⌈config.max⌉₊ :=
    Nat.succ_le_of_lt (Nat.lt_ceil.mpr below)
  have started := sound.started
  cases lockout : config.lockoutMs with
  | none =>
      simp only [RateLimit.countUse, lockout, and_self, and_true]
      exact { sound with counted := counted }
  | some lockoutMs =>
      by_cases locks : config.max ≤ ((bucket.count + 1 : ℕ) : ℚ) ∧
          0 < lockoutMs
      · simp only [RateLimit.countUse, lockout, if_pos locks, and_self,
          and_true]
        refine
          { reading := sound.reading
            started := started
            counted := counted
            lockout := ?_ }
        intro lockoutEndMs locked later laterShown ended
        rw [← Option.some.inj locked] at ended
        exact (outlasts lockoutMs lockout locks.2 now shown later laterShown
          ended).trans (JsNumber.minus_mono le_rfl started)
      · simp only [RateLimit.countUse, lockout, if_neg locks, and_self,
          and_true]
        exact { sound with counted := counted }

theorem bucketAlone_of_going (going : windowRestarts config held now = false) :
    ∃ bucket, held = some bucket ∧ bucketAlone config held now = bucket := by
  cases live : liveBucket config held now with
  | none => simp [windowRestarts, live] at going
  | some bucket =>
      obtain ⟨present, -⟩ := Option.filter_eq_some_iff.mp live
      simp only [windowRestarts, live, Bool.or_eq_false_iff] at going
      refine ⟨bucket, present, ?_⟩
      simp [bucketAlone, live, refreshBucketIfExpired, going]

theorem bucketAlone_of_restart
    (restarts : windowRestarts config held now = true) :
    bucketAlone config held now = freshBucket now := by
  cases live : liveBucket config held now with
  | none => rw [bucketAlone, live]
  | some bucket =>
      simp only [windowRestarts, live, Bool.or_eq_true] at restarts
      simp only [bucketAlone, live, refreshBucketIfExpired]
      rcases restarts with lockout | window
      · rw [if_pos lockout]
      · rw [if_pos window, ite_self]

/-- A window is restarted when its time is over, not before. -/
theorem SoundBucket.over_of_restart
    (sound : SoundBucket config clock now bucket) (shown : later ∈ clock)
    (restarts : windowRestarts config (some bucket) later = true) :
    config.windowMs ≤ minus later bucket.windowStartMs := by
  have expired : windowExpired bucket config later = true ∨
      lockoutExpired bucket later = true := by
    cases swept : prunable bucket config later with
    | true =>
        simp only [prunable, Bool.or_eq_true, Bool.and_eq_true] at swept
        rcases swept with ⟨⟨-, window⟩, -⟩ | ⟨⟨-, window⟩, -⟩
        · exact .inl window
        · exact .inl window
    | false =>
        simp only [windowRestarts, liveBucket, Option.filter, swept,
          Bool.not_false, ↓reduceIte, Bool.or_eq_true] at restarts
        exact restarts.symm
  rcases expired with window | lockout
  · simpa only [windowExpired, decide_eq_true_eq] using window
  · cases locked : bucket.lockedOutUntilMs with
    | none => simp [lockoutExpired, locked] at lockout
    | some lockoutEndMs =>
        simp only [lockoutExpired, locked, decide_eq_true_eq] at lockout
        exact sound.lockout lockoutEndMs locked later shown lockout

/-- The bucket on which a decision falls is sound when the one the key holds
is. -/
theorem soundBucket_bucketAlone (shown : now ∈ clock)
    (sound : ∀ bucket ∈ held, SoundBucket config clock now bucket) :
    SoundBucket config clock now (bucketAlone config held now) := by
  cases restarts : windowRestarts config held now with
  | true =>
      rw [bucketAlone_of_restart restarts]
      exact soundBucket_fresh shown
  | false =>
      obtain ⟨bucket, present, same⟩ := bucketAlone_of_going restarts
      rw [same]
      exact sound bucket present

end Bucket

/-- The answer to a call on a limiter of one key. -/
def answerAlone (config : FixedWindowRateLimitConfig) (call : TimedOperation)
    (held : Option BucketState) : Answer :=
  { now := call.now
    operation := call.operation
    decision := (performAlone config call held).1
    restarted := restartedBy config call held }

/-- A call that decides leaves the window's bucket, with one more use when it
was one. -/
structure Counts (config : FixedWindowRateLimitConfig) (clock : Set ℚ)
    (call : TimedOperation) (held : Option BucketState) (next : BucketState) :
    Prop where
  sound : SoundBucket config clock call.now next
  start : next.windowStartMs =
    (bucketAlone config held call.now).windowStartMs
  count : next.count = (bucketAlone config held call.now).count +
    if (answerAlone config call held).isUse then 1 else 0

/-- What one call on a limiter of one key does. -/
theorem performAlone_counts {config : FixedWindowRateLimitConfig}
    {clock : Set ℚ} {call : TimedOperation} {held : Option BucketState}
    (outlasts : LockoutOutlastsWindow config clock)
    (shown : call.now ∈ clock)
    (sound : ∀ bucket ∈ held, SoundBucket config clock call.now bucket)
    (noReset : call.operation ≠ .reset call.operation.key) :
    (answerAlone config call held).restarted =
        windowRestarts config held call.now ∧
      ∃ next, (performAlone config call held).2 = some next ∧
        Counts config clock call held next := by
  have current := soundBucket_bucketAlone shown sound
  obtain ⟨now, operation⟩ := call
  cases operation with
  | check key =>
      refine ⟨rfl, bucketAlone config held now, rfl, ?_⟩
      exact { sound := current, start := rfl, count := rfl }
  | consume key =>
      refine ⟨rfl, ?_⟩
      cases allowance : (buildDecision (bucketAlone config held now) config
          now).allowed with
      | true =>
          obtain ⟨nextSound, start, count⟩ :=
            current.countUse outlasts shown allowance
          refine ⟨countUse (bucketAlone config held now) config now, ?_, ?_⟩
          · simp only [performAlone, allowance, ↓reduceIte]
          · refine { sound := nextSound, start := start, count := ?_ }
            simp only [answerAlone, Answer.isUse, performAlone, allowance,
              ↓reduceIte, count]
      | false =>
          refine ⟨bucketAlone config held now, ?_, ?_⟩
          · simp only [performAlone, allowance, Bool.false_eq_true,
              ↓reduceIte]
          · refine { sound := current, start := rfl, count := ?_ }
            simp only [answerAlone, Answer.isUse, performAlone, allowance,
              Bool.false_eq_true, ↓reduceIte, Nat.add_zero]
  | reset key => exact absurd rfl noReset

theorem answersAlone_cons (config : FixedWindowRateLimitConfig)
    (call : TimedOperation) (held : Option BucketState)
    (calls : List TimedOperation) :
    answersAlone config held (call :: calls) =
      answerAlone config call held ::
        answersAlone config (performAlone config call held).2 calls := rfl

/-- A run of calls on one key, none of which resets it. -/
structure OwnCalls (clock : Set ℚ) (now : ℚ) (calls : List TimedOperation) :
    Prop where
  shown : ∀ call ∈ calls, call.now ∈ clock
  later : ∀ call ∈ calls, now ≤ call.now
  ordered : calls.Pairwise fun first second => first.now ≤ second.now
  noReset : ∀ call ∈ calls, call.operation ≠ .reset call.operation.key

theorem OwnCalls.tail {clock : Set ℚ} {now : ℚ} {call : TimedOperation}
    {calls : List TimedOperation} (own : OwnCalls clock now (call :: calls)) :
    OwnCalls clock call.now calls where
  shown := fun other member =>
    own.shown other (List.mem_cons_of_mem _ member)
  later := (List.pairwise_cons.mp own.ordered).1
  ordered := (List.pairwise_cons.mp own.ordered).2
  noReset := fun other member =>
    own.noReset other (List.mem_cons_of_mem _ member)

/-- The calls on one key, from a moment before the first of them. -/
theorem exists_ownCalls {clock : Set ℚ} {calls : List TimedOperation}
    {key : JsString} (shown : ∀ call ∈ calls, call.now ∈ clock)
    (ordered : calls.Pairwise fun earlier later => earlier.now ≤ later.now)
    (noReset : ∀ call ∈ calls, call.operation ≠ .reset key) :
    ∃ startMs, OwnCalls clock startMs (callsOn key calls) := by
  have ownShown : ∀ call ∈ callsOn key calls, call.now ∈ clock :=
    fun call member => shown call (List.mem_of_mem_filter member)
  have ownOrdered : (callsOn key calls).Pairwise
      fun earlier later => earlier.now ≤ later.now := ordered.filter _
  have ownNoReset : ∀ call ∈ callsOn key calls,
      call.operation ≠ .reset call.operation.key := by
    intro call member
    obtain ⟨present, own⟩ := List.mem_filter.mp member
    rw [of_decide_eq_true own]
    exact noReset call present
  cases same : callsOn key calls with
  | nil =>
      exact ⟨0, by simp, by simp, List.Pairwise.nil, by simp⟩
  | cons call rest =>
      rw [same] at ownShown ownOrdered ownNoReset
      refine ⟨call.now, ownShown, ?_, ownOrdered, ownNoReset⟩
      exact List.forall_mem_cons.mpr
        ⟨le_rfl, (List.pairwise_cons.mp ownOrdered).1⟩

section Windows

variable {config : FixedWindowRateLimitConfig} {clock : Set ℚ} {now : ℚ}
  {held : Option BucketState} {call : TimedOperation}
  {calls : List TimedOperation}

/-- The first call of a run, and the bucket the rest of the run begins
with. -/
theorem OwnCalls.counts (own : OwnCalls clock now (call :: calls))
    (outlasts : LockoutOutlastsWindow config clock)
    (sound : ∀ bucket ∈ held, SoundBucket config clock now bucket) :
    (answerAlone config call held).restarted =
        windowRestarts config held call.now ∧
      ∃ next, (performAlone config call held).2 = some next ∧
        Counts config clock call held next := by
  have after := own.later call List.mem_cons_self
  apply performAlone_counts outlasts (own.shown call List.mem_cons_self)
  · intro bucket member
    exact (sound bucket member).mono after
  · exact own.noReset call List.mem_cons_self

/-- While a window goes on, its bucket has room for every further use. -/
theorem uses_le_of_going {bucket : BucketState} {inside after : List Answer}
    (outlasts : LockoutOutlastsWindow config clock)
    (own : OwnCalls clock now calls) (sound : SoundBucket config clock now bucket)
    (split : answersAlone config (some bucket) calls = inside ++ after)
    (going : ∀ answer ∈ inside, answer.restarted = false) :
    bucket.count + uses inside ≤ ⌈config.max⌉₊ := by
  induction inside generalizing calls bucket now with
  | nil => exact sound.counted
  | cons answer inside ih =>
      cases calls with
      | nil => cases split
      | cons call calls =>
          rw [answersAlone_cons, List.cons_append] at split
          obtain ⟨same, rest⟩ := List.cons.inj split
          have heldSound : ∀ held ∈ some bucket,
              SoundBucket config clock now held := by
            simpa using sound
          obtain ⟨restarted, next, kept, counts⟩ :=
            own.counts outlasts heldSound
          have notRestarted := going answer List.mem_cons_self
          rw [← same, restarted] at notRestarted
          obtain ⟨current, present, alone⟩ := bucketAlone_of_going notRestarted
          obtain rfl := Option.some.inj present
          rw [kept] at rest
          have later := ih own.tail counts.sound rest
            (fun other member => going other (List.mem_cons_of_mem _ member))
          have count := counts.count
          rw [alone, same] at count
          simp only [uses, List.countP_cons] at later ⊢
          omega

/-- From the answer that begins a window to the next restart, the uses stay
within the maximum. -/
theorem uses_le_in_window {before inside after : List Answer}
    {first : Answer} (outlasts : LockoutOutlastsWindow config clock)
    (own : OwnCalls clock now calls)
    (sound : ∀ bucket ∈ held, SoundBucket config clock now bucket)
    (split : answersAlone config held calls =
      before ++ first :: (inside ++ after))
    (going : ∀ answer ∈ inside, answer.restarted = false) :
    uses (first :: inside) ≤ ⌈config.max⌉₊ := by
  induction before generalizing calls held now with
  | nil =>
      cases calls with
      | nil => cases split
      | cons call calls =>
          rw [answersAlone_cons, List.nil_append] at split
          obtain ⟨same, rest⟩ := List.cons.inj split
          obtain ⟨-, next, kept, counts⟩ := own.counts outlasts sound
          rw [kept] at rest
          have later := uses_le_of_going outlasts own.tail counts.sound rest
            going
          have count := counts.count
          rw [same] at count
          simp only [uses, List.countP_cons] at later ⊢
          omega
  | cons answer before ih =>
      cases calls with
      | nil => cases split
      | cons call calls =>
          rw [answersAlone_cons, List.cons_append] at split
          obtain ⟨-, rest⟩ := List.cons.inj split
          obtain ⟨-, next, kept, counts⟩ := own.counts outlasts sound
          rw [kept] at rest
          apply ih own.tail _ rest
          intro bucket member
          obtain rfl := Option.some.inj member
          exact counts.sound

end Windows

/-! ## Uses in a half-open interval -/

section Interval

variable {config : FixedWindowRateLimitConfig} {clock : Set ℚ} {now : ℚ}
  {held : Option BucketState} {calls : List TimedOperation}
  {interval : Set ℚ} [DecidablePred (· ∈ interval)]

theorem usesIn_answersAlone_cons (config : FixedWindowRateLimitConfig)
    (call : TimedOperation) (held : Option BucketState)
    (calls : List TimedOperation) :
    usesIn interval (answersAlone config held (call :: calls)) =
      usesIn interval
          (answersAlone config (performAlone config call held).2 calls) +
        if (answerAlone config call held).isUse && decide (call.now ∈ interval)
        then 1 else 0 := by
  rw [answersAlone_cons, usesIn, List.countP_cons]
  rfl

theorem usesIn_eq_zero (outside : ∀ call ∈ calls, call.now ∉ interval) :
    usesIn interval (answersAlone config held calls) = 0 := by
  induction calls generalizing held with
  | nil => rfl
  | cons call calls ih =>
      have here := outside call List.mem_cons_self
      have later := @ih (performAlone config call held).2
        (fun other member => outside other (List.mem_cons_of_mem _ member))
      rw [usesIn_answersAlone_cons, later]
      simp [here]

/-- How many uses the interval can still see: what is left of the window, and
one more window if this one began before the interval. -/
def allowance (config : FixedWindowRateLimitConfig) (interval : Set ℚ)
    [DecidablePred (· ∈ interval)] : Option BucketState → Nat
  | none => 2 * ⌈config.max⌉₊
  | some bucket =>
      ⌈config.max⌉₊ - bucket.count +
        if bucket.windowStartMs ∈ interval then 0 else ⌈config.max⌉₊

theorem allowance_le (held : Option BucketState) :
    allowance config interval held ≤ 2 * ⌈config.max⌉₊ := by
  cases held with
  | none => exact le_rfl
  | some bucket =>
      simp only [allowance]
      split <;> omega

/-- From a moment inside the interval on. -/
theorem usesIn_le_allowance (outlasts : LockoutOutlastsWindow config clock)
    (convex : interval.OrdConnected)
    (short : ∀ first ∈ clock, ∀ second ∈ clock, first ∈ interval →
      second ∈ interval → minus second first < config.windowMs)
    (entered : now ∈ interval) (own : OwnCalls clock now calls)
    (sound : ∀ bucket ∈ held, SoundBucket config clock now bucket) :
    usesIn interval (answersAlone config held calls) ≤
      allowance config interval held := by
  induction calls generalizing held now with
  | nil => exact Nat.zero_le _
  | cons call calls ih =>
      have after := own.later call List.mem_cons_self
      by_cases inside : call.now ∈ interval
      · obtain ⟨-, next, kept, counts⟩ := own.counts outlasts sound
        have rest : usesIn interval (answersAlone config (some next) calls) ≤
            allowance config interval (some next) := by
          apply ih inside own.tail
          intro bucket member
          obtain rfl := Option.some.inj member
          exact counts.sound
        have count := counts.count
        have start := counts.start
        have counted := counts.sound.counted
        rw [usesIn_answersAlone_cons, kept]
        simp only [allowance, inside, decide_true, Bool.and_true] at rest ⊢
        cases restarts : windowRestarts config held call.now with
        | true =>
            rw [bucketAlone_of_restart restarts] at count start
            have startsInside : next.windowStartMs ∈ interval := by
              rw [start]
              exact inside
            have zero : (freshBucket call.now).count = 0 := rfl
            rw [if_pos startsInside] at rest
            cases held with
            | none => simp only; omega
            | some bucket =>
                have shown := own.shown call List.mem_cons_self
                have past := (sound bucket rfl).over_of_restart shown restarts
                have startsBefore : bucket.windowStartMs ∉ interval := by
                  intro member
                  have near := short _ (sound bucket rfl).reading _ shown
                    member inside
                  exact absurd near (not_lt.mpr past)
                simp only [if_neg startsBefore]
                omega
        | false =>
            obtain ⟨bucket, rfl, alone⟩ := bucketAlone_of_going restarts
            rw [alone] at count start
            rw [start] at rest
            simp only
            omega
      · -- the interval is over
        have outside : ∀ other ∈ call :: calls, other.now ∉ interval := by
          intro other member again
          have ordered : call.now ≤ other.now := by
            rcases List.mem_cons.mp member with same | later
            · rw [same]
            · exact own.tail.later other later
          exact inside (convex.out entered again ⟨after, ordered⟩)
        rw [usesIn_eq_zero outside]
        exact Nat.zero_le _

/-- A short interval meets at most two windows. -/
theorem usesIn_le (outlasts : LockoutOutlastsWindow config clock)
    (convex : interval.OrdConnected)
    (short : ∀ first ∈ clock, ∀ second ∈ clock, first ∈ interval →
      second ∈ interval → minus second first < config.windowMs)
    (own : OwnCalls clock now calls)
    (sound : ∀ bucket ∈ held, SoundBucket config clock now bucket) :
    usesIn interval (answersAlone config held calls) ≤
      2 * ⌈config.max⌉₊ := by
  induction calls generalizing held now with
  | nil => exact Nat.zero_le _
  | cons call calls ih =>
      by_cases inside : call.now ∈ interval
      · have ownHere : OwnCalls clock call.now (call :: calls) :=
          { own with
            later := List.forall_mem_cons.mpr ⟨le_rfl, own.tail.later⟩ }
        have soundHere : ∀ bucket ∈ held,
            SoundBucket config clock call.now bucket := by
          intro bucket member
          exact (sound bucket member).mono
            (own.later call List.mem_cons_self)
        calc
          usesIn interval (answersAlone config held (call :: calls)) ≤
              allowance config interval held :=
            usesIn_le_allowance outlasts convex short inside ownHere soundHere
          _ ≤ 2 * ⌈config.max⌉₊ := allowance_le held
      · obtain ⟨-, next, kept, counts⟩ := own.counts outlasts sound
        rw [usesIn_answersAlone_cons, kept]
        simp only [inside, decide_false, Bool.and_false, Bool.false_eq_true,
          ↓reduceIte, Nat.add_zero]
        apply ih own.tail
        intro bucket member
        obtain rfl := Option.some.inj member
        exact counts.sound

end Interval

/-! ## A refused use is a check -/

theorem consume_refused_eq_check {config : FixedWindowRateLimitConfig}
    {key : JsString} {now : ℚ} {buckets : Buckets}
    {decision : RateLimitDecision}
    (decided : (perform config ⟨now, .consume key⟩ buckets).1 = some decision)
    (refused : decision.allowed = false) :
    (perform config ⟨now, .consume key⟩ buckets).2 =
      (perform config ⟨now, .check key⟩ buckets).2 := by
  simp only [perform, consume, check] at decided ⊢
  split
  · rename_i allowed
    rw [if_pos allowed] at decided
    rw [← Option.some.inj decided] at refused
    cases refused
  · rfl

/-- A stretch of time shorter than the window sees at most two windows' uses,
and so does a half-open interval as long as the window where times are whole
milliseconds; a window sees at most one maximum, and a refused use changes
nothing for anyone. -/
theorem fixed_window_bound {config : FixedWindowRateLimitConfig}
    {clock : Set ℚ} {calls : List TimedOperation} {key : JsString}
    (outlasts : LockoutOutlastsWindow config clock)
    (shown : ∀ call ∈ calls, call.now ∈ clock)
    (ordered : calls.Pairwise fun earlier later => earlier.now ≤ later.now)
    (capacity : ((callKeys calls).toFinset.card : ℚ) ≤ maxBuckets config)
    (noReset : ∀ call ∈ calls, call.operation ≠ .reset key) :
    (∀ firstMs lastMs, minus lastMs firstMs < config.windowMs →
      usesIn (Set.Icc firstMs lastMs) (answers config key .empty calls) ≤
        2 * ⌈config.max⌉₊) ∧
      (SafeInteger config.windowMs → (∀ now ∈ clock, SafeInteger now) →
        ∀ startMs,
          usesIn (Set.Ico startMs (startMs + config.windowMs))
              (answers config key .empty calls) ≤ 2 * ⌈config.max⌉₊ ∧
            usesIn (Set.Ioc startMs (startMs + config.windowMs))
              (answers config key .empty calls) ≤ 2 * ⌈config.max⌉₊) ∧
      (∀ before first inside after,
        answers config key .empty calls =
            before ++ first :: (inside ++ after) →
          (∀ answer ∈ inside, answer.restarted = false) →
            uses (first :: inside) ≤ ⌈config.max⌉₊) ∧
      ∀ before now after decision,
        calls = before ++ ⟨now, .consume key⟩ :: after →
          (perform config ⟨now, .consume key⟩ (run config .empty before)).1 =
              some decision →
            decision.allowed = false →
              decisions config
                  (run config .empty (before ++ [⟨now, .consume key⟩]))
                  after =
                decisions config
                  (run config .empty (before ++ [⟨now, .check key⟩]))
                  after := by
  have alone : answers config key .empty calls =
      answersAlone config none (callsOn key calls) :=
    answers_empty_eq_alone ordered capacity
  obtain ⟨startMs, own⟩ := @exists_ownCalls _ _ key shown ordered noReset
  have noBucket : ∀ bucket ∈ (none : Option BucketState),
      SoundBucket config clock startMs bucket := by
    intro bucket member
    cases member
  refine ⟨?_, ?_, ?_, ?_⟩
  · intro firstMs lastMs short
    rw [alone]
    apply usesIn_le outlasts Set.ordConnected_Icc _ own noBucket
    intro first _ second _ firstIn secondIn
    exact (JsNumber.minus_mono secondIn.2 firstIn.1).trans_lt short
  · intro window whole fromMs
    have unrounded : ∀ first ∈ clock, ∀ second ∈ clock,
        second - first < config.windowMs →
          minus second first < config.windowMs := by
      intro first firstShown second secondShown near
      rw [← not_le] at near ⊢
      rwa [JsNumber.le_minus_iff window (whole second secondShown)
        (whole first firstShown)]
    rw [alone]
    constructor
    · apply usesIn_le outlasts Set.ordConnected_Ico _ own noBucket
      intro first firstShown second secondShown firstIn secondIn
      apply unrounded first firstShown second secondShown
      linarith [firstIn.1, secondIn.2]
    · apply usesIn_le outlasts Set.ordConnected_Ioc _ own noBucket
      intro first firstShown second secondShown firstIn secondIn
      apply unrounded first firstShown second secondShown
      linarith [firstIn.1, secondIn.2]
  · intro before first inside after split going
    rw [alone] at split
    exact uses_le_in_window outlasts own noBucket split going
  · intro before now after decision _ decided refused
    rw [run_append, run_append, run_cons, run_cons,
      consume_refused_eq_check decided refused]

/-- Three uses in a window of a second, and a lockout of a second. -/
def lockingConfig : FixedWindowRateLimitConfig :=
  { max := 3, windowMs := 1000, lockoutMs := some 1000 }

theorem safeInteger_thousand : SafeInteger 1000 :=
  @JsNumber.safeInteger_intCast 1000 (by decide)

theorem fixed_window_bound_locking :
    usesIn (Set.Ico 900 (900 + lockingConfig.windowMs))
        (answers lockingConfig (js "a") .empty
          [⟨0, .check (js "a")⟩, ⟨900, .consume (js "a")⟩,
            ⟨950, .consume (js "a")⟩, ⟨1000, .consume (js "a")⟩]) ≤
      2 * ⌈lockingConfig.max⌉₊ := by
  have whole : ∀ now ∈ ({0, 900, 950, 1000} : Set ℚ), SafeInteger now := by
    rintro now (rfl | rfl | rfl | rfl)
    · exact @JsNumber.safeInteger_intCast 0 (by decide)
    · exact @JsNumber.safeInteger_intCast 900 (by decide)
    · exact @JsNumber.safeInteger_intCast 950 (by decide)
    · exact @JsNumber.safeInteger_intCast 1000 (by decide)
  have outlasts : LockoutOutlastsWindow lockingConfig {0, 900, 950, 1000} := by
    apply lockoutOutlastsWindow_of_whole safeInteger_thousand _ whole
    rintro lockoutMs ⟨⟩ _
    exact ⟨safeInteger_thousand, le_rfl⟩
  exact ((fixed_window_bound outlasts (by simp) (by decide +kernel)
    (by decide +kernel) (by decide)).2.1 safeInteger_thousand whole 900).1

/-- One and a half uses in a window of a second. -/
def fractionalConfig : FixedWindowRateLimitConfig :=
  { max := 3 / 2, windowMs := 1000 }

/-- Two uses at the end of one window and two at the start of the next. -/
def fourUses (key : JsString) : List TimedOperation :=
  [⟨0, .check key⟩, ⟨900, .consume key⟩, ⟨900, .consume key⟩,
    ⟨1000, .consume key⟩, ⟨1000, .consume key⟩]

/-- A fractional maximum admits one use more than it says. -/
theorem fractional_maximum_exceeded :
    1 ≤ fractionalConfig.max ∧ 0 < fractionalConfig.windowMs ∧
      LockoutOutlastsWindow fractionalConfig Set.univ ∧
      ((callKeys (fourUses (js "a"))).toFinset.card : ℚ) ≤
        maxBuckets fractionalConfig ∧
      (fourUses (js "a")).Pairwise
        (fun earlier later => earlier.now ≤ later.now) ∧
      (∀ call ∈ fourUses (js "a"), call.operation ≠ .reset (js "a")) ∧
      ¬ (usesIn (Set.Ico 900 (900 + fractionalConfig.windowMs))
          (answers fractionalConfig (js "a") .empty (fourUses (js "a"))) : ℚ) ≤
        2 * fractionalConfig.max := by
  refine ⟨by decide +kernel, by decide +kernel, ?_, by decide +kernel,
    by decide +kernel, by decide, ?_⟩
  · intro lockoutMs lockout
    cases lockout
  · have counted : usesIn (Set.Ico 900 (900 + fractionalConfig.windowMs))
        (answers fractionalConfig (js "a") .empty (fourUses (js "a"))) = 4 := by
      decide +kernel
    rw [counted]
    decide +kernel

/-- One use in a window of a minute. -/
def oneUseConfig : FixedWindowRateLimitConfig :=
  { max := 1, windowMs := 60000 }

/-- Readings whose differences are rounded up to a minute. -/
def roundedUses (key : JsString) : List TimedOperation :=
  [⟨-(60000 - 1 / 2 ^ 37), .check key⟩, ⟨1 / 2 ^ 39, .consume key⟩,
    ⟨1 / 2 ^ 38, .consume key⟩, ⟨60000, .consume key⟩]

/-- Where readings are fractions, a half-open interval as long as the window
can see three windows. -/
theorem rounded_interval_exceeded :
    (roundedUses (js "a")).Pairwise
        (fun earlier later => earlier.now ≤ later.now) ∧
      usesIn (Set.Ico (1 / 2 ^ 39) (1 / 2 ^ 39 + oneUseConfig.windowMs))
        (answers oneUseConfig (js "a") .empty (roundedUses (js "a"))) = 3 := by
  decide +kernel

end RateLimit

end VaultCore
