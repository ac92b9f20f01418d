import VaultCore.RateLimit.UnlockLimiter
import Mathlib.Data.List.Pairwise

/-!
# When a lockout is honoured

A use that brings a key's count to the maximum sets the end of a lockout on a
bucket whose window goes on.  A later decision about the key restarts an
expired window, and the restart also clears a lockout that is still running.
-/

namespace VaultCore

namespace RateLimit

open JsNumber (plus minus)

/-- A refusal that announces the end of the lockout. -/
def IsLockout (decision : RateLimitDecision) (lockoutEndMs now : ℚ) : Prop :=
  decision.allowed = false ∧ decision.lockedOut = true ∧
    decision.retryAfterMs = minus lockoutEndMs now

/-- Every decision about the key before the end of the lockout refuses with
that lockout. -/
def LockoutHonoured (config : FixedWindowRateLimitConfig) (buckets : Buckets)
    (key : JsString) (lockoutEndMs : ℚ) (calls : List TimedOperation) : Prop :=
  ∀ earlier call later, calls = earlier ++ call :: later →
    call.operation.Decides key → call.now < lockoutEndMs →
      ∃ decision,
        (perform config call (run config buckets earlier)).1 = some decision ∧
          IsLockout decision lockoutEndMs call.now

/-- A use of the key at `now` is counted and brings its count to the
maximum. -/
def ReachesMax (config : FixedWindowRateLimitConfig) (buckets : Buckets)
    (key : JsString) (now : ℚ) : Prop :=
  let bucket := currentBucket config buckets key now
  (buildDecision bucket config now).allowed = true ∧
    config.max ≤ (bucket.count + 1 : ℕ)

instance (config : FixedWindowRateLimitConfig) (buckets : Buckets)
    (key : JsString) (now : ℚ) :
    Decidable (ReachesMax config buckets key now) :=
  inferInstanceAs (Decidable (_ ∧ _))

private def Ordered (calls : List TimedOperation) : Prop :=
  calls.Pairwise fun earlier later => earlier.now ≤ later.now

private theorem lockoutHonoured_cons {config : FixedWindowRateLimitConfig}
    {buckets : Buckets} {key : JsString} {lockoutEndMs : ℚ}
    {call : TimedOperation} {calls : List TimedOperation} :
    LockoutHonoured config buckets key lockoutEndMs (call :: calls) ↔
      (call.operation.Decides key → call.now < lockoutEndMs →
        ∃ decision, (perform config call buckets).1 = some decision ∧
          IsLockout decision lockoutEndMs call.now) ∧
      LockoutHonoured config (perform config call buckets).2 key
        lockoutEndMs calls := by
  constructor
  · intro honoured
    constructor
    · exact honoured [] call calls rfl
    · intro earlier other later split
      exact honoured (call :: earlier) other later (by rw [split]; rfl)
  · rintro ⟨first, rest⟩ earlier other later split
    cases earlier with
    | nil =>
        obtain ⟨rfl, rfl⟩ := List.cons.inj split
        exact first
    | cons head tail =>
        obtain ⟨rfl, tailSplit⟩ := List.cons.inj split
        exact rest tail other later tailSplit

private theorem lockoutHonoured_of_ended {config : FixedWindowRateLimitConfig}
    {buckets : Buckets} {key : JsString} {lockoutEndMs : ℚ}
    {calls : List TimedOperation}
    (ended : ∀ call ∈ calls, lockoutEndMs ≤ call.now) :
    LockoutHonoured config buckets key lockoutEndMs calls := by
  intro earlier call later split _ running
  have member : call ∈ calls := by
    rw [split]
    exact List.mem_append_right _ List.mem_cons_self
  exact absurd running (not_lt.mpr (ended call member))

/-- An operation on the key decides about it or resets it. -/
private theorem key_ne_of_not_decides {key : JsString}
    {operation : LimiterOperation} (undecided : ¬ operation.Decides key)
    (noReset : operation ≠ .reset key) : key ≠ operation.key := by
  rintro rfl
  cases operation with
  | check target => exact undecided (.inl rfl)
  | consume target => exact undecided (.inr rfl)
  | reset target => exact noReset rfl

section Locked

variable {config : FixedWindowRateLimitConfig} {buckets : Buckets}
  {key : JsString} {now lockoutEndMs : ℚ} {bucket : BucketState}

private theorem refresh_running
    (locked : bucket.lockedOutUntilMs = some lockoutEndMs)
    (running : now < lockoutEndMs)
    (inWindow : minus now bucket.windowStartMs < config.windowMs) :
    refreshBucketIfExpired bucket config now = bucket := by
  have notOver : lockoutExpired bucket now = false := by
    simp [lockoutExpired, locked, running]
  have notExpired : windowExpired bucket config now = false := by
    simpa only [windowExpired, decide_eq_false_iff_not, not_le] using inWindow
  simp [refreshBucketIfExpired, notOver, notExpired]

private theorem refresh_windowOver
    (windowOver : config.windowMs ≤ minus now bucket.windowStartMs) :
    refreshBucketIfExpired bucket config now = freshBucket now := by
  have expired : windowExpired bucket config now = true := by
    simpa only [windowExpired, decide_eq_true_eq] using windowOver
  simp [refreshBucketIfExpired, expired]

private theorem buildDecision_running
    (locked : bucket.lockedOutUntilMs = some lockoutEndMs)
    (running : now < lockoutEndMs) :
    buildDecision bucket config now = lockoutDecision lockoutEndMs now := by
  simp [buildDecision, locked, running]

/-- While lockout and window both run, a decision about the key refuses with
the lockout and leaves the bucket as it is. -/
private theorem perform_running {call : TimedOperation}
    (decides : call.operation.Decides key)
    (found : buckets.get? key = some bucket) (used : bucket.count ≠ 0)
    (locked : bucket.lockedOutUntilMs = some lockoutEndMs)
    (running : call.now < lockoutEndMs)
    (inWindow : minus call.now bucket.windowStartMs < config.windowMs) :
    (perform config call buckets).1 =
        some (lockoutDecision lockoutEndMs call.now) ∧
      (perform config call buckets).2.get? key = some bucket := by
  have survives := prunable_of_used used config call.now
  have current : currentBucket config buckets key call.now = bucket := by
    rw [currentBucket_of_some found survives]
    exact refresh_running locked running inWindow
  have decision : buildDecision bucket config call.now =
      lockoutDecision lockoutEndMs call.now :=
    buildDecision_running locked running
  obtain ⟨now, operation⟩ := call
  rcases decides with rfl | rfl
  · constructor
    · simp only [perform, check_decision, current, decision]
    · simp only [perform, check_get?_self, current]
  · have refused : (buildDecision (currentBucket config buckets key now)
        config now).allowed = false := by
      rw [current, decision]
      rfl
    obtain ⟨outcome, kept⟩ := consume_refused refused
    constructor
    · simp only [perform, outcome, current, decision]
    · simp only [perform, kept, current]

/-- When the window is over, a decision about the key forgets the lockout. -/
private theorem perform_windowOver {call : TimedOperation}
    (decides : call.operation.Decides key)
    (found : buckets.get? key = some bucket) (used : bucket.count ≠ 0)
    (windowOver : config.windowMs ≤ minus call.now bucket.windowStartMs)
    {decision : RateLimitDecision}
    (decided : (perform config call buckets).1 = some decision) :
    decision.lockedOut = false ∨ decision.allowed = true := by
  have survives := prunable_of_used used config call.now
  have current : currentBucket config buckets key call.now =
      freshBucket call.now := by
    rw [currentBucket_of_some found survives]
    exact refresh_windowOver windowOver
  have unlocked : (buildDecision (freshBucket call.now) config
      call.now).lockedOut = false := rfl
  obtain ⟨now, operation⟩ := call
  rcases decides with rfl | rfl
  · simp only [perform, check_decision, current, Option.some.injEq] at decided
    rw [← decided]
    exact .inl unlocked
  · cases allowance : (buildDecision (currentBucket config buckets key now)
        config now).allowed with
    | false =>
        simp only [perform, (consume_refused allowance).1, current,
          Option.some.injEq] at decided
        rw [← decided]
        exact .inl unlocked
    | true =>
        rw [currentBucket] at allowance
        simp only [perform, consume, if_pos allowance,
          Option.some.injEq] at decided
        rw [← decided]
        exact .inr rfl

/-- From a locked bucket on, the lockout is honoured exactly when no decision
about the key falls between the end of the window and the end of the
lockout. -/
private theorem lockoutHonoured_iff_of_locked {domain : List JsString}
    {calls : List TimedOperation} (fits : Fits config domain buckets)
    (known : ∀ other ∈ callKeys calls, other ∈ domain)
    (ordered : Ordered calls)
    (noReset : ∀ call ∈ calls, call.operation ≠ .reset key)
    (found : buckets.get? key = some bucket) (used : bucket.count ≠ 0)
    (locked : bucket.lockedOutUntilMs = some lockoutEndMs) :
    LockoutHonoured config buckets key lockoutEndMs calls ↔
      ∀ call ∈ calls, call.operation.Decides key →
        call.now < lockoutEndMs →
          minus call.now bucket.windowStartMs < config.windowMs := by
  induction calls generalizing buckets with
  | nil =>
      constructor
      · intro _ call member
        cases member
      · intro _
        apply lockoutHonoured_of_ended
        intro call member
        cases member
  | cons call calls ih =>
      obtain ⟨callFirst, callsOrdered⟩ := List.pairwise_cons.mp ordered
      have callKnown : call.operation.key ∈ domain :=
        known _ List.mem_cons_self
      have callsKnown : ∀ other ∈ callKeys calls, other ∈ domain :=
        fun other member => known other (List.mem_cons_of_mem _ member)
      have callsNoReset : ∀ other ∈ calls, other.operation ≠ .reset key :=
        fun other member => noReset other (List.mem_cons_of_mem _ member)
      have nextFits := fits.perform callKnown
      rw [lockoutHonoured_cons]
      by_cases onKey : call.operation.Decides key
      · by_cases running : call.now < lockoutEndMs
        · by_cases inWindow :
              minus call.now bucket.windowStartMs < config.windowMs
          · obtain ⟨decision, kept⟩ := perform_running onKey found used
              locked running inWindow
            have later := ih nextFits callsKnown callsOrdered callsNoReset kept
            rw [later, List.forall_mem_cons]
            constructor
            · rintro ⟨-, rest⟩
              exact ⟨fun _ _ => inWindow, rest⟩
            · rintro ⟨-, rest⟩
              refine ⟨fun _ _ => ⟨_, decision, ?_⟩, rest⟩
              exact ⟨rfl, rfl, rfl⟩
          · constructor
            · rintro ⟨honoured, -⟩
              obtain ⟨decision, decided, refused, lockedOut, -⟩ :=
                honoured onKey running
              rcases perform_windowOver onKey found used
                (not_lt.mp inWindow) decided with cleared | allowed
              · rw [cleared] at lockedOut
                cases lockedOut
              · rw [allowed] at refused
                cases refused
            · intro inside
              exact absurd (inside call List.mem_cons_self onKey running)
                inWindow
        · have ended : ∀ other ∈ calls, lockoutEndMs ≤ other.now :=
            fun other member =>
              (not_lt.mp running).trans (callFirst other member)
          constructor
          · intro _ other member _ stillRunning
            rcases List.mem_cons.mp member with same | later
            · rw [same] at stillRunning
              exact absurd stillRunning running
            · exact absurd stillRunning (not_lt.mpr (ended other later))
          · intro _
            exact ⟨fun _ stillRunning => absurd stillRunning running,
              lockoutHonoured_of_ended ended⟩
      · have different : key ≠ call.operation.key :=
          key_ne_of_not_decides onKey (noReset call List.mem_cons_self)
        have kept := perform_other fits callKnown different found
          (prunable_of_used used config call.now)
        have later := ih nextFits callsKnown callsOrdered callsNoReset kept
        rw [later, List.forall_mem_cons]
        constructor
        · rintro ⟨-, rest⟩
          exact ⟨fun decides => absurd decides onKey, rest⟩
        · rintro ⟨-, rest⟩
          exact ⟨fun decides => absurd decides onKey, rest⟩

end Locked

private theorem consume_reachesMax {config : FixedWindowRateLimitConfig}
    {buckets : Buckets} {key : JsString} {now lockoutMs : ℚ}
    (lockout : config.lockoutMs = some lockoutMs) (positive : 0 < lockoutMs)
    (reaches : ReachesMax config buckets key now) :
    (consume config key now buckets).2.get? key =
      some
        { windowStartMs := (currentBucket config buckets key now).windowStartMs
          count := (currentBucket config buckets key now).count + 1
          lockedOutUntilMs := some (plus now lockoutMs) } := by
  obtain ⟨allowed, full⟩ := reaches
  rw [consume_allowed allowed]
  simp only [countUse, lockout, full, positive, and_self, ↓reduceIte]

/-- A lockout set at `now` is honoured throughout the rest of a run exactly
when no later decision about the key falls between the end of the window in
which the maximum was reached and the end of the lockout. -/
theorem lockout_honoured_iff {config : FixedWindowRateLimitConfig}
    {before after : List TimedOperation} {key : JsString}
    {now lockoutMs : ℚ}
    (lockout : config.lockoutMs = some lockoutMs) (positive : 0 < lockoutMs)
    (clock : (before ++ ⟨now, .consume key⟩ :: after).Pairwise
      fun earlier later => earlier.now ≤ later.now)
    (capacity : ((callKeys
      (before ++ ⟨now, .consume key⟩ :: after)).toFinset.card : ℚ) ≤
        maxBuckets config)
    (noReset : ∀ call ∈ after, call.operation ≠ .reset key)
    (reaches : ReachesMax config (run config .empty before) key now) :
    LockoutHonoured config
        (run config .empty (before ++ [⟨now, .consume key⟩])) key
        (plus now lockoutMs) after ↔
      ∀ call ∈ after, call.operation.Decides key →
        call.now < plus now lockoutMs →
          minus call.now
            (currentBucket config (run config .empty before) key
              now).windowStartMs < config.windowMs := by
  let domain := callKeys (before ++ ⟨now, .consume key⟩ :: after)
  have start : Fits config domain (.empty : Buckets) :=
    { capacity := capacity, within := by simp }
  have beforeKnown : ∀ other ∈ callKeys (before ++ [⟨now, .consume key⟩]),
      other ∈ domain := by
    intro other member
    simp only [callKeys, List.map_append, List.mem_append, List.map_cons,
      List.map_nil, List.mem_cons, List.not_mem_nil, or_false, domain]
      at member ⊢
    tauto
  have afterKnown : ∀ other ∈ callKeys after, other ∈ domain := by
    intro other member
    simp only [callKeys, List.map_append, List.mem_append, List.map_cons,
      List.mem_cons, domain] at member ⊢
    tauto
  have fits := start.run beforeKnown
  have afterOrdered : Ordered after :=
    (List.pairwise_cons.mp (List.pairwise_append.mp clock).2.1).2
  have locked := consume_reachesMax lockout positive reaches
  have found : (run config .empty (before ++ [⟨now, .consume key⟩])).get? key =
      some
        { windowStartMs := (currentBucket config (run config .empty before)
            key now).windowStartMs
          count := (currentBucket config (run config .empty before)
            key now).count + 1
          lockedOutUntilMs := some (plus now lockoutMs) } := by
    rw [run_append]
    exact locked
  have settled := lockoutHonoured_iff_of_locked fits afterKnown afterOrdered
    noReset found (Nat.succ_ne_zero _) rfl
  exact settled

/-- The failures before the one that reaches the default maximum. -/
def fourFailures (key : JsString) : List TimedOperation :=
  List.replicate 4 ⟨0, .consume key⟩

theorem lockout_honoured_iff_default :
    LockoutHonoured (limiterConfig defaultVaultUnlockRateLimit)
        (run (limiterConfig defaultVaultUnlockRateLimit) .empty
          (fourFailures (js "a") ++ [⟨0, .consume (js "a")⟩])) (js "a")
        (plus 0 defaultVaultUnlockRateLimit.lockoutMs)
        [⟨899999, .check (js "a")⟩] ↔
      ∀ call ∈ [(⟨899999, .check (js "a")⟩ : TimedOperation)],
        call.operation.Decides (js "a") →
          call.now < plus 0 defaultVaultUnlockRateLimit.lockoutMs →
          minus call.now (currentBucket
            (limiterConfig defaultVaultUnlockRateLimit)
            (run (limiterConfig defaultVaultUnlockRateLimit) .empty
              (fourFailures (js "a"))) (js "a") 0).windowStartMs <
                (limiterConfig defaultVaultUnlockRateLimit).windowMs :=
  lockout_honoured_iff rfl (by decide +kernel) (by decide +kernel)
    (by decide +kernel) (by decide) (by decide +kernel)

theorem default_lockout_not_honoured :
    ReachesMax (limiterConfig defaultVaultUnlockRateLimit)
        (run (limiterConfig defaultVaultUnlockRateLimit) .empty
          (fourFailures (js "a"))) (js "a") 0 ∧
      ¬ LockoutHonoured (limiterConfig defaultVaultUnlockRateLimit)
        (run (limiterConfig defaultVaultUnlockRateLimit) .empty
          (fourFailures (js "a") ++ [⟨0, .consume (js "a")⟩])) (js "a")
        (plus 0 defaultVaultUnlockRateLimit.lockoutMs)
        [⟨900000, .check (js "a")⟩] := by
  refine ⟨by decide +kernel, ?_⟩
  intro honoured
  obtain ⟨decision, decided, refused, -⟩ :=
    honoured [] ⟨900000, .check (js "a")⟩ [] rfl (.inl rfl)
      (by decide +kernel)
  have allowed : ((perform (limiterConfig defaultVaultUnlockRateLimit)
      ⟨900000, .check (js "a")⟩
      (run (limiterConfig defaultVaultUnlockRateLimit) .empty
        (fourFailures (js "a") ++ [⟨0, .consume (js "a")⟩]))).1.map
          RateLimitDecision.allowed) = some true := by
    decide +kernel
  rw [run_nil] at decided
  rw [decided] at allowed
  simp [refused] at allowed

end RateLimit

end VaultCore
