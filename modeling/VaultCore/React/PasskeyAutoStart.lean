import VaultCore.Browser.WebStorage
import VaultCore.Text.ParseInt

/-!
# Starting the passkey prompt once

A dock that opens by itself asks for the passkey, but not again shortly after
it has asked.  The time of the last prompt of a scope stands in the storage of
the session as a text.
-/

namespace VaultCore

def passkeyAutoStartStoragePrefix : JsString :=
  js "vault-core:passkey-auto-start:"

def defaultPasskeyAutoStartTtlMs : Nat := 10000

/-- The key of a scope in the storage. -/
def passkeyAutoStartKey (scopeKey : JsString) : JsString :=
  passkeyAutoStartStoragePrefix ++ scopeKey

/-- A stored time that is not yet as long ago as the given span. -/
def isRecentStart (now ttlMs : Nat) (raw : JsString) : Bool :=
  let previous := JsNumber.parseInt raw
  previous != .nan &&
    (JsNumber.add (.finite now) (JsNumber.negate previous)).lessThan
      (.finite ttlMs)

/-- The answer and the storage, where a method that throws answers yes. -/
def tryConsumePasskeyAutoStart (now : Nat) (scopeKey : JsString)
    (ttlMs : Nat := defaultPasskeyAutoStartTtlMs) (storage : PageStorage) :
    Bool × PageStorage :=
  match storage with
  | none => (true, none)
  | some present =>
      match present.getItem (passkeyAutoStartKey scopeKey) with
      | none => (true, some present)
      | some raw =>
          if raw.any fun text => !text.isEmpty && isRecentStart now ttlMs text
          then (false, some present)
          else
            (true, some ((present.setItem (passkeyAutoStartKey scopeKey)
              (numberText (.finite now))).getD present))

/-- Forget the last start of the scope. -/
def resetPasskeyAutoStartDedupe (scopeKey : JsString)
    (storage : PageStorage) : PageStorage :=
  storage.remove (passkeyAutoStartKey scopeKey)

/-! ## Runs -/

/-- The latest time that a date can have. -/
def maxTimeMs : Nat := 8640000000000000

/-- An attempt to start the prompt of a scope. -/
structure AutoStartAttempt where
  now : Nat
  scopeKey : JsString
  ttlMs : Nat := defaultPasskeyAutoStartTtlMs
  dated : now ≤ maxTimeMs
deriving DecidableEq

inductive AutoStartEvent where
  | attempt (attempt : AutoStartAttempt)
  | reset (scopeKey : JsString)
deriving DecidableEq

/-- An event, and whether it started the prompt. -/
structure AutoStartRecord where
  event : AutoStartEvent
  started : Bool

/-- What an event does to the storage, and whether it starts the prompt. -/
def autoStartStep (storage : PageStorage) :
    AutoStartEvent → Bool × PageStorage
  | .attempt attempt =>
      tryConsumePasskeyAutoStart attempt.now attempt.scopeKey attempt.ttlMs
        storage
  | .reset scopeKey => (false, resetPasskeyAutoStartDedupe scopeKey storage)

/-- The runs of a page that begins with an empty storage. -/
inductive AutoStartRun : List AutoStartRecord → PageStorage → Prop where
  | nil : AutoStartRun [] (some {})
  | snoc {records : List AutoStartRecord} {storage : PageStorage}
      (event : AutoStartEvent) :
      AutoStartRun records storage →
      AutoStartRun (records ++ [⟨event, (autoStartStep storage event).1⟩])
        (autoStartStep storage event).2

/-! ## The last prompt -/

namespace AutoStartRecord

/-- The scope was reset. -/
def Resets (scopeKey : JsString) (record : AutoStartRecord) : Prop :=
  record.event = .reset scopeKey

end AutoStartRecord

/-- The time at which a scope was started last, if it was not reset since. -/
def lastStart (scopeKey : JsString) : List AutoStartRecord → Option Nat :=
  List.foldl (fun last record =>
    match record with
    | ⟨.attempt attempt, true⟩ =>
        if attempt.scopeKey = scopeKey then some attempt.now else last
    | ⟨.attempt _, false⟩ => last
    | ⟨.reset other, _⟩ => if other = scopeKey then none else last) none

section LastStart

variable {records : List AutoStartRecord} {scopeKey : JsString}

theorem lastStart_started (attempt : AutoStartAttempt) :
    lastStart scopeKey (records ++ [⟨.attempt attempt, true⟩]) =
      if attempt.scopeKey = scopeKey then some attempt.now
      else lastStart scopeKey records := by
  simp [lastStart]

theorem lastStart_refused (attempt : AutoStartAttempt) :
    lastStart scopeKey (records ++ [⟨.attempt attempt, false⟩]) =
      lastStart scopeKey records := by
  simp [lastStart]

theorem lastStart_reset (other : JsString) (answer : Bool) :
    lastStart scopeKey (records ++ [⟨.reset other, answer⟩]) =
      if other = scopeKey then none else lastStart scopeKey records := by
  simp [lastStart]

/-- The last start is one of the records, with no reset after it. -/
theorem exists_of_lastStart {time : Nat}
    (last : lastStart scopeKey records = some time) :
    ∃ before attempt middle,
      records = before ++ ⟨.attempt attempt, true⟩ :: middle ∧
        attempt.scopeKey = scopeKey ∧ attempt.now = time ∧
        ∀ record ∈ middle, ¬ record.Resets scopeKey := by
  induction records using List.reverseRecOn with
  | nil => cases last
  | append_singleton records record ih =>
      have extend (plain : ¬ record.Resets scopeKey)
          (earlier : lastStart scopeKey records = some time) :
          ∃ before attempt middle,
            records ++ [record] =
              before ++ ⟨.attempt attempt, true⟩ :: middle ∧
              attempt.scopeKey = scopeKey ∧ attempt.now = time ∧
              ∀ record ∈ middle, ¬ record.Resets scopeKey := by
        obtain ⟨before, attempt, middle, rfl, same, time, kept⟩ := ih earlier
        refine ⟨before, attempt, middle ++ [record], by simp, same, time, ?_⟩
        intro other member
        rcases List.mem_append.mp member with known | new
        · exact kept other known
        · rw [List.mem_singleton.mp new]
          exact plain
      obtain ⟨event, answer⟩ := record
      cases event with
      | attempt attempt =>
          have plain : ¬ AutoStartRecord.Resets scopeKey
              ⟨.attempt attempt, answer⟩ := by
            intro impossible
            cases impossible
          cases answer with
          | false =>
              rw [lastStart_refused] at last
              exact extend plain last
          | true =>
              rw [lastStart_started] at last
              split_ifs at last with same
              · refine ⟨records, attempt, [], rfl, same,
                  Option.some.inj last, ?_⟩
                intro record impossible
                cases impossible
              · exact extend plain last
      | reset other =>
          rw [lastStart_reset] at last
          split_ifs at last with same
          apply extend _ last
          intro resets
          cases resets
          exact same rfl

end LastStart

/-! ## The stored times -/

theorem passkeyAutoStartKey_injective {first second : JsString}
    (same : passkeyAutoStartKey first = passkeyAutoStartKey second) :
    first = second :=
  List.append_cancel_left same

section Stored

/-- The text of a time. -/
def startText (time : Nat) : JsString := numberText (.finite time)

theorem parseInt_startText {time : Nat} (dated : time ≤ maxTimeMs) :
    JsNumber.parseInt (startText time) = .finite time := by
  apply JsNumber.parseInt_numberText
  unfold maxTimeMs at dated
  omega

theorem startText_nonempty {time : Nat} (dated : time ≤ maxTimeMs) :
    startText time ≠ [] := by
  intro nothing
  have read := parseInt_startText dated
  rw [nothing] at read
  cases read

/-- A stored time is recent exactly for so long. -/
theorem isRecentStart_startText {now previous : Nat} (ttlMs : Nat)
    (dated : now ≤ maxTimeMs) (stored : previous ≤ maxTimeMs) :
    isRecentStart now ttlMs (startText previous) =
      decide (now < previous + ttlMs) := by
  have read := parseInt_startText stored
  unfold maxTimeMs at dated stored
  have difference : JsNumber.add (.finite now)
      (JsNumber.negate (.finite previous)) =
        .finite ((now : ℤ) - previous : ℤ) := by
    have cast : (now : ℚ) + -(previous : ℚ) =
        (((now : ℤ) - previous : ℤ) : ℚ) := by
      push_cast
      ring
    simp only [JsNumber.negate, JsNumber.add, cast]
    exact JsNumber.roundToDouble_intCast (by omega)
  have compare : (((now : ℤ) - previous : ℤ) : ℚ) < (ttlMs : ℚ) ↔
      now < previous + ttlMs := by
    rw [← Int.cast_natCast ttlMs, Int.cast_lt]
    omega
  simp only [isRecentStart, read, difference, JsNumber.lessThan, compare]
  rfl

end Stored

/-- What is stored of every scope, in a storage that works. -/
structure AutoStartHolds (records : List AutoStartRecord)
    (storage : PageStorage) : Prop where
  works : ∃ present, storage = some present ∧ present.getThrows = false ∧
    present.setThrows = false ∧ present.removeThrows = false ∧
    ∀ scopeKey, present.items.get? (passkeyAutoStartKey scopeKey) =
      (lastStart scopeKey records).map startText
  dated : ∀ scopeKey time, lastStart scopeKey records = some time →
    time ≤ maxTimeMs

namespace AutoStartHolds

variable {records : List AutoStartRecord} {storage : PageStorage}

theorem initial : AutoStartHolds [] (some {}) where
  works := ⟨{}, rfl, rfl, rfl, rfl, fun _ => rfl⟩
  dated := by
    intro scopeKey time impossible
    cases impossible

/-- An attempt is refused exactly while the last start is recent. -/
theorem attempt (holds : AutoStartHolds records storage)
    (attempt : AutoStartAttempt) :
    (autoStartStep storage (.attempt attempt)).1 =
        !(lastStart attempt.scopeKey records).any (fun time =>
          decide (attempt.now < time + attempt.ttlMs)) ∧
      AutoStartHolds (records ++ [⟨.attempt attempt,
          (autoStartStep storage (.attempt attempt)).1⟩])
        (autoStartStep storage (.attempt attempt)).2 := by
  obtain ⟨present, rfl, reads, writes, removes, stored⟩ := holds.works
  have raw : present.getItem (passkeyAutoStartKey attempt.scopeKey) =
      some ((lastStart attempt.scopeKey records).map startText) := by
    simp [WebStorage.getItem, reads, stored]
  have blocks : ((lastStart attempt.scopeKey records).map startText).any
      (fun text =>
        !text.isEmpty && isRecentStart attempt.now attempt.ttlMs text) =
      (lastStart attempt.scopeKey records).any (fun time =>
        decide (attempt.now < time + attempt.ttlMs)) := by
    cases last : lastStart attempt.scopeKey records with
    | none => rfl
    | some time =>
        have dated := holds.dated _ time last
        have nonempty := startText_nonempty dated
        simp only [Option.map_some, Option.any_some,
          isRecentStart_startText attempt.ttlMs attempt.dated dated]
        simp [nonempty]
  simp only [autoStartStep, tryConsumePasskeyAutoStart, raw, blocks]
  cases refused : (lastStart attempt.scopeKey records).any (fun time =>
      decide (attempt.now < time + attempt.ttlMs)) with
  | true =>
      simp only [↓reduceIte, Bool.not_true, true_and]
      refine ⟨⟨present, rfl, reads, writes, removes, ?_⟩, ?_⟩
      · intro scopeKey
        rw [lastStart_refused]
        exact stored scopeKey
      · intro scopeKey time last
        rw [lastStart_refused] at last
        exact holds.dated scopeKey time last
  | false =>
      simp only [Bool.false_eq_true, ↓reduceIte, Bool.not_false, true_and]
      refine ⟨⟨_, rfl, ?_, ?_, ?_, ?_⟩, ?_⟩
      · simp [WebStorage.setItem, writes, reads]
      · simp [WebStorage.setItem, writes]
      · simp [WebStorage.setItem, writes, removes]
      · intro scopeKey
        simp only [WebStorage.setItem, writes, Bool.false_eq_true, ↓reduceIte,
          Option.getD_some, lastStart_started]
        split_ifs with same
        · rw [← same]
          exact OrderedMap.get?_set_self _ _ _
        · rw [← stored scopeKey]
          apply OrderedMap.get?_set_of_ne
          intro equal
          exact same (passkeyAutoStartKey_injective equal).symm
      · intro scopeKey time last
        rw [lastStart_started] at last
        split_ifs at last
        · rw [← Option.some.inj last]
          exact attempt.dated
        · exact holds.dated scopeKey time last

theorem reset (holds : AutoStartHolds records storage)
    (scopeKey : JsString) (answer : Bool) :
    AutoStartHolds (records ++ [⟨.reset scopeKey, answer⟩])
      (autoStartStep storage (.reset scopeKey)).2 := by
  obtain ⟨present, rfl, reads, writes, removes, stored⟩ := holds.works
  have after : (autoStartStep (some present) (.reset scopeKey)).2 =
      some { present with
        items := present.items.delete (passkeyAutoStartKey scopeKey) } := by
    simp [autoStartStep, resetPasskeyAutoStartDedupe, PageStorage.remove,
      WebStorage.removeItem, removes]
  refine ⟨⟨_, after, reads, writes, removes, ?_⟩, ?_⟩
  · intro other
    rw [lastStart_reset]
    split_ifs with same
    · rw [← same]
      exact OrderedMap.get?_delete_self _ _
    · rw [← stored other]
      apply OrderedMap.get?_delete_of_ne
      intro equal
      exact same (passkeyAutoStartKey_injective equal).symm
  · intro other time last
    rw [lastStart_reset] at last
    split_ifs at last
    exact holds.dated other time last

theorem run (runs : AutoStartRun records storage) :
    AutoStartHolds records storage := by
  induction runs with
  | nil => exact .initial
  | snoc event _ ih =>
      cases event with
      | attempt attempt => exact (ih.attempt attempt).2
      | reset scopeKey => exact ih.reset scopeKey _

end AutoStartHolds

namespace AutoStartRun

variable {records : List AutoStartRecord} {storage : PageStorage}

/-- What stands before an event of a run is a run, and the event is its step. -/
theorem before (runs : AutoStartRun records storage)
    {earlier : List AutoStartRecord} {record : AutoStartRecord}
    {later : List AutoStartRecord}
    (split : records = earlier ++ record :: later) :
    ∃ there, AutoStartRun earlier there ∧
      record = ⟨record.event, (autoStartStep there record.event).1⟩ := by
  induction runs generalizing later with
  | nil =>
      have impossible := congrArg List.length split
      simp at impossible
  | snoc event prior ih =>
      rcases List.eq_nil_or_concat later with rfl | ⟨most, last, rfl⟩
      · obtain ⟨rfl, equal⟩ := List.append_inj' split rfl
        refine ⟨_, prior, ?_⟩
        rw [← List.singleton_inj.mp equal]
      · rw [List.concat_eq_append, ← List.cons_append,
          ← List.append_assoc] at split
        exact ih (List.append_inj' split rfl).1

theorem answer (runs : AutoStartRun records storage)
    {earlier later : List AutoStartRecord} {attempt : AutoStartAttempt}
    {started : Bool}
    (split : records = earlier ++ ⟨.attempt attempt, started⟩ :: later) :
    started = !(lastStart attempt.scopeKey earlier).any (fun time =>
      decide (attempt.now < time + attempt.ttlMs)) := by
  obtain ⟨there, prior, step⟩ := runs.before split
  have answered : started =
      (autoStartStep there (.attempt attempt)).1 :=
    congrArg AutoStartRecord.started step
  rw [answered, ((AutoStartHolds.run prior).attempt attempt).1]

/-- Until it is reset, a scope keeps a start that is no earlier. -/
theorem lastStart_since (runs : AutoStartRun records storage)
    {earlier middle later : List AutoStartRecord} {first : AutoStartAttempt}
    (split : records =
      earlier ++ ⟨.attempt first, true⟩ :: middle ++ later)
    (kept : ∀ record ∈ middle, ¬ record.Resets first.scopeKey) :
    ∃ time,
      lastStart first.scopeKey (earlier ++ ⟨.attempt first, true⟩ :: middle) =
        some time ∧ first.now ≤ time := by
  induction middle using List.reverseRecOn generalizing later with
  | nil =>
      refine ⟨first.now, ?_, le_rfl⟩
      rw [lastStart_started, if_pos rfl]
  | append_singleton middle record ih =>
      have shorter : records =
          earlier ++ ⟨.attempt first, true⟩ :: middle ++ record :: later := by
        simpa using split
      obtain ⟨time, last, since⟩ := ih shorter fun other member =>
        kept other (List.mem_append_left _ member)
      have plain := kept record (by simp)
      have regroup : earlier ++ ⟨.attempt first, true⟩ ::
          (middle ++ [record]) =
          (earlier ++ ⟨.attempt first, true⟩ :: middle) ++ [record] := by
        simp
      rw [regroup]
      obtain ⟨event, started⟩ := record
      cases event with
      | attempt next =>
          cases started with
          | false =>
              rw [lastStart_refused]
              exact ⟨time, last, since⟩
          | true =>
              rw [lastStart_started]
              split_ifs with same
              · refine ⟨next.now, rfl, ?_⟩
                have granted := runs.answer shorter
                rw [same, last] at granted
                simp only [Option.any_some, Bool.true_eq, Bool.not_eq_true',
                  decide_eq_false_iff_not, Nat.not_lt] at granted
                omega
              · exact ⟨time, last, since⟩
      | reset other =>
          rw [lastStart_reset, if_neg]
          · exact ⟨time, last, since⟩
          · rintro rfl
            exact plain rfl

end AutoStartRun

/-- Over every run the starts of a scope are the given span apart, unless it
is reset in between, and an attempt is only refused so soon after a start. -/
theorem passkey_starts_spaced {records : List AutoStartRecord}
    {storage : PageStorage} (runs : AutoStartRun records storage) :
    (∀ earlier first middle second later,
      records = earlier ++ ⟨.attempt first, true⟩ :: middle ++
          ⟨.attempt second, true⟩ :: later →
        first.scopeKey = second.scopeKey →
        (∀ record ∈ middle, ¬ record.Resets first.scopeKey) →
        first.now + second.ttlMs ≤ second.now) ∧
      ∀ before second later,
        records = before ++ ⟨.attempt second, false⟩ :: later →
          ∃ earlier first middle,
            before = earlier ++ ⟨.attempt first, true⟩ :: middle ∧
              first.scopeKey = second.scopeKey ∧
              (∀ record ∈ middle, ¬ record.Resets second.scopeKey) ∧
              second.now < first.now + second.ttlMs := by
  constructor
  · intro earlier first middle second later split same kept
    obtain ⟨time, last, since⟩ := runs.lastStart_since split kept
    have granted := runs.answer split
    rw [← same, last] at granted
    simp only [Option.any_some, Bool.true_eq, Bool.not_eq_true',
      decide_eq_false_iff_not, Nat.not_lt] at granted
    omega
  · intro before second later split
    have refused := runs.answer split
    cases last : lastStart second.scopeKey before with
    | none =>
        rw [last] at refused
        cases refused
    | some time =>
        rw [last] at refused
        simp only [Option.any_some, Bool.false_eq, Bool.not_eq_false',
          decide_eq_true_eq] at refused
        obtain ⟨earlier, first, middle, rfl, same, rfl, kept⟩ :=
          exists_of_lastStart last
        exact ⟨earlier, first, middle, rfl, same, kept, refused⟩

/-! Three attempts at one scope, of which the second comes too soon. -/

def firstAttempt : AutoStartAttempt := ⟨1000, [97], 50, by decide⟩

def earlyAttempt : AutoStartAttempt := ⟨1020, [97], 50, by decide⟩

def laterAttempt : AutoStartAttempt := ⟨1050, [97], 50, by decide⟩

def threeAttempts : List AutoStartRecord :=
  [⟨.attempt firstAttempt, true⟩, ⟨.attempt earlyAttempt, false⟩,
    ⟨.attempt laterAttempt, true⟩]

theorem threeAttempts_run : ∃ storage, AutoStartRun threeAttempts storage := by
  have extend {records : List AutoStartRecord} {storage : PageStorage}
      (runs : AutoStartRun records storage) (attempt : AutoStartAttempt) :
      ∃ after, AutoStartRun (records ++ [⟨.attempt attempt,
        !(lastStart attempt.scopeKey records).any (fun time =>
          decide (attempt.now < time + attempt.ttlMs))⟩]) after := by
    rw [← ((AutoStartHolds.run runs).attempt attempt).1]
    exact ⟨_, .snoc (.attempt attempt) runs⟩
  obtain ⟨_, one⟩ := extend .nil firstAttempt
  obtain ⟨_, two⟩ := extend one earlyAttempt
  exact extend two laterAttempt

theorem passkey_starts_spaced_three :
    firstAttempt.now + laterAttempt.ttlMs ≤ laterAttempt.now ∧
      ∃ earlier first middle,
        [⟨.attempt firstAttempt, true⟩] =
            earlier ++ AutoStartRecord.mk (.attempt first) true :: middle ∧
          earlyAttempt.now < first.now + earlyAttempt.ttlMs := by
  obtain ⟨storage, runs⟩ := threeAttempts_run
  have spaced := passkey_starts_spaced runs
  constructor
  · apply spaced.1 [] firstAttempt [⟨.attempt earlyAttempt, false⟩]
      laterAttempt [] rfl rfl
    intro record member
    rw [List.mem_singleton.mp member]
    intro impossible
    cases impossible
  · obtain ⟨earlier, first, middle, equal, _, _, soon⟩ :=
      spaced.2 [⟨.attempt firstAttempt, true⟩] earlyAttempt _ rfl
    exact ⟨earlier, first, middle, equal, soon⟩

end VaultCore
