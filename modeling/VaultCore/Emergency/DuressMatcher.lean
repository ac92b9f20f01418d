import VaultCore.Data.Traced
import VaultCore.Emergency.DuressSpelling
import Mathlib.Algebra.BigOperators.Group.List.Basic

/-!
# The comparisons of the duress matcher

The search for a duress sequence runs two loops to their ends and gathers the
answers bit by bit.  Here every comparison is seen by the positions of the two
characters, so that what the search finds and what its running time shows are
read off the same loops.
-/

namespace VaultCore

/-- The positions in the password and in the sequence of the characters that
are compared. -/
abbrev ComparedPositions := Nat × Nat

/-- Every comparison of a search that goes through all starts and offsets. -/
def allComparisons (passwordLength sequenceLength : Nat) :
    List ComparedPositions :=
  (List.range (passwordLength + 1 - sequenceLength)).flatMap fun start =>
    (List.range sequenceLength).map fun offset => (start + offset, offset)

section Loops

variable (passwordChars sequenceChars : List CodePoint)

/-- `passwordChars[start + offset] === sequenceChars[offset] ? 1 : 0` -/
def compareChars (start offset : Nat) : Traced ComparedPositions Nat :=
  .observe (start + offset, offset)
    (if passwordChars[start + offset]? = sequenceChars[offset]? then 1 else 0)

/-- The inner loop. -/
def matchAtStart (start : Nat) : Traced ComparedPositions Nat :=
  (List.range sequenceChars.length).foldlM (fun matched offset => do
    let equal ← compareChars passwordChars sequenceChars start offset
    pure (matched &&& equal)) 1

/-- The outer loop, which is not entered when the last start is negative. -/
def searchStarts : Traced ComparedPositions Nat :=
  let maxStart : Int := passwordChars.length - sequenceChars.length
  (List.range (maxStart + 1).toNat).foldlM (fun found start => do
    let matched ← matchAtStart passwordChars sequenceChars start
    pure (found ||| matched)) 0

end Loops

/-- `containsDuressSequence` with the comparisons it makes. -/
def comparedContainsDuressSequence (password sequence : JsString) :
    Traced ComparedPositions Bool :=
  if sequence.length = 0 then pure false
  else if maxDuressPasswordLength < password.length then pure false
  else if maxDuressPasswordLength < sequence.length then pure false
  else if password.length < sequence.length then pure false
  else do
    let found ← searchStarts (Utf16.toCodePoints password)
      (Utf16.toCodePoints sequence)
    pure (found == 1)

section Accumulators

theorem foldl_and_flag {ι : Type} (holds : ι → Prop) [DecidablePred holds]
    (indices : List ι) (flag : Prop) [Decidable flag] :
    indices.foldl (fun (matched : Nat) index =>
        matched &&& if holds index then 1 else 0) (if flag then 1 else 0) =
      if flag ∧ ∀ index ∈ indices, holds index then 1 else 0 := by
  induction indices generalizing flag with
  | nil => simp
  | cons index indices ih =>
      have step : ((if flag then 1 else 0) &&&
          if holds index then 1 else 0 : Nat) =
            if flag ∧ holds index then 1 else 0 := by
        by_cases set : flag <;> by_cases held : holds index <;> simp [set, held]
      rw [List.foldl_cons, step, ih]
      simp only [List.forall_mem_cons, and_assoc]

theorem foldl_or_flag {ι : Type} (holds : ι → Prop) [DecidablePred holds]
    (indices : List ι) (flag : Prop) [Decidable flag] :
    indices.foldl (fun (found : Nat) index =>
        found ||| if holds index then 1 else 0) (if flag then 1 else 0) =
      if flag ∨ ∃ index ∈ indices, holds index then 1 else 0 := by
  induction indices generalizing flag with
  | nil => simp
  | cons index indices ih =>
      have step : ((if flag then 1 else 0) |||
          if holds index then 1 else 0 : Nat) =
            if flag ∨ holds index then 1 else 0 := by
        by_cases set : flag <;> by_cases held : holds index <;> simp [set, held]
      rw [List.foldl_cons, step, ih]
      simp only [List.exists_mem_cons_iff, or_assoc]

end Accumulators

section Loops

variable {passwordChars sequenceChars : List CodePoint}

theorem compared_prefix_iff (start : Nat) :
    (∀ offset ∈ List.range sequenceChars.length,
        passwordChars[start + offset]? = sequenceChars[offset]?) ↔
      sequenceChars <+: passwordChars.drop start := by
  simp only [List.prefix_iff_getElem?, List.getElem?_drop, List.mem_range]
  constructor
  · intro equal offset bound
    rw [equal offset bound, List.getElem?_eq_getElem bound]
  · intro equal offset bound
    rw [equal offset bound, List.getElem?_eq_getElem bound]

theorem matchAtStart_value (start : Nat) :
    (matchAtStart passwordChars sequenceChars start).value =
      if sequenceChars <+: passwordChars.drop start then 1 else 0 := by
  have gathered := foldl_and_flag
    (fun offset => passwordChars[start + offset]? = sequenceChars[offset]?)
    (List.range sequenceChars.length) True
  simp only [if_true, true_and, compared_prefix_iff] at gathered
  rw [matchAtStart, Traced.value_foldlM, ← gathered]
  rfl

theorem matchAtStart_trace (start : Nat) :
    (matchAtStart passwordChars sequenceChars start).trace =
      (List.range sequenceChars.length).map
        fun offset => (start + offset, offset) := by
  have shown : ∀ (matched offset : Nat),
      (do
        let equal ← compareChars passwordChars sequenceChars start offset
        pure (matched &&& equal) : Traced ComparedPositions Nat).trace =
          [(start + offset, offset)] := fun _ _ => rfl
  rw [matchAtStart, Traced.trace_foldlM shown, List.map_eq_flatMap]

theorem startCount_eq :
    ((passwordChars.length : Int) - sequenceChars.length + 1).toNat =
      passwordChars.length + 1 - sequenceChars.length := by
  omega

theorem searchStarts_value :
    (searchStarts passwordChars sequenceChars).value =
      if foundFrom sequenceChars passwordChars
          (passwordChars.length + 1 - sequenceChars.length) then 1 else 0 := by
  have gathered := foldl_or_flag
    (fun start => sequenceChars <+: passwordChars.drop start)
    (List.range (passwordChars.length + 1 - sequenceChars.length)) False
  simp only [if_false, false_or, List.mem_range, ← matchAtStart_value,
    ← foundFrom_iff] at gathered
  rw [searchStarts, startCount_eq, Traced.value_foldlM, ← gathered]
  rfl

theorem searchStarts_trace :
    (searchStarts passwordChars sequenceChars).trace =
      allComparisons passwordChars.length sequenceChars.length := by
  have shown : ∀ (found start : Nat),
      (do
        let matched ← matchAtStart passwordChars sequenceChars start
        pure (found ||| matched) : Traced ComparedPositions Nat).trace =
          (List.range sequenceChars.length).map
            fun offset => (start + offset, offset) := by
    intro found start
    rw [Traced.bind_trace, matchAtStart_trace, Traced.pure_trace,
      List.append_nil]
  rw [searchStarts, startCount_eq, Traced.trace_foldlM shown, allComparisons]

end Loops

theorem allComparisons_length (passwordLength sequenceLength : Nat) :
    (allComparisons passwordLength sequenceLength).length =
      (passwordLength + 1 - sequenceLength) * sequenceLength := by
  simp [allComparisons, List.length_flatMap]

section Matcher

variable {password sequence : JsString}

theorem comparedContainsDuressSequence_value :
    (comparedContainsDuressSequence password sequence).value =
      containsDuressSequence password sequence := by
  unfold comparedContainsDuressSequence containsDuressSequence
  split_ifs with empty long longSequence longer
  · rfl
  · rfl
  · rfl
  · rfl
  · rw [Traced.bind_value, Traced.pure_value, searchStarts_value]
    split_ifs with found
    · rw [found]
      rfl
    · rw [Bool.eq_false_iff.mpr found]
      rfl

theorem comparedContainsDuressSequence_trace :
    (comparedContainsDuressSequence password sequence).trace =
      if sequence.length = 0 ∨ maxDuressPasswordLength < password.length ∨
          maxDuressPasswordLength < sequence.length ∨
          password.length < sequence.length then []
      else allComparisons (Utf16.toCodePoints password).length
        (Utf16.toCodePoints sequence).length := by
  unfold comparedContainsDuressSequence
  by_cases empty : sequence.length = 0
  · simp [empty]
  · by_cases long : maxDuressPasswordLength < password.length
    · simp [empty, long]
    · by_cases longSequence : maxDuressPasswordLength < sequence.length
      · simp [empty, long, longSequence]
      · by_cases longer : password.length < sequence.length
        · simp [empty, long, longSequence, longer]
        · simp only [empty, long, longSequence, longer, if_false, or_self,
            Traced.bind_trace, searchStarts_trace, Traced.pure_trace,
            List.append_nil]

end Matcher

/-- The matcher decides containment among strings that are not refused for
their lengths.  How many comparisons it makes is decided by the numbers of
units and of code points, whatever the strings hold. -/
theorem duress_matcher_exact (password sequence : JsString) :
    (comparedContainsDuressSequence password sequence).value =
        containsDuressSequence password sequence ∧
      (containsDuressSequence password sequence = true ↔
        sequence ≠ [] ∧ password.length ≤ 256 ∧ sequence.length ≤ 256 ∧
          Utf16.toCodePoints sequence <:+: Utf16.toCodePoints password) ∧
      (comparedContainsDuressSequence password sequence).trace.length =
        if sequence.length = 0 ∨ 256 < password.length ∨
            256 < sequence.length ∨ password.length < sequence.length then 0
        else
          ((Utf16.toCodePoints password).length + 1 -
              (Utf16.toCodePoints sequence).length) *
            (Utf16.toCodePoints sequence).length := by
  refine ⟨comparedContainsDuressSequence_value, ?_, ?_⟩
  · rw [containsDuressSequence_iff]
    constructor
    · rintro ⟨filled, short, infixed⟩
      have shorter := length_le_of_infix infixed
      exact ⟨filled, short, shorter.trans short, infixed⟩
    · rintro ⟨filled, short, -, infixed⟩
      exact ⟨filled, short, infixed⟩
  · rw [comparedContainsDuressSequence_trace, apply_ite List.length,
      allComparisons_length]
    rfl

/-- One code point each, but the key emoji has two units. -/
theorem emoji_sequence_never_compared :
    (Utf16.toCodePoints (js "a")).length = 1 ∧
      (Utf16.toCodePoints (js "b")).length = 1 ∧
      (Utf16.toCodePoints [0xD83D, 0xDD11]).length = 1 ∧
      (comparedContainsDuressSequence (js "a") (js "b")).trace.length = 1 ∧
      (comparedContainsDuressSequence (js "a")
        [0xD83D, 0xDD11]).trace.length = 0 := by
  decide +kernel

end VaultCore
