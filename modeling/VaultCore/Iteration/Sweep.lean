import VaultCore.Iteration.Collecting
import Mathlib.Data.Nat.Bitwise

/-!
# Sweeps

A sweep steps through numbers and marks their values as the bits of one
number, so that long runs can be evaluated.
-/

namespace VaultCore

namespace Collecting

/-- `f x`, with `x` evaluated first: only a numeral is zero or a successor. -/
def force {α : Type} (x : Nat) (f : Nat → α) : α :=
  Nat.rec (f 0) (fun n _ => f (Nat.succ n)) x

@[simp] theorem force_eq {α : Type} (x : Nat) (f : Nat → α) :
    force x f = f x := by
  cases x <;> rfl

/-- Where a sweep stands, the values it has marked and how many they are. -/
structure Sweep where
  state : Nat
  bits : Nat
  found : Nat
deriving DecidableEq

/-- Step until `stop` says so of a state and the number of values.  The
arithmetic is that which the kernel has built in. -/
def sweep (step value : Nat → Nat) (stop : Nat → Nat → Bool) :
    Nat → Nat → Nat → Nat → Sweep
  | 0, state, bits, found => ⟨state, bits, found⟩
  | turns + 1, state, bits, found =>
      force (step state) fun next =>
        force (value next) fun position =>
          force (Nat.sub (Nat.succ found)
              (Nat.mod (Nat.shiftRight bits position) 2)) fun found =>
            force (Nat.lor bits (Nat.shiftLeft 1 position)) fun bits =>
              bif stop next found then ⟨next, bits, found⟩
              else sweep step value stop turns next bits found

/-- The bits are those of the values, and there are so many of them. -/
structure Marks (bits found : Nat) (values : Finset Nat) : Prop where
  bits : ∀ position, bits.testBit position = decide (position ∈ values)
  found : found = values.card

variable {step value : Nat → Nat} {stop : Nat → Nat → Bool}
  {turns start bits found : Nat}

theorem Marks.nothing : Marks 0 0 ∅ where
  bits position := by simp
  found := rfl

theorem Marks.insert {values : Finset Nat} (marks : Marks bits found values)
    (position : Nat) :
    Marks (bits ||| 1 <<< position) (found + 1 - (bits >>> position) % 2)
      (Insert.insert position values) where
  bits other := by
    rw [Nat.testBit_or, marks.bits, Nat.one_shiftLeft, Nat.testBit_two_pow]
    simp only [Finset.mem_insert, ← Bool.decide_or, decide_eq_decide]
    rw [or_comm, eq_comm]
  found := by
    rw [Nat.shiftRight_eq_div_pow, ← Nat.toNat_testBit, marks.bits,
      marks.found]
    by_cases known : position ∈ values
    · simp [known]
    · simp [known]

/-- A sweep marks the values of the states it has come through. -/
theorem sweep_marks {values : Finset Nat} (marks : Marks bits found values) :
    ∃ taken, Marks (sweep step value stop turns start bits found).bits
      (sweep step value stop turns start bits found).found
      (values ∪ shown step value start taken) := by
  induction turns generalizing start bits found values with
  | zero =>
      refine ⟨0, ?_⟩
      have nothing : shown step value start 0 = ∅ := rfl
      rw [nothing, Finset.union_empty]
      exact marks
  | succ turns ih =>
      simp only [sweep, force_eq]
      have next := marks.insert (value (step start))
      have joined : ∀ taken, Insert.insert (value (step start)) values ∪
          shown step value (step start) taken =
            values ∪ shown step value start (taken + 1) := by
        intro taken
        ext candidate
        simp only [Finset.mem_union, Finset.mem_insert, mem_shown_succ]
        tauto
      cases stop (step start) (Nat.sub (Nat.succ found)
          (Nat.mod (Nat.shiftRight bits (value (step start))) 2)) with
      | true =>
          refine ⟨1, ?_⟩
          have nothing : shown step value (step start) 0 = ∅ := rfl
          rw [← joined 0, nothing, Finset.union_empty]
          exact next
      | false =>
          obtain ⟨taken, marked⟩ := @ih (step start) _ _ _ next
          rw [joined] at marked
          exact ⟨taken + 1, marked⟩

theorem exists_shown_of_sweep :
    ∃ taken, (sweep step value stop turns start 0 0).found =
      (shown step value start taken).card := by
  obtain ⟨taken, marked⟩ := @sweep_marks step value stop turns start 0 0 ∅
    Marks.nothing
  rw [Finset.empty_union] at marked
  exact ⟨taken, marked.found⟩

end Collecting

end VaultCore
