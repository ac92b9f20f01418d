import VaultCore.Errors
import VaultCore.Iteration.Collecting
import VaultCore.Text.WholeNumber
import Mathlib.Data.List.Sort
import Mathlib.Tactic.NormNum

/-!
# Words to confirm

The positions of the words that a user has to repeat are drawn with a
congruential generator until enough different ones are found.  The generator
multiplies doubles, whose last digits are rounded away, and may be caught in
seeds that never show the missing positions.
-/

namespace VaultCore

open Collecting JsNumber

/-- `wordCount * 7919 + count * 104729` -/
def firstSeed (wordCount count : Nat) : Nat :=
  wholeSum (wholeProduct wordCount 7919) (wholeProduct count 104729)

/-- `(seed * 1103515245 + 12345) & 0x7fffffff`, of the lower 32 bits. -/
def nextSeed (seed : Nat) : Nat :=
  wholeSum (wholeProduct seed 1103515245) 12345 % 2 ^ 32 &&& 0x7fffffff

/-- `(seed % wordCount) + 1` -/
def candidateIndex (wordCount seed : Nat) : Nat :=
  seed % wordCount + 1

/-- The answer if the loop takes at most the given number of turns. -/
def pickRecoveryConfirmationIndices (turns wordCount : Nat)
    (count : Nat := 3) : Option (Except VaultError (List Nat)) :=
  if wordCount < count then
    some (.error (.error "Not enough words for confirmation"))
  else
    (collect nextSeed (candidateIndex wordCount) count turns
        (firstSeed wordCount count) []).map fun indices =>
      .ok (indices.insertionSort (· ≤ ·))

/-- The positions that so many turns of the generator show. -/
def positionsShown (wordCount count turns : Nat) : Finset Nat :=
  shown nextSeed (candidateIndex wordCount) (firstSeed wordCount count) turns

/-- The loop ends, and different words are asked for in their order. -/
def ConfirmationPrompts (wordCount count : Nat) : Prop :=
  ∃ turns indices,
    pickRecoveryConfirmationIndices turns wordCount count =
        some (.ok indices) ∧
      indices.length = count ∧ indices.Pairwise (· < ·) ∧
      ∀ index ∈ indices, 1 ≤ index ∧ index ≤ wordCount

theorem nextSeed_eq_mod (seed : Nat) :
    nextSeed seed =
      wholeSum (wholeProduct seed 1103515245) 12345 % 2 ^ 31 := by
  have mask : 0x7fffffff = 2 ^ 31 - 1 := rfl
  rw [nextSeed, mask, Nat.and_two_pow_sub_one_eq_mod]
  exact Nat.mod_mod_of_dvd _ (Nat.pow_dvd_pow 2 (by decide))

theorem nextSeed_lt (seed : Nat) : nextSeed seed < 2 ^ 31 := by
  rw [nextSeed_eq_mod]
  exact Nat.mod_lt _ (Nat.two_pow_pos 31)

/-- The next seed is what the arithmetic of the language leaves of the number
in its lower bits. -/
theorem nextSeed_number {seed : Nat} (small : seed < 2 ^ 31) :
    ∃ number : Nat,
      add (mul (finite seed) (finite 1103515245)) (finite 12345) =
          finite number ∧
        nextSeed seed = number % 2 ^ 31 := by
  refine ⟨_, ?_, nextSeed_eq_mod seed⟩
  have product : seed * 1103515245 < 2 ^ 62 := by omega
  have rounded : wholeProduct seed 1103515245 < 2 ^ 63 := roundWhole_lt product
  have multiplied := mul_natCast product (by decide)
  have sum : wholeProduct seed 1103515245 + 12345 < 2 ^ 64 := by omega
  have added := add_natCast sum (by decide)
  rw [Nat.cast_ofNat] at multiplied added
  rw [multiplied, added]

section Prompts

variable {wordCount count : Nat}

theorem candidateIndex_bounds (words : 0 < wordCount) (seed : Nat) :
    1 ≤ candidateIndex wordCount seed ∧
      candidateIndex wordCount seed ≤ wordCount :=
  ⟨Nat.succ_pos _, Nat.mod_lt seed words⟩

/-- What has been collected is sorted into strictly increasing indices. -/
theorem collected_prompts {turns : Nat} {indices : List Nat}
    (enough : count ≤ wordCount)
    (ended : collect nextSeed (candidateIndex wordCount) count turns
      (firstSeed wordCount count) [] = some indices) :
    ConfirmationPrompts wordCount count := by
  obtain ⟨distinct, length, shown⟩ :=
    collect_some ended List.nodup_nil (Nat.zero_le count)
  have same := List.perm_insertionSort (· ≤ ·) indices
  refine ⟨turns, indices.insertionSort (· ≤ ·), ?_, ?_, ?_, ?_⟩
  · rw [pickRecoveryConfirmationIndices, if_neg (not_lt.mpr enough), ended]
    rfl
  · rw [same.length_eq, length]
  · have sorted := List.pairwise_insertionSort (· ≤ ·) indices
    have different := same.nodup_iff.mpr distinct
    exact (sorted.and different).imp fun both => lt_of_le_of_ne both.1 both.2
  · intro index member
    have collected := same.mem_iff.mp member
    have words : 0 < wordCount := by
      have some := List.length_pos_of_mem collected
      omega
    rcases shown index collected with impossible | ⟨seed, rfl⟩
    · cases impossible
    · exact candidateIndex_bounds words seed

theorem confirmationPrompts_iff_ends (enough : count ≤ wordCount) :
    ConfirmationPrompts wordCount count ↔
      ∃ turns indices, collect nextSeed (candidateIndex wordCount) count
        turns (firstSeed wordCount count) [] = some indices := by
  constructor
  · rintro ⟨turns, indices, picked, -⟩
    rw [pickRecoveryConfirmationIndices, if_neg (not_lt.mpr enough)] at picked
    obtain ⟨collected, ended, -⟩ := Option.map_eq_some_iff.mp picked
    exact ⟨turns, collected, ended⟩
  · rintro ⟨turns, indices, ended⟩
    exact collected_prompts enough ended

/-- A seed has 31 binary digits, so the loop ends within so many turns or
never. -/
theorem confirmationPrompts_iff_shown (enough : count ≤ wordCount) :
    ConfirmationPrompts wordCount count ↔
      count ≤ (positionsShown wordCount count (2 ^ 31)).card := by
  have inside : ∀ seed, nextSeed seed ∈ Finset.range (2 ^ 31) := by
    intro seed
    exact Finset.mem_range.mpr (nextSeed_lt seed)
  have ends := @collect_ends_iff_of_finite _ _ _ nextSeed
    (candidateIndex wordCount) count (firstSeed wordCount count) _ inside
  rw [Finset.card_range] at ends
  rw [confirmationPrompts_iff_ends enough]
  exact ends

end Prompts

end VaultCore
