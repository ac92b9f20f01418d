import Mathlib.Combinatorics.Pigeonhole
import Mathlib.Data.Finset.Dedup
import Mathlib.Logic.Function.Iterate
import Mathlib.Tactic.Common

/-!
# Collecting distinct values along an orbit

A loop steps through the states that follow a start and keeps every value it
has not met, until it has the given number of them.  It ends exactly when the
states show so many values.  Where there are finitely many states, the values
have shown by the time that every state could have been met.
-/

namespace VaultCore

namespace Collecting

variable {σ β : Type} [DecidableEq β]

/-- Add a candidate that is not there yet. -/
def keep (found : List β) (candidate : β) : List β :=
  if candidate ∈ found then found else found ++ [candidate]

/-- `while (found.length < count)`, for at most the given number of turns. -/
def collect (step : σ → σ) (value : σ → β) (count : Nat) :
    Nat → σ → List β → Option (List β)
  | 0, _, found => if count ≤ found.length then some found else none
  | turns + 1, state, found =>
      if count ≤ found.length then some found
      else
        let next := step state
        collect step value count turns next (keep found (value next))

/-- The values of so many states that follow a start. -/
def shown (step : σ → σ) (value : σ → β) (start : σ) (turns : Nat) :
    Finset β :=
  (Finset.range turns).image fun turn => value (step^[turn + 1] start)

section Keep

variable {found : List β} {candidate : β}

theorem keep_nodup (distinct : found.Nodup) :
    (keep found candidate).Nodup := by
  unfold keep
  split
  · exact distinct
  · rename_i new
    rw [← List.concat_eq_append]
    exact distinct.concat new

theorem keep_length_le (found : List β) (candidate : β) :
    (keep found candidate).length ≤ found.length + 1 := by
  unfold keep
  split
  · exact Nat.le_succ _
  · rw [List.length_append, List.length_singleton]

theorem mem_keep_iff {other : β} :
    other ∈ keep found candidate ↔ other ∈ found ∨ other = candidate := by
  unfold keep
  split
  · rename_i known
    constructor
    · exact .inl
    · rintro (member | rfl)
      · exact member
      · exact known
  · rw [List.mem_append, List.mem_singleton]

end Keep

variable {step : σ → σ} {value : σ → β} {count : Nat}

/-- More turns change nothing about a loop that ended. -/
theorem collect_more {turns more : Nat} {state : σ} {found result : List β}
    (enough : turns ≤ more)
    (ended : collect step value count turns state found = some result) :
    collect step value count more state found = some result := by
  induction turns generalizing more state found with
  | zero =>
      rw [collect] at ended
      split_ifs at ended with full
      cases more with
      | zero => rwa [collect, if_pos full]
      | succ more => rwa [collect, if_pos full]
  | succ turns ih =>
      obtain ⟨more, rfl⟩ : ∃ fewer, more = fewer + 1 :=
        Nat.exists_eq_succ_of_ne_zero (by omega)
      rw [collect] at ended ⊢
      split_ifs at ended ⊢ with full
      · exact ended
      · exact ih (Nat.le_of_succ_le_succ enough) ended

/-- What a loop returns are as many distinct values as were wanted. -/
theorem collect_some {turns : Nat} {state : σ} {found result : List β}
    (ended : collect step value count turns state found = some result)
    (distinct : found.Nodup) (few : found.length ≤ count) :
    result.Nodup ∧ result.length = count ∧
      ∀ member ∈ result, member ∈ found ∨
        ∃ later, member = value later := by
  induction turns generalizing state found with
  | zero =>
      rw [collect] at ended
      split at ended
      · rename_i enough
        cases ended
        exact ⟨distinct, le_antisymm few enough, fun _ => .inl⟩
      · cases ended
  | succ turns ih =>
      rw [collect] at ended
      split at ended
      · rename_i enough
        cases ended
        exact ⟨distinct, le_antisymm few enough, fun _ => .inl⟩
      · rename_i missing
        have room := keep_length_le found (value (step state))
        obtain ⟨nodup, length, members⟩ := ih ended (keep_nodup distinct)
          (by omega)
        refine ⟨nodup, length, ?_⟩
        intro member inside
        rcases members member inside with kept | later
        · rcases mem_keep_iff.mp kept with old | new
          · exact .inl old
          · exact .inr ⟨_, new⟩
        · exact .inr later

section Shown

variable {start : σ} {turns : Nat}

theorem mem_shown_iff {candidate : β} :
    candidate ∈ shown step value start turns ↔
      ∃ turn < turns, value (step^[turn + 1] start) = candidate := by
  simp only [shown, Finset.mem_image, Finset.mem_range]

theorem mem_shown_succ {candidate : β} :
    candidate ∈ shown step value start (turns + 1) ↔
      candidate = value (step start) ∨
        candidate ∈ shown step value (step start) turns := by
  simp only [mem_shown_iff]
  constructor
  · rintro ⟨turn, bound, shown⟩
    cases turn with
    | zero => exact .inl shown.symm
    | succ turn => exact .inr ⟨turn, Nat.lt_of_succ_lt_succ bound, shown⟩
  · rintro (rfl | ⟨turn, bound, shown⟩)
    · exact ⟨0, Nat.succ_pos turns, rfl⟩
    · exact ⟨turn + 1, Nat.succ_lt_succ bound, shown⟩

/-- Beyond as many turns as there are states, states come again. -/
theorem shown_subset_of_finite {states : Finset σ}
    (inside : ∀ state, step state ∈ states) (turns : Nat) :
    shown step value start turns ⊆ shown step value start states.card := by
  -- Two of one state more than there are agree.
  have few : states.card < (Finset.range (states.card + 1)).card := by
    rw [Finset.card_range]
    exact Nat.lt_succ_self _
  have maps : ∀ turn ∈ Finset.range (states.card + 1),
      step^[turn + 1] start ∈ states := by
    intro turn _
    rw [Function.iterate_succ_apply']
    exact inside _
  obtain ⟨first, firstBound, second, secondBound, different, again⟩ :=
    Finset.exists_ne_map_eq_of_card_lt_of_maps_to few maps
  rw [Finset.mem_range] at firstBound secondBound
  wlog ordered : first < second generalizing first second
  · exact this second secondBound first firstBound different.symm again.symm
      (by omega)
  -- A late state is the one so many turns earlier, by induction.
  have early : ∀ turn, ∃ other < states.card,
      step^[other + 1] start = step^[turn + 1] start := by
    intro turn
    induction turn using Nat.strong_induction_on with
    | _ turn ih =>
        by_cases bound : turn < states.card
        · exact ⟨turn, bound, rfl⟩
        · obtain ⟨other, otherBound, same⟩ :=
            ih (turn - second + first) (by omega)
          refine ⟨other, otherBound, same.trans ?_⟩
          have split : turn + 1 = (turn - second) + (second + 1) := by omega
          rw [Nat.add_assoc, split, Function.iterate_add_apply, again,
            ← Function.iterate_add_apply]
  intro candidate member
  obtain ⟨turn, -, rfl⟩ := mem_shown_iff.mp member
  obtain ⟨other, bound, same⟩ := early turn
  exact mem_shown_iff.mpr ⟨other, bound, congrArg value same⟩

end Shown

/-- The values found so far and those of the next states. -/
def seen (step : σ → σ) (value : σ → β) (found : List β) (state : σ)
    (turns : Nat) : Finset β :=
  found.toFinset ∪ shown step value state turns

theorem seen_succ (found : List β) (state : σ) (turns : Nat) :
    seen step value found state (turns + 1) =
      seen step value (keep found (value (step state))) (step state) turns := by
  ext candidate
  simp only [seen, Finset.mem_union, List.mem_toFinset, mem_keep_iff,
    mem_shown_succ, or_assoc]

/-- The loop ends once the values it has seen suffice. -/
theorem collect_isSome_iff {turns : Nat} {state : σ} {found : List β}
    (distinct : found.Nodup) :
    (∃ result, collect step value count turns state found = some result) ↔
      count ≤ (seen step value found state turns).card := by
  have least : ∀ turns, found.length ≤
      (seen step value found state turns).card := by
    intro turns
    rw [← List.toFinset_card_of_nodup distinct]
    exact Finset.card_le_card Finset.subset_union_left
  induction turns generalizing state found with
  | zero =>
      have all : (seen step value found state 0).card = found.length := by
        rw [seen, shown, Finset.range_zero, Finset.image_empty,
          Finset.union_empty, List.toFinset_card_of_nodup distinct]
      rw [collect, all]
      split
      · rename_i enough
        exact ⟨fun _ => enough, fun _ => ⟨found, rfl⟩⟩
      · rename_i missing
        constructor
        · rintro ⟨result, impossible⟩
          cases impossible
        · intro enough
          exact absurd enough missing
  | succ turns ih =>
      rw [collect]
      split
      · rename_i enough
        exact ⟨fun _ => enough.trans (least _), fun _ => ⟨found, rfl⟩⟩
      · rw [seen_succ]
        apply ih (keep_nodup distinct)
        intro turns
        rw [← List.toFinset_card_of_nodup (keep_nodup distinct)]
        exact Finset.card_le_card Finset.subset_union_left

/-- The loop ends exactly when the states show as many values as are wanted. -/
theorem collect_ends_iff {start : σ} :
    (∃ turns result, collect step value count turns start [] =
        some result) ↔
      ∃ turns, count ≤ (shown step value start turns).card := by
  apply exists_congr
  intro turns
  rw [collect_isSome_iff List.nodup_nil, seen, List.toFinset_nil,
    Finset.empty_union]

/-- Among finitely many states, the loop ends within as many turns or never. -/
theorem collect_ends_iff_of_finite {start : σ} {states : Finset σ}
    (inside : ∀ state, step state ∈ states) :
    (∃ turns result, collect step value count turns start [] =
        some result) ↔
      count ≤ (shown step value start states.card).card := by
  rw [collect_ends_iff]
  constructor
  · rintro ⟨turns, enough⟩
    exact enough.trans
      (Finset.card_le_card (shown_subset_of_finite inside turns))
  · exact fun enough => ⟨_, enough⟩

end Collecting

end VaultCore
