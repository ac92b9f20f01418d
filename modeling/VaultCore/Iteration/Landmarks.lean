import VaultCore.Iteration.Sweep

/-!
# Landmarks

A run that never ends comes to the same states again.  A chart knows some of
them, its landmarks, and marks for each the values that show from there on.
The chart is right if from every landmark one comes to another, with no values
on the way or later that are not marked for it.
-/

namespace VaultCore

namespace Collecting

/-- Step to the next state that the chart has marks for.  The values on the way
and those marks have to be accepted together. -/
def travel (step value chart : Nat → Nat) (accepts : Nat → Bool) :
    Nat → Nat → Nat → Bool
  | 0, _, _ => false
  | turns + 1, state, bits =>
      force (step state) fun next =>
        force (Nat.lor bits (Nat.shiftLeft 1 (value next))) fun bits =>
          force (chart next) fun later =>
            bif Nat.beq later 0 then
              travel step value chart accepts turns next bits
            else force (Nat.lor bits later) accepts

/-- Every value that will show is marked. -/
def Covers (step value : Nat → Nat) (start bits : Nat) : Prop :=
  ∀ turn, bits.testBit (value (step^[turn + 1] start)) = true

/-- From every landmark one comes to another within so many turns. -/
def Charted (step value chart : Nat → Nat) (turns : Nat) : Prop :=
  ∀ landmark, chart landmark ≠ 0 →
    travel step value chart (Nat.beq (chart landmark)) turns landmark 0 = true

/-- How many remainders of a divisor the marked remainders have. -/
def remainders (modulus divisor bits : Nat) : Nat :=
  (List.range divisor).countP fun place =>
    (List.range (modulus / divisor)).any fun row =>
      Nat.testBit bits (row * divisor + place)

variable {step value chart : Nat → Nat} {accepts : Nat → Bool}
  {turns start bits : Nat}

/-- A way to a landmark, with the values on it marked. -/
theorem travel_arrives
    (travels : travel step value chart accepts turns start bits = true) :
    ∃ taken marked, 0 < taken ∧ chart (step^[taken] start) ≠ 0 ∧
      accepts (marked ||| chart (step^[taken] start)) = true ∧
      (∀ turn < taken,
        marked.testBit (value (step^[turn + 1] start)) = true) ∧
      ∀ place, bits.testBit place = true → marked.testBit place = true := by
  induction turns generalizing start bits with
  | zero => cases travels
  | succ turns ih =>
      simp only [travel, force_eq] at travels
      have marks : ∀ place,
          (bits ||| 1 <<< value (step start)).testBit place = true ↔
            bits.testBit place = true ∨ value (step start) = place := by
        intro place
        rw [Nat.testBit_or, Nat.one_shiftLeft, Nat.testBit_two_pow,
          Bool.or_eq_true, decide_eq_true_eq]
      by_cases unknown : chart (step start) = 0
      · rw [unknown] at travels
        obtain ⟨taken, marked, -, arrives, accepted, onTheWay, kept⟩ :=
          ih travels
        refine ⟨taken + 1, marked, Nat.succ_pos taken, arrives, accepted, ?_,
          ?_⟩
        · intro turn before
          cases turn with
          | zero => exact kept _ ((marks _).mpr (.inr rfl))
          | succ turn => exact onTheWay turn (Nat.lt_of_succ_lt_succ before)
        · intro place old
          exact kept place ((marks place).mpr (.inl old))
      · have landmark : Nat.beq (chart (step start)) 0 = false := by
          rw [← Bool.not_eq_true, Nat.beq_eq]
          exact unknown
        rw [landmark] at travels
        refine ⟨1, _, Nat.one_pos, unknown, travels, ?_, ?_⟩
        · intro turn before
          obtain rfl := Nat.lt_one_iff.mp before
          exact (marks _).mpr (.inr rfl)
        · intro place old
          exact (marks place).mpr (.inl old)

namespace Charted

theorem covers (charted : Charted step value chart turns) {landmark : Nat}
    (known : chart landmark ≠ 0) :
    Covers step value landmark (chart landmark) := by
  intro turn
  induction turn using Nat.strong_induction_on generalizing landmark with
  | _ turn ih =>
      obtain ⟨taken, marked, some, arrives, accepted, onTheWay, -⟩ :=
        travel_arrives (charted landmark known)
      rw [Nat.eq_of_beq_eq_true accepted, Nat.testBit_or, Bool.or_eq_true]
      by_cases before : turn < taken
      · exact .inl (onTheWay turn before)
      · have later := ih (turn - taken) (by omega) arrives
        have whole : turn + 1 = turn - taken + 1 + taken := by omega
        rw [whole, Function.iterate_add_apply]
        exact .inr later

theorem exists_covers (charted : Charted step value chart turns) {most : Nat}
    (travels : travel step value chart accepts most start 0 = true) :
    ∃ bits, accepts bits = true ∧ Covers step value start bits := by
  obtain ⟨taken, marked, -, arrives, accepted, onTheWay, -⟩ :=
    travel_arrives travels
  refine ⟨_, accepted, ?_⟩
  intro turn
  rw [Nat.testBit_or, Bool.or_eq_true]
  by_cases before : turn < taken
  · exact .inl (onTheWay turn before)
  · have later := charted.covers arrives (turn - taken)
    rw [← Function.iterate_add_apply] at later
    have whole : turn - taken + 1 + taken = turn + 1 := by omega
    rw [whole] at later
    exact .inr later

end Charted

section Remainders

variable {modulus divisor : Nat}

/-- What is marked for a modulus tells the remainders of its divisors. -/
theorem Covers.card_shown_le (divides : divisor ∣ modulus)
    (positive : 0 < modulus)
    (covers : Covers step (fun state => Nat.mod state modulus) start bits)
    (turns : Nat) :
    (shown step (fun state => state % divisor + 1) start turns).card ≤
      remainders modulus divisor bits := by
  have smaller := Nat.pos_of_dvd_of_pos divides positive
  let marked (place : Nat) : Bool :=
    (List.range (modulus / divisor)).any fun row =>
      Nat.testBit bits (row * divisor + place)
  have inside : shown step (fun state => state % divisor + 1) start turns ⊆
      (((List.range divisor).filter marked).map Nat.succ).toFinset := by
    intro candidate member
    obtain ⟨turn, -, rfl⟩ := mem_shown_iff.mp member
    rw [List.mem_toFinset, List.mem_map]
    refine ⟨step^[turn + 1] start % divisor, ?_, rfl⟩
    rw [List.mem_filter, List.mem_range]
    refine ⟨Nat.mod_lt _ smaller, List.any_eq_true.mpr
      ⟨step^[turn + 1] start % modulus / divisor, ?_, ?_⟩⟩
    · rw [List.mem_range]
      exact Nat.div_lt_div_of_lt_of_dvd divides (Nat.mod_lt _ positive)
    · have place := Nat.div_add_mod' (step^[turn + 1] start % modulus) divisor
      rw [Nat.mod_mod_of_dvd _ divides] at place
      rw [place]
      exact covers turn
  refine (Finset.card_le_card inside).trans ((List.toFinset_card_le _).trans ?_)
  rw [List.length_map, ← List.countP_eq_length_filter]
  exact le_rfl

/-- Where too few remainders are marked, the loop does not end. -/
theorem Covers.not_ends (divides : divisor ∣ modulus) (positive : 0 < modulus)
    (covers : Covers step (fun state => Nat.mod state modulus) start bits)
    {count : Nat} (few : remainders modulus divisor bits < count) :
    ¬ ∃ turns result, collect step (fun state => state % divisor + 1) count
      turns start [] = some result := by
  rw [collect_ends_iff]
  rintro ⟨turns, enough⟩
  have bound := covers.card_shown_le divides positive turns
  omega

end Remainders

end Collecting

end VaultCore
