import VaultCore.Envelopes.ConfirmationSeeds
import VaultCore.Iteration.Landmarks

/-!
# The prompts that are produced

Whether the loop ends is decided by the positions that the first 2³¹ seeds
show.  For every recovery phrase, and for as few prompts as the callers ask
for, the two numbers alone decide it: the runs of the generator are evaluated,
those that end by the positions they find, and those that do not by landmarks
that they come to.
-/

namespace VaultCore

open Collecting JsNumber

/-- The greatest number of prompts that is answered for a phrase that is not
too long. -/
def promptLimit : Nat → Nat
  | 4 => 2
  | 8 => 3
  | 12 => 6
  | 16 => 5
  | 20 => 10
  | 24 => 7
  | wordCount => wordCount

/-- No longer than a recovery phrase, or no more prompts than the callers ask
for. -/
def ShortPrompts (wordCount count : Nat) : Prop :=
  wordCount ≤ 24 ∨ wordCount ≤ 2048 ∧ count ≤ 4

instance (wordCount count : Nat) : Decidable (ShortPrompts wordCount count) :=
  inferInstanceAs (Decidable (_ ∨ _))

/-- The numbers for which enough positions show. -/
def PromptsShown (wordCount count : Nat) : Prop :=
  if ShortPrompts wordCount count then count ≤ promptLimit wordCount
  else count ≤ (positionsShown wordCount count (2 ^ 31)).card

instance (wordCount count : Nat) :
    Decidable (PromptsShown wordCount count) := by
  unfold PromptsShown
  infer_instance

/-! ## Runs of the generator -/

/-- The run until so many positions are found. -/
def promptSweep (wordCount count : Nat) : Sweep :=
  sweep fastSeed (candidateIndex wordCount)
    (fun _ found => Nat.ble count found) 8000
    (Nat.add (Nat.mul wordCount 7919) (Nat.mul count 104729)) 0 0

/-- Seeds that many runs come to, with the remainders modulo 240 of the seeds
that follow each of them. -/
def seedChart (seed : Nat) : Nat :=
  bif Nat.beq seed 1372572160 then
    0x30103010301030103010301030103010301030103010301030303010301
  else bif Nat.beq seed 1961254400 then
    0x30103010301030103010301030103010301030103010301030303010301
  else bif Nat.beq seed 1253911040 then
    0x30103030301030103010301030103010301130103010301030303030301
  else bif Nat.beq seed 778952448 then
    0x30103010301030103010301030103010301030103010301030303030301
  else bif Nat.beq seed 2033118976 then
    0x30103010301130103010301030103010301030103010301030303010301
  else bif Nat.beq seed 1633532928 then
    0x30103010301030103010301030103010301030103010301030303010301
  else bif Nat.beq seed 1205592064 then
    0x100010001000100010001000103010001000101010001000101010001
  else 0

/-- The seeds that the chart has marks for. -/
def seedLandmarks : List Nat :=
  [1372572160, 1961254400, 1253911040, 778952448, 2033118976, 1633532928,
    1205592064]

/-- The run comes to a landmark, and shows too few positions before and
after. -/
def fallsShort (wordCount count : Nat) : Bool :=
  travel fastSeed (fun seed => Nat.mod seed 240) seedChart
    (fun bits => Nat.blt (remainders 240 wordCount bits) count) 6000
    (Nat.add (Nat.mul wordCount 7919) (Nat.mul count 104729)) 0

/-! ## What the runs show -/

theorem promptSweep_few : ∀ count ∈ [1, 2, 3, 4],
    ∀ wordCount ∈ List.range 2049, count ≤ promptLimit wordCount →
      count ≤ (promptSweep wordCount count).found := by
  decide +kernel

theorem promptSweep_short : ∀ wordCount ∈ List.range 25,
    ∀ count ∈ List.range 25, count ≤ promptLimit wordCount →
      count ≤ (promptSweep wordCount count).found := by
  decide +kernel

theorem travel_seedLandmarks : ∀ landmark ∈ seedLandmarks,
    travel fastSeed (fun seed => Nat.mod seed 240) seedChart
      (Nat.beq (seedChart landmark)) 6000 landmark 0 = true := by
  decide +kernel

theorem fallsShort_of_limit_lt : ∀ wordCount ∈ [4, 8, 12, 16, 20, 24],
    ∀ count ∈ List.range 25, promptLimit wordCount < count →
      count ≤ wordCount → fallsShort wordCount count = true := by
  decide +kernel

theorem mem_seedLandmarks {seed : Nat} (known : seedChart seed ≠ 0) :
    seed ∈ seedLandmarks := by
  by_contra other
  simp only [seedLandmarks, List.mem_cons, List.not_mem_nil, or_false, not_or]
    at other
  obtain ⟨first, second, third, fourth, fifth, sixth, seventh⟩ := other
  apply known
  simp only [seedChart, Bool.cond_eq_ite, Nat.beq_eq, first, second, third,
    fourth, fifth, sixth, seventh, if_false]

theorem seedChart_charted :
    Charted fastSeed (fun seed => Nat.mod seed 240) seedChart 6000 :=
  fun _ known => travel_seedLandmarks _ (mem_seedLandmarks known)

section

variable {wordCount count : Nat}

theorem firstSeed_eq (words : wordCount ≤ 2048) (prompts : count ≤ 2048) :
    firstSeed wordCount count =
      Nat.add (Nat.mul wordCount 7919) (Nat.mul count 104729) := by
  have most : wordCount * 7919 + count * 104729 ≤
      2048 * 7919 + 2048 * 104729 :=
    Nat.add_le_add (Nat.mul_le_mul_right _ words)
      (Nat.mul_le_mul_right _ prompts)
  have sum : wordCount * 7919 + count * 104729 < 2 ^ 53 :=
    Nat.lt_of_le_of_lt most (by norm_num)
  have left := Nat.lt_of_le_of_lt (Nat.le_add_right _ _) sum
  have right := Nat.lt_of_le_of_lt (Nat.le_add_left _ _) sum
  rw [firstSeed, wholeProduct, wholeProduct, roundWhole_of_lt_two_pow left,
    roundWhole_of_lt_two_pow right, wholeSum, roundWhole_of_lt_two_pow sum]
  rfl

theorem confirmationPrompts_of_sweep (enough : count ≤ wordCount)
    (words : wordCount ≤ 2048)
    (found : count ≤ (promptSweep wordCount count).found) :
    ConfirmationPrompts wordCount count := by
  rw [confirmationPrompts_iff_ends enough, collect_ends_iff,
    firstSeed_eq words (enough.trans words)]
  obtain ⟨taken, shows⟩ := @exists_shown_of_sweep fastSeed
    (candidateIndex wordCount) (fun _ found => Nat.ble count found) 8000
    (Nat.add (Nat.mul wordCount 7919) (Nat.mul count 104729))
  rw [promptSweep, shows, fastSeed_eq] at found
  exact ⟨taken, found⟩

theorem confirmationPrompts_of_le_limit (short : ShortPrompts wordCount count)
    (within : count ≤ promptLimit wordCount) (enough : count ≤ wordCount) :
    ConfirmationPrompts wordCount count := by
  rcases short with words | ⟨words, few⟩
  · apply confirmationPrompts_of_sweep enough (by omega)
    apply promptSweep_short wordCount _ count _ within
    · exact List.mem_range.mpr (by omega)
    · exact List.mem_range.mpr (by omega)
  · apply confirmationPrompts_of_sweep enough words
    rcases Nat.eq_zero_or_pos count with rfl | some
    · exact Nat.zero_le _
    · apply promptSweep_few count _ wordCount _ within
      · simp only [List.mem_cons, List.not_mem_nil, or_false]
        omega
      · exact List.mem_range.mpr (by omega)

theorem mem_of_promptLimit_lt (many : promptLimit wordCount < count)
    (enough : count ≤ wordCount) : wordCount ∈ [4, 8, 12, 16, 20, 24] := by
  unfold promptLimit at many
  split at many
  · decide
  · decide
  · decide
  · decide
  · decide
  · decide
  · omega

theorem not_confirmationPrompts_of_limit_lt
    (many : promptLimit wordCount < count) (enough : count ≤ wordCount) :
    ¬ ConfirmationPrompts wordCount count := by
  have limited := mem_of_promptLimit_lt many enough
  have short : ∀ wordCount ∈ [4, 8, 12, 16, 20, 24],
      wordCount ∣ 240 ∧ wordCount ≤ 24 := by
    decide
  obtain ⟨divides, words⟩ := short wordCount limited
  have falls := fallsShort_of_limit_lt wordCount limited count
    (List.mem_range.mpr (by omega)) many enough
  obtain ⟨bits, few, covers⟩ := seedChart_charted.exists_covers falls
  have endless := covers.not_ends divides (by decide)
    (Nat.blt_eq.mp few)
  rw [fastSeed_eq] at endless
  rw [confirmationPrompts_iff_ends enough,
    firstSeed_eq (by omega) (by omega)]
  exact endless

end

end VaultCore
