import VaultCore.Envelopes.ConfirmationIndices
import VaultCore.Iteration.Sweep

/-!
# The seeds of the confirmation prompts

The generator rounds its product to 53 binary digits, and the sum once more.
With the place of the last digit at hand, both roundings are shifts, so the
seeds of long runs can be evaluated.
-/

namespace VaultCore

open Collecting JsNumber

/-- A number rounded at `place`; `half` is one less than half of the last
digit.  The arithmetic is that which the kernel has built in. -/
def roundAt (place half value : Nat) : Nat :=
  Nat.shiftLeft (Nat.shiftRight (Nat.add (Nat.add value half)
    (Nat.mod (Nat.shiftRight value place) 2)) place) place

/-- The next seed, where the last digit of the product is even: the sum adds
so many digits. -/
def seedAt (place half sum product : Nat) : Nat :=
  Nat.mod (Nat.shiftLeft (Nat.add (Nat.shiftRight
    (Nat.add (Nat.add product half)
      (Nat.mod (Nat.shiftRight product place) 2)) place) sum) place)
    0x80000000

/-- `nextSeed`, by the size of the product. -/
def fastSeed (seed : Nat) : Nat :=
  force (Nat.mul seed 1103515245) fun product =>
    bif Nat.ble 0x4000000000000000 product then nextSeed seed
    else bif Nat.ble 0x2000000000000000 product then seedAt 9 255 24 product
    else bif Nat.ble 0x1000000000000000 product then seedAt 8 127 48 product
    else bif Nat.ble 0x800000000000000 product then seedAt 7 63 96 product
    else bif Nat.ble 0x400000000000000 product then seedAt 6 31 193 product
    else bif Nat.ble 0x200000000000000 product then seedAt 5 15 386 product
    else bif Nat.ble 0x100000000000000 product then seedAt 4 7 772 product
    else bif Nat.ble 0x80000000000000 product then seedAt 3 3 1543 product
    else bif Nat.ble 0x40000000000000 product then seedAt 2 1 3086 product
    else bif Nat.ble 0x20000000000000 product then
      force (Nat.add (roundAt 1 0 product) 12345) fun sum =>
        Nat.mod (roundAt 1 0 sum) 0x80000000
    else Nat.mod (Nat.add product 12345) 0x80000000

/-- Rounding to even is one division, of the number and almost half a digit. -/
theorem halfEvenQuotient_two_mul {half : Nat} (some : 0 < half)
    (value : Nat) :
    halfEvenQuotient value (2 * half) =
      (value + (half - 1) + value / (2 * half) % 2) / (2 * half) := by
  have split := Nat.div_add_mod value (2 * half)
  have bound := Nat.mod_lt value (Nat.mul_pos two_pos some)
  have parity := Nat.mod_lt (value / (2 * half)) two_pos
  simp only [halfEvenQuotient]
  generalize value / (2 * half) = below at *
  generalize value % (2 * half) = rest at *
  have numerator : value + (half - 1) + below % 2 =
      2 * half * below + (rest + (half - 1) + below % 2) := by
    omega
  have once (many : 2 * half ≤ rest + (half - 1) + below % 2) :
      (rest + (half - 1) + below % 2) / (2 * half) = 1 := by
    apply Nat.div_eq_of_lt_le
    · omega
    · omega
  rw [numerator, Nat.mul_add_div (by omega)]
  split_ifs with lower upper even
  · rw [Nat.div_eq_of_lt (by omega), Nat.add_zero]
  · rw [once (by omega)]
  · rw [Nat.div_eq_of_lt (by omega), Nat.add_zero]
  · rw [once (by omega)]

theorem le_halfEvenQuotient (value scale : Nat) :
    value / scale ≤ halfEvenQuotient value scale := by
  simp only [halfEvenQuotient]
  split_ifs
  · exact le_rfl
  · exact Nat.le_succ _
  · exact le_rfl
  · exact Nat.le_succ _

/-- Whole digits are added without a rounding of their own. -/
theorem halfEvenQuotient_mul_add {scale rest : Nat} (some : 0 < scale)
    (noTie : 2 * (rest % scale) ≠ scale) (whole : Nat) :
    halfEvenQuotient (whole * scale + rest) scale =
      whole + halfEvenQuotient rest scale := by
  have quotient : (whole * scale + rest) / scale = whole + rest / scale := by
    rw [Nat.add_comm, Nat.add_mul_div_right _ _ some, Nat.add_comm]
  have remainder : (whole * scale + rest) % scale = rest % scale := by
    rw [Nat.add_comm, Nat.add_mul_mod_self_right]
  simp only [halfEvenQuotient, quotient, remainder]
  split_ifs with lower upper
  · rfl
  · rw [Nat.add_assoc]
  · omega
  · omega
  · omega
  · omega

theorem roundWhole_of_place {value place : Nat}
    (lower : 2 ^ (52 + place) ≤ value) (upper : value < 2 ^ (53 + place)) :
    roundWhole value = halfEvenQuotient value (2 ^ place) * 2 ^ place := by
  have nonzero : value ≠ 0 := by
    have := Nat.two_pow_pos (52 + place)
    omega
  have log : Nat.log2 value = 52 + place :=
    (Nat.log2_eq_iff nonzero).mpr ⟨lower, by
      rw [Nat.add_right_comm]
      exact upper⟩
  have digits : 52 + place - 52 = place := Nat.add_sub_cancel_left 52 place
  simp only [roundWhole, log, digits]

theorem roundWhole_eq_roundAt {value place : Nat} (some : 0 < place)
    (lower : 2 ^ (52 + place) ≤ value) (upper : value < 2 ^ (53 + place)) :
    roundWhole value = roundAt place (2 ^ (place - 1) - 1) value := by
  have halves : 2 ^ place = 2 * 2 ^ (place - 1) := by
    rw [← pow_succ', Nat.sub_add_cancel some]
  have rounded := halfEvenQuotient_two_mul (Nat.two_pow_pos (place - 1)) value
  rw [← halves, ← Nat.shiftRight_eq_div_pow, ← Nat.shiftRight_eq_div_pow]
    at rounded
  rw [roundWhole_of_place lower upper, rounded, ← Nat.shiftLeft_eq]
  rfl

/-- Where neither rounding crosses a power of two and the sum has no tie. -/
theorem nextSeed_eq_seedAt {seed place : Nat} (some : 0 < place)
    (lower : 2 ^ (52 + place) ≤ seed * 1103515245)
    (upper : seed * 1103515245 + 2 ^ place + 12345 < 2 ^ (53 + place))
    (noTie : 2 * (12345 % 2 ^ place) ≠ 2 ^ place) :
    nextSeed seed = seedAt place (2 ^ (place - 1) - 1)
      (halfEvenQuotient 12345 (2 ^ place)) (seed * 1103515245) := by
  have digit := Nat.two_pow_pos place
  have product : wholeProduct seed 1103515245 =
      halfEvenQuotient (seed * 1103515245) (2 ^ place) * 2 ^ place := by
    apply roundWhole_of_place lower
    rw [Nat.add_assoc] at upper
    exact Nat.lt_of_le_of_lt (Nat.le_add_right _ _) upper
  have least : 2 ^ (52 + place) ≤
      halfEvenQuotient (seed * 1103515245) (2 ^ place) * 2 ^ place := by
    rw [pow_add] at lower ⊢
    apply Nat.mul_le_mul_right
    exact ((Nat.le_div_iff_mul_le digit).mpr lower).trans
      (le_halfEvenQuotient _ _)
  have most : halfEvenQuotient (seed * 1103515245) (2 ^ place) * 2 ^ place ≤
      seed * 1103515245 + 2 ^ place := by
    have above := Nat.mul_le_mul_right (2 ^ place)
      (halfEvenQuotient_le (seed * 1103515245) (2 ^ place))
    rw [Nat.add_mul, Nat.one_mul] at above
    exact above.trans
      (Nat.add_le_add_right (Nat.div_mul_le_self _ _) _)
  have sum : wholeSum (wholeProduct seed 1103515245) 12345 =
      (halfEvenQuotient (seed * 1103515245) (2 ^ place) +
        halfEvenQuotient 12345 (2 ^ place)) * 2 ^ place := by
    rw [product, wholeSum, roundWhole_of_place,
      halfEvenQuotient_mul_add digit noTie]
    · exact least.trans (Nat.le_add_right _ _)
    · exact Nat.lt_of_le_of_lt (Nat.add_le_add_right most _) upper
  have halves : 2 ^ place = 2 * 2 ^ (place - 1) := by
    rw [← pow_succ', Nat.sub_add_cancel some]
  have rounded := halfEvenQuotient_two_mul (Nat.two_pow_pos (place - 1))
    (seed * 1103515245)
  rw [← halves, ← Nat.shiftRight_eq_div_pow, ← Nat.shiftRight_eq_div_pow]
    at rounded
  rw [nextSeed_eq_mod, sum, rounded, ← Nat.shiftLeft_eq]
  rfl

/-- A product of 54 digits, whose sum may have a tie. -/
theorem nextSeed_of_place_one {seed : Nat}
    (lower : 2 ^ 53 ≤ seed * 1103515245)
    (upper : seed * 1103515245 < 2 ^ 54) :
    nextSeed seed =
      roundAt 1 0 (roundAt 1 0 (seed * 1103515245) + 12345) % 2 ^ 31 := by
  have product : wholeProduct seed 1103515245 =
      roundAt 1 0 (seed * 1103515245) :=
    roundWhole_eq_roundAt Nat.one_pos lower upper
  have digits (value : Nat) :
      roundAt 1 0 value = (value + value / 2 % 2) / 2 * 2 := by
    change (value + 0 + (value >>> 1) % 2) >>> 1 <<< 1 = _
    rw [Nat.shiftLeft_eq, Nat.shiftRight_eq_div_pow, Nat.shiftRight_eq_div_pow,
      Nat.add_zero, pow_one]
  have bounds : 2 ^ 53 ≤ roundAt 1 0 (seed * 1103515245) ∧
      roundAt 1 0 (seed * 1103515245) + 12345 < 2 ^ 54 := by
    rw [digits]
    omega
  have sum : wholeSum (roundAt 1 0 (seed * 1103515245)) 12345 =
      roundAt 1 0 (roundAt 1 0 (seed * 1103515245) + 12345) :=
    roundWhole_eq_roundAt Nat.one_pos
      (bounds.1.trans (Nat.le_add_right _ _)) bounds.2
  rw [nextSeed_eq_mod, product, sum]

theorem roundWhole_of_lt_two_pow {value : Nat} (small : value < 2 ^ 53) :
    roundWhole value = value := by
  apply roundWhole_of_lt
  rcases Nat.eq_zero_or_pos value with rfl | positive
  · decide
  · exact Nat.le_of_lt_succ ((Nat.log2_lt positive.ne').mpr small)

theorem nextSeed_of_small {seed : Nat} (small : seed * 1103515245 < 2 ^ 53) :
    nextSeed seed = (seed * 1103515245 + 12345) % 2 ^ 31 := by
  have few : seed ≤ 8162278 := by omega
  have sum : seed * 1103515245 + 12345 < 2 ^ 53 :=
    Nat.lt_of_le_of_lt
      (Nat.add_le_add_right (Nat.mul_le_mul_right 1103515245 few) 12345)
      (by norm_num)
  rw [nextSeed_eq_mod, wholeProduct, roundWhole_of_lt_two_pow small, wholeSum,
    roundWhole_of_lt_two_pow sum]

theorem fastSeed_eq : fastSeed = nextSeed := by
  funext seed
  simp only [fastSeed, force_eq, Bool.cond_eq_ite, Nat.ble_eq, Nat.mul_eq]
  split_ifs with large size9 size8 size7 size6 size5 size4 size3 size2 size1
  · rfl
  · exact (@nextSeed_eq_seedAt seed 9 (by decide) size9 (by omega)
      (by decide)).symm
  · exact (@nextSeed_eq_seedAt seed 8 (by decide) size8 (by omega)
      (by decide)).symm
  · exact (@nextSeed_eq_seedAt seed 7 (by decide) size7 (by omega)
      (by decide)).symm
  · exact (@nextSeed_eq_seedAt seed 6 (by decide) size6 (by omega)
      (by decide)).symm
  · exact (@nextSeed_eq_seedAt seed 5 (by decide) size5 (by omega)
      (by decide)).symm
  · exact (@nextSeed_eq_seedAt seed 4 (by decide) size4 (by omega)
      (by decide)).symm
  · exact (@nextSeed_eq_seedAt seed 3 (by decide) size3 (by omega)
      (by decide)).symm
  · exact (@nextSeed_eq_seedAt seed 2 (by decide) size2 (by omega)
      (by decide)).symm
  · exact (nextSeed_of_place_one size1 (by omega)).symm
  · exact (nextSeed_of_small (by omega)).symm

end VaultCore
