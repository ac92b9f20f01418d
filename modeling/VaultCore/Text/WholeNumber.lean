import VaultCore.Text.JsNumber
import Mathlib.Tactic.Linarith

/-!
# Arithmetic of whole numbers

A product or a sum of whole numbers is a whole number again, rounded to its
first 53 binary digits.  The rounding is found with whole numbers only.
-/

namespace VaultCore

namespace JsNumber

/-- `left * right` -/
def mul : JsNumber → JsNumber → JsNumber
  | finite left, finite right => roundToDouble (left * right)
  | infinite left, infinite right => infinite (left != right)
  | nan, _ => nan
  | _, nan => nan
  | infinite negative, finite value =>
      if value = 0 then nan else infinite (negative != decide (value < 0))
  | finite value, infinite negative =>
      if value = 0 then nan else infinite (negative != decide (value < 0))

/-- The whole number nearest to a quotient, the even one of two. -/
def halfEvenQuotient (value scale : Nat) : Nat :=
  let below := value / scale
  let rest := value % scale
  if 2 * rest < scale then below
  else if scale < 2 * rest then below + 1
  else if below % 2 = 0 then below
  else below + 1

/-- Keep 53 binary digits of a whole number. -/
def roundWhole (value : Nat) : Nat :=
  let scale := 2 ^ (Nat.log2 value - 52)
  halfEvenQuotient value scale * scale

/-- The product of two whole numbers as a double. -/
def wholeProduct (left right : Nat) : Nat := roundWhole (left * right)

/-- The sum of two whole numbers as a double. -/
def wholeSum (left right : Nat) : Nat := roundWhole (left + right)

theorem roundHalfEven_div (value : Nat) {scale : Nat} (some : 0 < scale) :
    roundHalfEven ((value : ℚ) / scale) = halfEvenQuotient value scale := by
  have positive : (0 : ℚ) < scale := Nat.cast_pos.mpr some
  have floor : ⌊(value : ℚ) / scale⌋ = ((value / scale : Nat) : ℤ) := by
    rw [Rat.floor_natCast_div_natCast]
    rfl
  have rest : (value : ℚ) / scale - ((value / scale : Nat) : ℤ) =
      (value % scale : Nat) / scale := by
    have split : (value : ℚ) =
        scale * (value / scale : Nat) + (value % scale : Nat) := by
      exact_mod_cast (Nat.div_add_mod value scale).symm
    rw [Int.cast_natCast, eq_div_iff positive.ne', sub_mul,
      div_mul_cancel₀ _ positive.ne']
    linarith
  have below : ((value % scale : Nat) : ℚ) / scale < 1 / 2 ↔
      2 * (value % scale) < scale := by
    rw [div_lt_div_iff₀ positive two_pos, one_mul, mul_comm]
    exact_mod_cast Iff.rfl
  have above : 1 / 2 < ((value % scale : Nat) : ℚ) / scale ↔
      scale < 2 * (value % scale) := by
    rw [div_lt_div_iff₀ two_pos positive, one_mul, mul_comm]
    exact_mod_cast Iff.rfl
  have even : ((value / scale : Nat) : ℤ) % 2 = 0 ↔
      value / scale % 2 = 0 := by
    omega
  simp only [roundHalfEven, halfEvenQuotient, floor, rest, below, above, even]
  split_ifs <;> simp

theorem halfEvenQuotient_le (value scale : Nat) :
    halfEvenQuotient value scale ≤ value / scale + 1 := by
  simp only [halfEvenQuotient]
  split_ifs
  · exact Nat.le_succ _
  · exact le_refl _
  · exact Nat.le_succ _
  · exact le_refl _

theorem halfEvenQuotient_one (value : Nat) :
    halfEvenQuotient value 1 = value := by
  simp only [halfEvenQuotient, Nat.mod_one, Nat.div_one]
  rfl

theorem roundWhole_of_lt {value : Nat} (few : Nat.log2 value ≤ 52) :
    roundWhole value = value := by
  have scale : 2 ^ (Nat.log2 value - 52) = 1 := by
    rw [Nat.sub_eq_zero_of_le few, pow_zero]
  simp only [roundWhole, scale, halfEvenQuotient_one, mul_one]

theorem lastDigitExponent_natCast (value : Nat) :
    lastDigitExponent value = (Nat.log2 value : ℤ) - 52 := by
  rw [lastDigitExponent, Nat.abs_cast, Int.log_natCast, Nat.log2_eq_log_two]
  omega

/-- A whole number is rounded at the last digit that a double keeps. -/
theorem rounded_natCast (value : Nat) :
    rounded value = roundWhole value := by
  rw [rounded, lastDigitExponent_natCast]
  rcases le_or_gt (Nat.log2 value) 52 with few | many
  · -- the digits behind the point are zeros
    obtain ⟨places, exponent⟩ : ∃ places : Nat,
        (Nat.log2 value : ℤ) - 52 = -places :=
      ⟨52 - Nat.log2 value, by omega⟩
    have whole : (value : ℚ) / 2 ^ (-(places : ℤ)) =
        ((value * 2 ^ places : Nat) : ℚ) / (1 : Nat) := by
      rw [zpow_neg, div_inv_eq_mul, zpow_natCast]
      push_cast
      rw [div_one]
    rw [exponent, whole, roundHalfEven_div _ Nat.one_pos,
      halfEvenQuotient_one, roundWhole_of_lt few, zpow_neg, zpow_natCast]
    push_cast
    exact mul_inv_cancel_right₀ (pow_ne_zero places two_ne_zero) _
  · have exponent : (Nat.log2 value : ℤ) - 52 =
        ((Nat.log2 value - 52 : Nat) : ℤ) := by
      omega
    have scale : (2 : ℚ) ^ ((Nat.log2 value - 52 : Nat) : ℤ) =
        ((2 ^ (Nat.log2 value - 52) : Nat) : ℚ) := by
      rw [zpow_natCast]
      push_cast
      rfl
    rw [exponent, scale, roundHalfEven_div _ (Nat.two_pow_pos _)]
    push_cast [roundWhole]
    rfl

/-- Rounding adds at most one binary digit. -/
theorem roundWhole_lt {value digits : Nat} (small : value < 2 ^ digits) :
    roundWhole value < 2 ^ (digits + 1) := by
  rw [pow_succ]
  by_cases few : Nat.log2 value ≤ 52
  · rw [roundWhole_of_lt few]
    omega
  · have nonzero : value ≠ 0 := by
      rintro rfl
      exact few (by decide)
    have scale : 2 ^ (Nat.log2 value - 52) ≤ value :=
      (Nat.pow_le_pow_right two_pos (Nat.sub_le _ _)).trans
        (Nat.log2_self_le nonzero)
    have quotient := Nat.mul_le_mul_right (2 ^ (Nat.log2 value - 52))
      (halfEvenQuotient_le value (2 ^ (Nat.log2 value - 52)))
    have product := Nat.div_mul_le_self value (2 ^ (Nat.log2 value - 52))
    rw [Nat.add_mul, Nat.one_mul] at quotient
    rw [roundWhole]
    omega

theorem roundToDouble_natCast {value digits : Nat}
    (small : value < 2 ^ digits) (few : digits < 1024) :
    roundToDouble value = finite (roundWhole value) := by
  have bounded : ¬ (2 : ℚ) ^ 1024 ≤ |(roundWhole value : ℚ)| := by
    have bound : (roundWhole value : ℚ) < (2 ^ (digits + 1) : Nat) :=
      Nat.cast_lt.mpr (roundWhole_lt small)
    rw [Nat.cast_pow, Nat.cast_ofNat] at bound
    rw [Nat.abs_cast, not_le]
    exact bound.trans_le (pow_le_pow_right₀ one_le_two few)
  simp only [roundToDouble, rounded_natCast, if_neg bounded]

theorem mul_natCast {left right digits : Nat}
    (small : left * right < 2 ^ digits) (few : digits < 1024) :
    mul (finite left) (finite right) = finite (wholeProduct left right) := by
  rw [mul, ← Nat.cast_mul, roundToDouble_natCast small few, wholeProduct]

theorem add_natCast {left right digits : Nat}
    (small : left + right < 2 ^ digits) (few : digits < 1024) :
    add (finite left) (finite right) = finite (wholeSum left right) := by
  rw [add, ← Nat.cast_add, roundToDouble_natCast small few, wholeSum]

example : wholeProduct (2 ^ 30 + 1) (2 ^ 30 + 3) = 2 ^ 60 + 2 ^ 32 := by
  decide

end JsNumber

end VaultCore
