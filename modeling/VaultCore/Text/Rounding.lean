import VaultCore.Text.JsNumber
import Mathlib.Tactic.Linarith

/-!
# Sums and differences of finite numbers

A sum or a difference is exact and then rounded.  Rounding keeps the order of
numbers, and it keeps every whole number of at most 53 binary digits, so that
whole numbers compare after it as they did before.  A result beyond the
largest double is kept as the number it is rounded to: it stands for the
infinity in every comparison with a double.
-/

namespace VaultCore

namespace JsNumber

/-- `left + right` of two finite numbers. -/
def plus (left right : ℚ) : ℚ := rounded (left + right)

/-- `left - right` of two finite numbers. -/
def minus (left right : ℚ) : ℚ := rounded (left - right)

/-- `left * right` of two finite numbers. -/
def times (left right : ℚ) : ℚ := rounded (left * right)

/-- `left / right` of two finite numbers, the second not zero. -/
def quotient (left right : ℚ) : ℚ := rounded (left / right)

/-- `Number.isSafeInteger(value)` -/
def SafeInteger (value : ℚ) : Prop :=
  ∃ whole : ℤ, |whole| < 2 ^ 53 ∧ value = whole

/-! ## Whole numbers -/

theorem roundHalfEven_intCast (whole : ℤ) :
    roundHalfEven (whole : ℚ) = whole := by
  simp [roundHalfEven]

theorem floor_le_roundHalfEven (value : ℚ) :
    ⌊value⌋ ≤ roundHalfEven value := by
  simp only [roundHalfEven]
  split_ifs
  · exact le_rfl
  · exact Int.le_add_one le_rfl
  · exact le_rfl
  · exact Int.le_add_one le_rfl

theorem roundHalfEven_le_floor_add_one (value : ℚ) :
    roundHalfEven value ≤ ⌊value⌋ + 1 := by
  simp only [roundHalfEven]
  split_ifs
  · exact Int.le_add_one le_rfl
  · exact le_rfl
  · exact Int.le_add_one le_rfl
  · exact le_rfl

theorem roundHalfEven_mono {left right : ℚ} (ordered : left ≤ right) :
    roundHalfEven left ≤ roundHalfEven right := by
  rcases (Int.floor_mono ordered).lt_or_eq with apart | same
  · calc
      roundHalfEven left ≤ ⌊left⌋ + 1 := roundHalfEven_le_floor_add_one left
      _ ≤ ⌊right⌋ := apart
      _ ≤ roundHalfEven right := floor_le_roundHalfEven right
  · have rests : left - ⌊right⌋ ≤ right - ⌊right⌋ := by linarith
    simp only [roundHalfEven, same]
    split_ifs
    all_goals first | omega | (exfalso; linarith)

/-! ## The order -/

section Order

variable {value bound left right : ℚ}

theorem rounded_le {digits : ℤ} (below : value ≤ bound)
    (held : bound = digits * 2 ^ lastDigitExponent value) :
    rounded value ≤ bound := by
  have scale : (0 : ℚ) < 2 ^ lastDigitExponent value :=
    zpow_pos two_pos _
  have quotient : value / 2 ^ lastDigitExponent value ≤ digits := by
    rw [div_le_iff₀ scale, ← held]
    exact below
  have whole := roundHalfEven_mono quotient
  rw [roundHalfEven_intCast] at whole
  rw [rounded, held]
  exact mul_le_mul_of_nonneg_right (Int.cast_le.mpr whole) scale.le

theorem le_rounded {digits : ℤ} (above : bound ≤ value)
    (held : bound = digits * 2 ^ lastDigitExponent value) :
    bound ≤ rounded value := by
  have scale : (0 : ℚ) < 2 ^ lastDigitExponent value :=
    zpow_pos two_pos _
  have quotient : digits ≤ value / 2 ^ lastDigitExponent value := by
    rw [le_div_iff₀ scale, ← held]
    exact above
  have whole := roundHalfEven_mono quotient
  rw [roundHalfEven_intCast] at whole
  rw [rounded, held]
  exact mul_le_mul_of_nonneg_right (Int.cast_le.mpr whole) scale.le

theorem rounded_nonpos (below : value ≤ 0) : rounded value ≤ 0 := by
  apply @rounded_le _ _ 0 below
  rw [Int.cast_zero, zero_mul]

theorem rounded_nonneg (above : 0 ≤ value) : 0 ≤ rounded value := by
  apply @le_rounded _ _ 0 above
  rw [Int.cast_zero, zero_mul]

theorem rounded_mono_of_same (ordered : left ≤ right)
    (same : lastDigitExponent left = lastDigitExponent right) :
    rounded left ≤ rounded right := by
  have scale : (0 : ℚ) < 2 ^ lastDigitExponent right :=
    zpow_pos two_pos _
  rw [rounded, rounded, same]
  apply mul_le_mul_of_nonneg_right _ scale.le
  apply Int.cast_le.mpr
  apply roundHalfEven_mono
  exact div_le_div_of_nonneg_right ordered scale.le

theorem power_held {exponent last : ℤ} (fits : last ≤ exponent) :
    ∃ digits : ℤ, (2 : ℚ) ^ exponent = digits * 2 ^ last := by
  obtain ⟨places, split⟩ := Int.eq_ofNat_of_zero_le (sub_nonneg.mpr fits)
  refine ⟨2 ^ places, ?_⟩
  push_cast
  rw [← zpow_natCast, ← zpow_add₀ two_ne_zero, ← split, sub_add_cancel]

/-- Between two magnitudes with different last digits there is a power of two
that is held with the digits of both. -/
theorem power_between (nonzero : left ≠ 0) (ordered : |left| ≤ |right|)
    (different : lastDigitExponent left ≠ lastDigitExponent right) :
    ∃ exponent : ℤ, |left| ≤ 2 ^ exponent ∧ 2 ^ exponent ≤ |right| ∧
      lastDigitExponent left ≤ exponent ∧
      lastDigitExponent right ≤ exponent := by
  have leftPositive : 0 < |left| := abs_pos.mpr nonzero
  have rightPositive : 0 < |right| := leftPositive.trans_le ordered
  have logs : Int.log 2 |left| ≤ Int.log 2 |right| :=
    Int.log_mono_right leftPositive ordered
  simp only [lastDigitExponent] at different ⊢
  have larger : Int.log 2 |left| < Int.log 2 |right| := by omega
  refine ⟨Int.log 2 |right|, ?_, ?_, by omega, by omega⟩
  · calc
      |left| ≤ 2 ^ (Int.log 2 |left| + 1) :=
        (Int.lt_zpow_succ_log_self one_lt_two _).le
      _ ≤ 2 ^ Int.log 2 |right| :=
        zpow_le_zpow_right₀ one_le_two (Int.add_one_le_of_lt larger)
  · exact Int.zpow_log_le_self one_lt_two rightPositive

theorem rounded_mono_of_pos (positive : 0 < left) (ordered : left ≤ right) :
    rounded left ≤ rounded right := by
  have rightPositive : 0 < right := positive.trans_le ordered
  by_cases same : lastDigitExponent left = lastDigitExponent right
  · exact rounded_mono_of_same ordered same
  · have magnitudes : |left| ≤ |right| := by
      rw [abs_of_pos positive, abs_of_pos rightPositive]
      exact ordered
    obtain ⟨exponent, above, below, leftFits, rightFits⟩ :=
      power_between positive.ne' magnitudes same
    obtain ⟨leftDigits, leftHeld⟩ := power_held leftFits
    obtain ⟨rightDigits, rightHeld⟩ := power_held rightFits
    rw [abs_of_pos positive] at above
    rw [abs_of_pos rightPositive] at below
    exact (rounded_le above leftHeld).trans (le_rounded below rightHeld)

theorem rounded_mono_of_neg (negative : right < 0) (ordered : left ≤ right) :
    rounded left ≤ rounded right := by
  have leftNegative : left < 0 := ordered.trans_lt negative
  by_cases same : lastDigitExponent left = lastDigitExponent right
  · exact rounded_mono_of_same ordered same
  · have magnitudes : |right| ≤ |left| := by
      rw [abs_of_neg negative, abs_of_neg leftNegative]
      exact neg_le_neg ordered
    obtain ⟨exponent, above, below, rightFits, leftFits⟩ :=
      power_between negative.ne magnitudes (Ne.symm same)
    obtain ⟨leftDigits, leftHeld⟩ := power_held leftFits
    obtain ⟨rightDigits, rightHeld⟩ := power_held rightFits
    rw [abs_of_neg negative] at above
    rw [abs_of_neg leftNegative] at below
    have lower : rounded left ≤ -2 ^ exponent := by
      apply @rounded_le _ _ (-leftDigits) (le_neg_of_le_neg below)
      rw [leftHeld, Int.cast_neg, neg_mul]
    have upper : -2 ^ exponent ≤ rounded right := by
      apply @le_rounded _ _ (-rightDigits) (neg_le_of_neg_le above)
      rw [rightHeld, Int.cast_neg, neg_mul]
    exact lower.trans upper

theorem rounded_mono (ordered : left ≤ right) :
    rounded left ≤ rounded right := by
  rcases lt_or_ge 0 left with positive | leftBelow
  · exact rounded_mono_of_pos positive ordered
  · rcases lt_or_ge right 0 with negative | rightAbove
    · exact rounded_mono_of_neg negative ordered
    · exact (rounded_nonpos leftBelow).trans (rounded_nonneg rightAbove)

end Order

theorem minus_mono {left right more less : ℚ} (larger : left ≤ more)
    (smaller : less ≤ right) : minus left right ≤ minus more less :=
  rounded_mono (sub_le_sub larger smaller)

/-! ## Whole numbers are kept -/

section Whole

theorem rounded_of_held {value : ℚ} {digits : ℤ}
    (held : value = digits * 2 ^ lastDigitExponent value) :
    rounded value = value :=
  le_antisymm (rounded_le le_rfl held) (le_rounded le_rfl held)

private theorem rounded_intCast_of_lt {whole : ℤ} (small : |whole| < 2 ^ 53) :
    rounded whole = whole := by
  have last : lastDigitExponent (whole : ℚ) ≤ 0 := by
    by_cases zero : whole = 0
    · rw [zero]
      decide +kernel
    · have positive : (0 : ℚ) < |(whole : ℚ)| :=
        abs_pos.mpr (Int.cast_ne_zero.mpr zero)
      have bound : |(whole : ℚ)| < 2 ^ (53 : ℤ) := by
        exact_mod_cast small
      have log : Int.log 2 |(whole : ℚ)| < 53 :=
        (Int.lt_zpow_iff_log_lt one_lt_two positive).mp bound
      rw [lastDigitExponent]
      omega
  obtain ⟨scale, one⟩ := power_held last
  apply @rounded_of_held _ (whole * scale)
  rw [Int.cast_mul, mul_assoc, ← one, zpow_zero, mul_one]

/-- Whole numbers of at most 53 digits are kept, and so is the next one. -/
theorem rounded_intCast {whole : ℤ} (small : |whole| ≤ 2 ^ 53) :
    rounded whole = whole := by
  rcases small.lt_or_eq with less | same
  · exact rounded_intCast_of_lt less
  · rcases (abs_eq (by decide)).mp same with rfl | rfl
    · decide +kernel
    · decide +kernel

theorem rounded_safeInteger {value : ℚ} (safe : SafeInteger value) :
    rounded value = value := by
  obtain ⟨whole, small, rfl⟩ := safe
  exact rounded_intCast small.le

theorem safeInteger_intCast {whole : ℤ} (small : |whole| < 2 ^ 53) :
    SafeInteger whole := ⟨whole, small, rfl⟩

/-- A whole number is rounded to one on the same side of a safe integer. -/
theorem le_rounded_iff {bound whole : ℤ} (safe : |bound| < 2 ^ 53) :
    (bound : ℚ) ≤ rounded whole ↔ bound ≤ whole := by
  constructor
  · intro above
    by_contra below
    have next : |bound - 1| ≤ 2 ^ 53 := by
      rw [abs_lt] at safe
      rw [abs_le]
      omega
    have ordered : (whole : ℚ) ≤ ((bound - 1 : ℤ) : ℚ) := by
      exact_mod_cast Int.le_sub_one_of_lt (not_le.mp below)
    have lower := rounded_mono ordered
    rw [rounded_intCast next, Int.cast_sub, Int.cast_one] at lower
    linarith
  · intro above
    rw [← rounded_intCast safe.le]
    exact rounded_mono (Int.cast_le.mpr above)

theorem rounded_le_iff {bound whole : ℤ} (safe : |bound| < 2 ^ 53) :
    rounded whole ≤ bound ↔ whole ≤ bound := by
  constructor
  · intro below
    by_contra above
    have next : |bound + 1| ≤ 2 ^ 53 := by
      rw [abs_lt] at safe
      rw [abs_le]
      omega
    have ordered : ((bound + 1 : ℤ) : ℚ) ≤ (whole : ℚ) := by
      exact_mod_cast Int.add_one_le_of_lt (not_le.mp above)
    have upper := rounded_mono ordered
    rw [rounded_intCast next, Int.cast_add, Int.cast_one] at upper
    linarith
  · intro below
    rw [← rounded_intCast safe.le]
    exact rounded_mono (Int.cast_le.mpr below)

theorem le_minus_iff {bound left right : ℚ} (bounded : SafeInteger bound)
    (leftWhole : SafeInteger left) (rightWhole : SafeInteger right) :
    bound ≤ minus left right ↔ bound ≤ left - right := by
  obtain ⟨boundWhole, safe, rfl⟩ := bounded
  obtain ⟨whole, -, rfl⟩ := leftWhole
  obtain ⟨other, -, rfl⟩ := rightWhole
  rw [minus, ← Int.cast_sub, le_rounded_iff safe, Int.cast_le]

theorem plus_le_iff {bound left right : ℚ} (bounded : SafeInteger bound)
    (leftWhole : SafeInteger left) (rightWhole : SafeInteger right) :
    plus left right ≤ bound ↔ left + right ≤ bound := by
  obtain ⟨boundWhole, safe, rfl⟩ := bounded
  obtain ⟨whole, -, rfl⟩ := leftWhole
  obtain ⟨other, -, rfl⟩ := rightWhole
  rw [plus, ← Int.cast_add, rounded_le_iff safe, Int.cast_le]

end Whole

/-- A positive whole number of thousandths, short of where a double loses
them. -/
theorem quotient_le_iff {thousandths : Nat} (some : 0 < thousandths)
    (small : thousandths < 1000 * 2 ^ 43) (bound : Nat) :
    quotient thousandths 1000 ≤ bound ↔ thousandths ≤ 1000 * bound := by
  have positive : (0 : ℚ) < (thousandths : ℚ) / 1000 := by positivity
  have last : lastDigitExponent ((thousandths : ℚ) / 1000) ≤ -10 := by
    have value : |(thousandths : ℚ) / 1000| < 2 ^ (43 : ℤ) := by
      rw [abs_of_pos positive, div_lt_iff₀ (by norm_num)]
      have cast : (thousandths : ℚ) < ((1000 * 2 ^ 43 : Nat) : ℚ) :=
        Nat.cast_lt.mpr small
      exact cast.trans_eq (by norm_num)
    have log : Int.log 2 |(thousandths : ℚ) / 1000| < 43 :=
      (Int.lt_zpow_iff_log_lt one_lt_two (abs_pos.mpr positive.ne')).mp value
    rw [lastDigitExponent]
    omega
  obtain ⟨scale, held⟩ := power_held last
  constructor
  · intro below
    by_contra above
    -- the next number with ten binary digits behind the point
    have next : (bound : ℚ) + 2 ^ (-10 : ℤ) ≤ (thousandths : ℚ) / 1000 := by
      have more : ((1000 * bound + 1 : Nat) : ℚ) ≤ thousandths :=
        Nat.cast_le.mpr (Nat.succ_le_of_lt (not_le.mp above))
      push_cast at more
      rw [le_div_iff₀ (by norm_num)]
      norm_num
      linarith
    have kept : (bound : ℚ) + 2 ^ (-10 : ℤ) =
        (((bound : ℤ) * 2 ^ 10 + 1) * scale : ℤ) *
          2 ^ lastDigitExponent ((thousandths : ℚ) / 1000) := by
      push_cast
      rw [mul_assoc, ← held]
      norm_num
      ring
    have lower : (bound : ℚ) + 2 ^ (-10 : ℤ) ≤ quotient thousandths 1000 :=
      le_rounded next kept
    have tenth : (0 : ℚ) < 2 ^ (-10 : ℤ) := zpow_pos two_pos _
    linarith
  · intro below
    have bounded : (thousandths : ℚ) / 1000 ≤ bound := by
      rw [div_le_iff₀ (by norm_num)]
      have cast : (thousandths : ℚ) ≤ ((1000 * bound : Nat) : ℚ) :=
        Nat.cast_le.mpr below
      push_cast at cast
      linarith
    apply @rounded_le _ _ ((bound : ℤ) * 2 ^ 10 * scale) bounded
    push_cast
    rw [mul_assoc, ← held]
    norm_num
    ring

/-- A difference that rounding makes too large. -/
example : minus (1 / 2 ^ 38) (-(60000 - 1 / 2 ^ 37)) = 60000 := by
  decide +kernel

end JsNumber

end VaultCore
