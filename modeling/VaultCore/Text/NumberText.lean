import VaultCore.Text.JsNumber

/-!
# Numbers by their texts

A number is written with digits that read back as it, so a text of digits that
does not end in zero is the text of one number only.
-/

namespace VaultCore

namespace JsNumber

/-- The value of a text of digits. -/
def digitsValue (text : JsString) : Nat :=
  Nat.ofDigits 10 (text.reverse.map fun unit => unit.toNat - 48)

theorem digitUnit_value {digit : Nat} (decimal : digit < 10) :
    (digitUnit digit).toNat - 48 = digit := by
  rw [digitUnit_toNat decimal]
  omega

theorem digitsValue_digitsText (value : Nat) :
    digitsValue (digitsText value) = value := by
  by_cases zero : value = 0
  · rw [zero]
    decide
  · have digits : ((Nat.digits 10 value).map digitUnit).map
        (fun unit => unit.toNat - 48) = Nat.digits 10 value := by
      rw [List.map_map]
      conv_rhs => rw [← List.map_id (Nat.digits 10 value)]
      apply List.map_congr_left
      intro digit member
      exact digitUnit_value (Nat.digits_lt_base (by decide) member)
    rw [digitsText, if_neg zero, digitsValue, ← List.map_reverse,
      List.reverse_reverse, digits, Nat.ofDigits_digits]

theorem digitsValue_zeros (text : JsString) (count : Nat) :
    digitsValue (text ++ List.replicate count (digitUnit 0)) =
      digitsValue text * 10 ^ count := by
  have zero : (digitUnit 0).toNat - 48 = 0 := by decide
  rw [digitsValue, List.reverse_append, List.reverse_replicate,
    List.map_append, List.map_replicate, zero, Nat.ofDigits_append,
    Nat.ofDigits_replicate_zero, List.length_replicate, zero_add, mul_comm]
  rfl

/-- Every unit is a digit. -/
def AllDigits (text : JsString) : Prop :=
  ∀ unit ∈ text, 48 ≤ unit.toNat ∧ unit.toNat ≤ 57

theorem allDigits_digitsText (value : Nat) : AllDigits (digitsText value) := by
  intro unit member
  rw [digitsText] at member
  split at member
  · rw [List.mem_singleton.mp member]
    decide
  · obtain ⟨digit, digitMember, rfl⟩ := List.mem_map.mp member
    have decimal := Nat.digits_lt_base (by decide : 1 < 10)
      (List.mem_reverse.mp digitMember)
    rw [digitUnit_toNat decimal]
    omega

theorem digitsOfLength_eq_some {value : ℚ} {point : ℤ} {length : Nat}
    {found : ShortestDigits}
    (read : digitsOfLength value point length = some found) :
    ∃ digits : Nat,
      roundToDouble (digits * 10 ^ (point - length)) = finite value ∧
        found = normalDigits digits length point := by
  unfold digitsOfLength at read
  extract_lets scale below reads belowFirst first second at read
  split at read
  · rename_i readsFirst
    exact ⟨first, beq_iff_eq.mp readsFirst, (Option.some.inj read).symm⟩
  · split at read
    · rename_i readsSecond
      exact ⟨second, beq_iff_eq.mp readsSecond, (Option.some.inj read).symm⟩
    · cases read

/-- The digits found for a value read back as it, or are its first
seventeen. -/
theorem shortestDigits_cases (value : ℚ) :
    (∃ digits length : Nat,
      roundToDouble (digits * 10 ^ (Int.log 10 value + 1 - length)) =
        finite value ∧
      shortestDigits value =
        normalDigits digits length (Int.log 10 value + 1)) ∨
      shortestDigits value =
        { digits := ⌊value / 10 ^ (Int.log 10 value + 1 - 17)⌋₊
          length := 17
          point := Int.log 10 value + 1 } := by
  simp only [shortestDigits]
  cases found : (List.range' 1 17).findSome?
      (digitsOfLength value (Int.log 10 value + 1)) with
  | none => exact .inr rfl
  | some shortest =>
      left
      obtain ⟨length, -, read⟩ := List.exists_of_findSome?_eq_some found
      obtain ⟨digits, reads, same⟩ := digitsOfLength_eq_some read
      exact ⟨digits, length, reads, same⟩

/-- A text of digits that is written for a number is its digits and zeros. -/
theorem positiveText_digits {value : ℚ}
    (digits : AllDigits (positiveText value)) :
    (shortestDigits value).length ≤ (shortestDigits value).point ∧
      positiveText value = digitsText (shortestDigits value).digits ++
        List.replicate ((shortestDigits value).point -
          (shortestDigits value).length).toNat (digitUnit 0) := by
  have noPoint : pointUnit ∉ positiveText value := by
    intro member
    have least := (digits pointUnit member).1
    revert least
    decide
  have noLetter : (101 : UInt16) ∉ positiveText value := by
    intro member
    have most := (digits 101 member).2
    revert most
    decide
  simp only [positiveText] at noPoint noLetter ⊢
  split
  · rename_i whole
    exact ⟨whole.1, rfl⟩
  · rename_i notWhole
    exfalso
    rw [if_neg notWhole] at noPoint noLetter
    split at noPoint
    · exact noPoint (List.mem_append_right _ List.mem_cons_self)
    · rename_i notMixed
      rw [if_neg notMixed] at noLetter
      split at noPoint
      · apply noPoint
        rw [List.append_assoc]
        exact List.mem_append_left _ (by decide)
      · rename_i notFraction
        rw [if_neg notFraction] at noLetter
        split at noPoint
        · rename_i single
          rw [if_pos single] at noLetter
          apply noLetter
          apply List.mem_append_right
          rw [exponentText, List.append_assoc]
          exact List.mem_append_left _ (by decide)
        · apply noPoint
          rw [List.append_assoc]
          exact List.mem_append_right _ List.mem_cons_self

/-- Digits that do not end in zero are written for the number they are. -/
theorem roundToDouble_of_positiveText {value : ℚ} {digits : Nat}
    (noZero : digits % 10 ≠ 0) (notOne : digits ≠ 1)
    (small : digits < 10 ^ 16)
    (written : positiveText value = digitsText digits) :
    roundToDouble digits = finite value := by
  have allDigits : AllDigits (positiveText value) := by
    rw [written]
    exact allDigits_digitsText digits
  obtain ⟨whole, text⟩ := positiveText_digits allDigits
  have counted := congrArg digitsValue (written.symm.trans text)
  rw [digitsValue_digitsText, digitsValue_zeros, digitsValue_digitsText]
    at counted
  have noZeros : ((shortestDigits value).point -
      (shortestDigits value).length).toNat = 0 := by
    by_contra some
    obtain ⟨fewer, same⟩ := Nat.exists_eq_succ_of_ne_zero some
    rw [same, pow_succ, ← mul_assoc] at counted
    exact noZero (by rw [counted, Nat.mul_mod_left])
  rw [noZeros, pow_zero, mul_one] at counted
  have point : (shortestDigits value).point =
      (shortestDigits value).length := by
    omega
  rcases shortestDigits_cases value with
    ⟨found, length, reads, same⟩ | same
  · rw [same, normalDigits] at counted point
    split at counted
    · exfalso
      simp only at counted
      cases length with
      | zero => exact notOne counted
      | succ fewer =>
          rw [Nat.add_sub_cancel] at counted
          cases fewer with
          | zero => exact notOne counted
          | succ less =>
              apply noZero
              rw [counted, pow_succ, Nat.mul_mod_left]
    · rename_i notPower
      rw [if_neg notPower] at point
      simp only at counted point
      rw [point, sub_self, zpow_zero, mul_one] at reads
      rw [counted]
      exact reads
  · exfalso
    rw [same] at counted point
    simp only at counted point
    have exponent : Int.log 10 value = 16 := by
      have seventeen : ((17 : Nat) : ℤ) = 17 := rfl
      omega
    have positive : 0 < value := by
      by_contra notPositive
      rw [Int.log_of_right_le_zero 10 (not_lt.mp notPositive)] at exponent
      cases exponent
    have large := Int.zpow_log_le_self (by decide : 1 < 10) positive
    rw [exponent] at large
    rw [exponent] at counted
    have atLeast : 10 ^ 16 ≤ digits := by
      rw [counted]
      apply Nat.le_floor
      norm_num at large ⊢
      exact large
    omega

/-- Such digits are the text of one number. -/
theorem eq_of_numberText {number : JsNumber} {digits : Nat}
    (noZero : digits % 10 ≠ 0) (notOne : digits ≠ 1)
    (small : digits < 10 ^ 16)
    (written : numberText number = digitsText digits) :
    roundToDouble digits = number := by
  have allDigits : AllDigits (numberText number) := by
    rw [written]
    exact allDigits_digitsText digits
  cases number with
  | nan =>
      have first := allDigits 78 (by decide)
      exact absurd first.2 (by decide)
  | infinite negative =>
      cases negative with
      | false =>
          have first := allDigits 73 (by decide)
          exact absurd first.2 (by decide)
      | true =>
          have first := allDigits 45 (by decide)
          exact absurd first.1 (by decide)
  | finite value =>
      simp only [numberText] at written allDigits
      split at written
      · have zero := congrArg digitsValue written
        rw [digitsValue_digitsText] at zero
        rw [← zero] at noZero
        exact absurd rfl noZero
      · rename_i nonzero
        rw [if_neg nonzero] at allDigits
        split at written
        · rename_i negative
          rw [if_pos negative] at allDigits
          have first := allDigits 45
            (List.mem_append_left _ (by decide))
          exact absurd first.1 (by decide)
        · exact roundToDouble_of_positiveText noZero notOne small written

end JsNumber

end VaultCore
