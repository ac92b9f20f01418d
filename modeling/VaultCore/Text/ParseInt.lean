import VaultCore.Text.NumberText
import VaultCore.Text.Rounding
import VaultCore.Text.WholeNumber
import Mathlib.Algebra.Order.Floor.Semifield
import Mathlib.Tactic.Ring

/-!
# Whole numbers read from texts

`parseInt` reads the digits that a text begins with.  A whole number that is
small enough to be written without an exponent is read back from its text.
-/

namespace VaultCore

namespace JsNumber

def isDecimalUnit (unit : UInt16) : Bool :=
  48 ≤ unit.toNat && unit.toNat ≤ 57

/-- `Number.parseInt(text, 10)` -/
def parseInt (text : JsString) : JsNumber :=
  let signed := readSign (text.dropWhile isWhitespaceUnit)
  let digits := signed.2.takeWhile isDecimalUnit
  if digits = [] then nan
  else
    let value := roundToDouble (digitsValue digits)
    if signed.1 then negate value else value

/-! ## Whole numbers as texts -/

/-- The first value found is found no later than a known one. -/
theorem findSome?_range'_le {α : Type} {find : Nat → Option α}
    {start count wanted : Nat} (member : wanted ∈ List.range' start count)
    (found : (find wanted).isSome = true) :
    ∃ index value, start ≤ index ∧ index ≤ wanted ∧ find index = some value ∧
      (List.range' start count).findSome? find = some value := by
  induction count generalizing start with
  | zero => simp at member
  | succ count ih =>
      rw [List.range'_succ] at member ⊢
      rw [List.findSome?_cons]
      have within := (List.mem_range'_1.mp (by
        rw [← List.range'_succ] at member
        exact member)).1
      cases here : find start with
      | some value => exact ⟨start, value, le_rfl, within, here, rfl⟩
      | none =>
          rcases List.mem_cons.mp member with rfl | later
          · rw [here] at found
            cases found
          · obtain ⟨index, value, least, most, finds, first⟩ := ih later
            exact ⟨index, value, by omega, most, finds, first⟩

theorem roundWhole_small {value : Nat} (small : value < 2 ^ 53) :
    roundWhole value = value := by
  apply roundWhole_of_lt
  by_cases zero : value = 0
  · rw [zero]
    decide
  · exact Nat.lt_succ_iff.mp ((Nat.log2_lt zero).mpr small)

theorem roundToDouble_small {value : Nat} (small : value < 2 ^ 53) :
    roundToDouble value = finite value := by
  rw [roundToDouble_natCast small (by decide), roundWhole_small small]

theorem roundToDouble_intCast {value : ℤ} (small : value.natAbs < 2 ^ 53) :
    roundToDouble value = finite value := by
  have kept : rounded value = value := by
    apply rounded_intCast
    rw [Int.abs_eq_natAbs]
    omega
  have bounded : ¬ (2 : ℚ) ^ 1024 ≤ |(value : ℚ)| := by
    have size : |(value : ℚ)| = (value.natAbs : ℚ) := by
      rw [Nat.cast_natAbs, Int.cast_abs]
    have bound : (value.natAbs : ℚ) < ((2 ^ 53 : Nat) : ℚ) :=
      Nat.cast_lt.mpr small
    rw [Nat.cast_pow, Nat.cast_ofNat] at bound
    rw [size, not_le]
    exact bound.trans (pow_lt_pow_right₀ one_lt_two (by decide))
  simp only [roundToDouble, kept, if_neg bounded]

/-- Rounding does not go below the whole numbers that are kept as they are. -/
theorem le_roundWhole {value : Nat} (large : 2 ^ 53 ≤ value) :
    2 ^ 53 ≤ roundWhole value := by
  have nonzero : value ≠ 0 := by
    rintro rfl
    exact absurd large (by decide)
  have digits : 53 ≤ Nat.log2 value := (Nat.le_log2 nonzero).mpr large
  obtain ⟨more, split⟩ := Nat.exists_eq_add_of_le digits
  have kept : Nat.log2 value - 52 = more + 1 := by omega
  have quotient : 2 ^ 52 ≤ value / 2 ^ (more + 1) := by
    rw [Nat.le_div_iff_mul_le (Nat.two_pow_pos _), ← pow_add]
    have least := Nat.log2_self_le nonzero
    rw [split] at least
    have same : 52 + (more + 1) = 53 + more := by omega
    rw [same]
    exact least
  have rounded : value / 2 ^ (more + 1) ≤
      halfEvenQuotient value (2 ^ (more + 1)) := by
    unfold halfEvenQuotient
    dsimp only
    split_ifs <;> omega
  rw [roundWhole, kept]
  calc 2 ^ 53 = 2 ^ 52 * 2 ^ 1 := by norm_num
    _ ≤ halfEvenQuotient value (2 ^ (more + 1)) * 2 ^ (more + 1) :=
        Nat.mul_le_mul (quotient.trans rounded)
          (Nat.pow_le_pow_right two_pos (by omega))

section Digits

variable {value : Nat}

theorem log_lt_of_small (positive : 0 < value) (small : value < 2 ^ 53) :
    Nat.log 10 value < 16 :=
  (Nat.log_lt_iff_lt_pow (by decide) positive.ne').mpr (by omega)

theorem digitsOfLength_whole (small : value < 2 ^ 53) :
    (digitsOfLength value (Nat.log 10 value + 1 : Nat)
      (Nat.log 10 value + 1)).isSome = true := by
  have reads : roundToDouble ((value : ℚ) * 1) = finite value := by
    rw [mul_one, roundToDouble_small small]
  unfold digitsOfLength
  simp only [sub_self, zpow_zero, div_one, Nat.floor_natCast, mul_one]
  rw [mul_one] at reads
  simp [reads]

/-- Digits of a length that are found are at most the next ones above. -/
theorem digitsOfLength_bound {point : ℤ} {length : Nat}
    {found : ShortestDigits}
    (read : digitsOfLength value point length = some found) :
    ∃ digits : Nat,
      digits ≤ ⌊(value : ℚ) / 10 ^ (point - length)⌋₊ + 1 ∧
        roundToDouble (digits * 10 ^ (point - length)) = finite value ∧
        found = normalDigits digits length point := by
  unfold digitsOfLength at read
  extract_lets scale below reads belowFirst first second at read
  have firstBound : first ≤ below + 1 := by
    change (if belowFirst then below else below + 1) ≤ below + 1
    split <;> omega
  have secondBound : second ≤ below + 1 := by
    change (if belowFirst then below + 1 else below) ≤ below + 1
    split <;> omega
  split at read
  · rename_i readsFirst
    exact ⟨first, firstBound, beq_iff_eq.mp readsFirst,
      (Option.some.inj read).symm⟩
  · split at read
    · rename_i readsSecond
      exact ⟨second, secondBound, beq_iff_eq.mp readsSecond,
        (Option.some.inj read).symm⟩
    · cases read

/-- With fewer digits than the number has, and zeros for the others, only the
number itself reads back as it. -/
theorem digitsOfLength_exact {places length : Nat}
    {found : ShortestDigits} (positive : 0 < value)
    (small : value < 2 ^ 53) (log : Nat.log 10 value + 1 = length + places)
    (least : 1 ≤ length)
    (read : digitsOfLength value (length + places : Nat) length =
      some found) :
    ∃ digits : Nat, digits * 10 ^ places = value ∧
      found = normalDigits digits length (length + places : Nat) := by
  obtain ⟨digits, bound, reads, same⟩ := digitsOfLength_bound read
  have exponent : ((length + places : Nat) : ℤ) - length = places := by
    push_cast
    ring
  rw [exponent, zpow_natCast] at bound reads
  refine ⟨digits, ?_, same⟩
  have scale : 10 ^ places ≤ value := by
    refine (Nat.pow_le_pow_right (by decide) ?_).trans
      (Nat.pow_log_le_self 10 positive.ne')
    omega
  have floor : ⌊(value : ℚ) / 10 ^ places⌋₊ = value / 10 ^ places := by
    have cast : (10 : ℚ) ^ places = ((10 ^ places : Nat) : ℚ) := by
      push_cast
      rfl
    rw [cast, Nat.floor_div_natCast, Nat.floor_natCast]
  rw [floor] at bound
  have product : digits * 10 ^ places ≤ value + 10 ^ places := by
    calc digits * 10 ^ places
        ≤ (value / 10 ^ places + 1) * 10 ^ places :=
          Nat.mul_le_mul_right _ bound
      _ ≤ value + 10 ^ places := by
          rw [Nat.add_mul, Nat.one_mul]
          exact Nat.add_le_add_right (Nat.div_mul_le_self _ _) _
  have whole : (digits : ℚ) * 10 ^ places =
      ((digits * 10 ^ places : Nat) : ℚ) := by
    push_cast
    rfl
  rw [whole, roundToDouble_natCast (by omega :
    digits * 10 ^ places < 2 ^ 54) (by decide)] at reads
  have equal : roundWhole (digits * 10 ^ places) = value := by
    have cast : (roundWhole (digits * 10 ^ places) : ℚ) = value := by
      injection reads
    exact_mod_cast cast
  have bounded : digits * 10 ^ places < 2 ^ 53 := by
    by_contra large
    have least := le_roundWhole (not_lt.mp large)
    omega
  rw [roundWhole_small bounded] at equal
  exact equal

/-- A whole number is written in digits that count it. -/
theorem positiveText_whole (positive : 0 < value) (small : value < 2 ^ 53) :
    AllDigits (positiveText value) ∧ digitsValue (positiveText value) = value
      ∧ positiveText value ≠ [] := by
  have few := log_lt_of_small positive small
  have point : Int.log 10 (value : ℚ) + 1 =
      ((Nat.log 10 value + 1 : Nat) : ℤ) := by
    rw [Int.log_natCast]
    rfl
  have within : Nat.log 10 value + 1 ∈ List.range' 1 17 := by
    rw [List.mem_range'_1]
    omega
  obtain ⟨length, found, least, most, read, first⟩ :=
    findSome?_range'_le within (digitsOfLength_whole small)
  obtain ⟨places, split⟩ := Nat.exists_eq_add_of_le most
  rw [split] at read
  obtain ⟨digits, counted, same⟩ :=
    digitsOfLength_exact positive small split least read
  have shortest : shortestDigits value =
      normalDigits digits length (length + places : Nat) := by
    simp only [shortestDigits]
    rw [point, first, Option.getD_some, same]
  have written : ∃ kept zeros, positiveText value =
      digitsText kept ++ List.replicate zeros (digitUnit 0) ∧
        kept * 10 ^ zeros = value := by
    unfold positiveText
    rw [shortest]
    unfold normalDigits
    split_ifs with power
    · refine ⟨10 ^ (length - 1), places + 1, ?_, ?_⟩
      · dsimp only
        rw [if_pos (by push_cast; omega)]
        congr 2
        push_cast
        omega
      · rw [← counted, power, ← pow_add, ← pow_add]
        congr 1
        omega
    · refine ⟨digits, places, ?_, counted⟩
      dsimp only
      rw [if_pos (by push_cast; omega)]
      congr 2
      push_cast
      omega
  obtain ⟨kept, zeros, text, product⟩ := written
  rw [text]
  refine ⟨?_, ?_, ?_⟩
  · intro unit member
    rcases List.mem_append.mp member with digit | zero
    · exact allDigits_digitsText kept unit digit
    · rw [List.eq_of_mem_replicate zero]
      decide
  · rw [digitsValue_zeros, digitsValue_digitsText, product]
  · intro empty
    have nothing := (List.append_eq_nil_iff.mp empty).1
    have zero := digitsValue_digitsText kept
    rw [nothing] at zero
    have none : kept = 0 := zero.symm
    rw [none, Nat.zero_mul] at product
    omega

end Digits

theorem isDecimalUnit_of_allDigits {text : JsString}
    (digits : AllDigits text) : ∀ unit ∈ text, isDecimalUnit unit = true := by
  intro unit member
  obtain ⟨least, most⟩ := digits unit member
  simp [isDecimalUnit, least, most]

/-- A text of digits is read as the number they count. -/
theorem parseInt_digits {text : JsString} (digits : AllDigits text)
    (nonempty : text ≠ []) :
    parseInt text = roundToDouble (digitsValue text) := by
  have noSpace : text.dropWhile isWhitespaceUnit = text := by
    cases text with
    | nil => rfl
    | cons unit units =>
        obtain ⟨least, most⟩ := digits unit List.mem_cons_self
        have plain : isWhitespaceUnit unit = false := by
          simp [isWhitespaceUnit]
          omega
        rw [List.dropWhile_cons_of_neg (by simp [plain])]
  have noSign : readSign text = (false, text) := by
    cases text with
    | nil => rfl
    | cons unit units =>
        obtain ⟨least, most⟩ := digits unit List.mem_cons_self
        have notMinus : unit ≠ 45 := by
          rintro rfl
          exact absurd least (by decide)
        have notPlus : unit ≠ 43 := by
          rintro rfl
          exact absurd least (by decide)
        simp [readSign, notMinus, notPlus]
  have all : text.takeWhile isDecimalUnit = text :=
    List.takeWhile_eq_self_iff.mpr (isDecimalUnit_of_allDigits digits)
  unfold parseInt
  rw [noSpace, noSign]
  dsimp only
  rw [all, if_neg nonempty]
  rfl

/-- A whole number is read back from its text. -/
theorem parseInt_numberText {value : Nat} (small : value < 2 ^ 53) :
    parseInt (numberText (finite value)) = finite value := by
  by_cases zero : value = 0
  · rw [zero]
    decide +kernel
  · have positive := Nat.pos_of_ne_zero zero
    have nonzero : (value : ℚ) ≠ 0 := Nat.cast_ne_zero.mpr zero
    have notNegative : ¬ (value : ℚ) < 0 := not_lt.mpr (Nat.cast_nonneg _)
    obtain ⟨digits, counted, nonempty⟩ := positiveText_whole positive small
    rw [numberText, if_neg nonzero, if_neg notNegative,
      parseInt_digits digits nonempty, counted,
      roundToDouble_small small]

end JsNumber

end VaultCore
