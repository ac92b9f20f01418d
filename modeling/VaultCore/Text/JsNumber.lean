import VaultCore.Text.Words
import Mathlib.Data.Int.Log
import Mathlib.Data.Nat.Digits.Lemmas
import Mathlib.Data.Rat.Floor

/-!
# Numbers of the language

A number is a finite value, an infinity or not a number; the two zeros are one
value.  Arithmetic is exact and then rounded to the nearest double, ties to
even.  `numberText` writes a number with the fewest digits that read back as
it, and `numberOfText` reads a numeric string.
-/

namespace VaultCore

/-- A number: the finite ones by their values. -/
inductive JsNumber where
  | finite (value : ℚ)
  | infinite (negative : Bool)
  | nan
deriving DecidableEq

namespace JsNumber

/-- `Number.isFinite(value)` -/
def isFinite : JsNumber → Bool
  | finite _ => true
  | _ => false

/-- Every comparison with what is not a number is false. -/
def lessThan : JsNumber → JsNumber → Bool
  | finite left, finite right => left < right
  | finite _, infinite negative => !negative
  | infinite negative, finite _ => negative
  | infinite left, infinite right => left && !right
  | _, _ => false

/-- `left >= right` -/
def atLeast (left right : JsNumber) : Bool :=
  lessThan right left || (left == right && left != nan)

/-- Numbers other than `NaN` are totally ordered. -/
theorem atLeast_eq_not_lessThan {left right : JsNumber} (leftNumber : left ≠ nan)
    (rightNumber : right ≠ nan) : left.atLeast right = !left.lessThan right := by
  cases left with
  | nan => exact absurd rfl leftNumber
  | finite leftValue =>
      cases right with
      | nan => exact absurd rfl rightNumber
      | finite rightValue =>
          simp only [atLeast, lessThan]
          grind
      | infinite negative => cases negative <;> rfl
  | infinite leftNegative =>
      cases right with
      | nan => exact absurd rfl rightNumber
      | finite rightValue => cases leftNegative <;> rfl
      | infinite rightNegative =>
          cases leftNegative <;> cases rightNegative <;> rfl

/-! ## Rounding -/

/-- The nearest integer; of two as near, the even one. -/
def roundHalfEven (value : ℚ) : ℤ :=
  let below := ⌊value⌋
  let rest := value - below
  if rest < 1 / 2 then below
  else if 1 / 2 < rest then below + 1
  else if below % 2 = 0 then below
  else below + 1

/-- The exponent of the last of the 53 binary digits a double keeps. -/
def lastDigitExponent (value : ℚ) : ℤ :=
  Max.max (-1074) (Int.log 2 |value| - 52)

/-- The nearest number with the digits of a double, of any magnitude. -/
def rounded (value : ℚ) : ℚ :=
  let scale : ℚ := 2 ^ lastDigitExponent value
  roundHalfEven (value / scale) * scale

/-- The nearest double; the numbers too large for one become infinite. -/
def roundToDouble (value : ℚ) : JsNumber :=
  if 2 ^ 1024 ≤ |rounded value| then infinite (decide (value < 0))
  else finite (rounded value)

/-- `left + right` -/
def add : JsNumber → JsNumber → JsNumber
  | finite left, finite right => roundToDouble (left + right)
  | infinite left, infinite right => if left = right then infinite left else nan
  | nan, _ => nan
  | _, nan => nan
  | infinite negative, finite _ => infinite negative
  | finite _, infinite negative => infinite negative

/-! ## Writing -/

def digitUnit (digit : Nat) : UInt16 := UInt16.ofNat (48 + digit)

def digitsText (value : Nat) : JsString :=
  if value = 0 then [digitUnit 0]
  else ((Nat.digits 10 value).reverse).map digitUnit

/-- The significant digits of a positive number and the position of the point
behind the first of them. -/
structure ShortestDigits where
  digits : Nat
  length : Nat
  point : ℤ

/-- A power of ten is written one digit shorter. -/
def normalDigits (digits length : Nat) (point : ℤ) : ShortestDigits :=
  if digits = 10 ^ length then
    { digits := 10 ^ (length - 1), length := length, point := point + 1 }
  else { digits := digits, length := length, point := point }

/-- The digits of the given length nearest to the value that read back as
it. -/
def digitsOfLength (value : ℚ) (point : ℤ) (length : Nat) :
    Option ShortestDigits :=
  let scale : ℚ := 10 ^ (point - length)
  let below := ⌊value / scale⌋₊
  let reads (digits : Nat) : Bool :=
    roundToDouble (digits * scale) == finite value
  let belowFirst : Bool := value - below * scale ≤ (below + 1) * scale - value
  let first := if belowFirst then below else below + 1
  let second := if belowFirst then below + 1 else below
  if reads first then some (normalDigits first length point)
  else if reads second then some (normalDigits second length point)
  else none

/-- Seventeen digits tell all doubles apart. -/
def shortestDigits (value : ℚ) : ShortestDigits :=
  let point := Int.log 10 value + 1
  ((List.range' 1 17).findSome? (digitsOfLength value point)).getD
    { digits := ⌊value / 10 ^ (point - 17)⌋₊, length := 17, point := point }

def pointUnit : UInt16 := 46

def exponentText (exponent : ℤ) : JsString :=
  js "e" ++ (if exponent < 0 then js "-" else js "+") ++
    digitsText exponent.natAbs

/-- `String(value)` of a positive number. -/
def positiveText (value : ℚ) : JsString :=
  let found := shortestDigits value
  let digits := digitsText found.digits
  let zeros (count : ℤ) := List.replicate count.toNat (digitUnit 0)
  if found.length ≤ found.point ∧ found.point ≤ 21 then
    digits ++ zeros (found.point - found.length)
  else if 0 < found.point ∧ found.point ≤ 21 then
    digits.take found.point.toNat ++
      pointUnit :: digits.drop found.point.toNat
  else if -6 < found.point ∧ found.point ≤ 0 then
    js "0." ++ zeros (-found.point) ++ digits
  else if found.length = 1 then digits ++ exponentText (found.point - 1)
  else
    digits.take 1 ++ pointUnit :: digits.drop 1 ++
      exponentText (found.point - 1)

end JsNumber

open JsNumber

/-- `String(value)` of a number. -/
def numberText : JsNumber → JsString
  | .nan => js "NaN"
  | .infinite negative => js (if negative then "-Infinity" else "Infinity")
  | .finite value =>
      if value = 0 then js "0"
      else if value < 0 then js "-" ++ positiveText (-value)
      else positiveText value

/-! ## Reading -/

namespace JsNumber

/-- The value of a digit or a letter, in whatever radix. -/
def digitOfUnit (unit : UInt16) : Option Nat :=
  let code := unit.toNat
  if 48 ≤ code ∧ code ≤ 57 then some (code - 48)
  else if 97 ≤ code ∧ code ≤ 122 then some (code - 87)
  else if 65 ≤ code ∧ code ≤ 90 then some (code - 55)
  else none

/-- The value of a digit of the radix. -/
def readDigit (radix : Nat) (unit : UInt16) : Option Nat :=
  (digitOfUnit unit).filter fun digit => digit < radix

def readDigits (radix : Nat) (text : JsString) : Option Nat :=
  (text.mapM (readDigit radix)).map (Nat.ofDigits radix ·.reverse)

/-- At least one digit. -/
def readNumeral (radix : Nat) (text : JsString) : Option Nat :=
  if text = [] then none else readDigits radix text

/-- Take a leading sign off. -/
def readSign : JsString → Bool × JsString
  | [] => (false, [])
  | unit :: rest =>
      if unit = 45 then (true, rest)
      else if unit = 43 then (false, rest)
      else (false, unit :: rest)

/-- The number behind an `e`. -/
def readExponent (text : JsString) : Option ℤ :=
  let signed := readSign text
  (readNumeral 10 signed.2).map fun magnitude =>
    if signed.1 then -(magnitude : ℤ) else magnitude

/-- The value of digits with a decimal point in front of the last `places`. -/
def readMantissa (text : JsString) : Option ℚ :=
  match text.splitOnP (· == pointUnit) with
  | [whole] => (readNumeral 10 whole).map fun digits => (digits : ℚ)
  | [whole, fraction] =>
      (readNumeral 10 (whole ++ fraction)).map fun digits =>
        (digits : ℚ) / 10 ^ fraction.length
  | _ => none

def isExponentUnit (unit : UInt16) : Bool := unit == 101 || unit == 69

def readDecimal (text : JsString) : Option JsNumber :=
  if text = js "Infinity" then some (infinite false)
  else
    match text.splitOnP isExponentUnit with
    | [mantissa] => (readMantissa mantissa).map roundToDouble
    | [mantissa, exponent] => do
        let value ← readMantissa mantissa
        let power ← readExponent exponent
        pure (roundToDouble (value * 10 ^ power))
    | _ => none

/-- `-value` -/
def negate : JsNumber → JsNumber
  | finite value => finite (-value)
  | infinite negative => infinite (!negative)
  | nan => nan

/-- `0x`, `0o` and `0b` in either case. -/
def radixOfPrefix (first second : UInt16) : Option Nat :=
  if first = 48 then
    if second = 120 ∨ second = 88 then some 16
    else if second = 111 ∨ second = 79 then some 8
    else if second = 98 ∨ second = 66 then some 2
    else none
  else none

def readLiteral (text : JsString) : Option JsNumber :=
  let signed := readSign text
  let decimal := (readDecimal signed.2).map fun number =>
    if signed.1 then negate number else number
  match text with
  | first :: second :: digits =>
      match radixOfPrefix first second with
      | some radix =>
          (readNumeral radix digits).map fun value => roundToDouble value
      | none => decimal
  | _ => decimal

end JsNumber

/-- `Number(text)` of a string. -/
def numberOfText (text : JsString) : JsNumber :=
  let trimmed := trim text
  if trimmed = [] then .finite 0 else (readLiteral trimmed).getD .nan

/-! ## How a written number begins -/

namespace JsNumber

theorem digitUnit_toNat {digit : Nat} (decimal : digit < 10) :
    (digitUnit digit).toNat = 48 + digit := by
  simp only [digitUnit, UInt16.toNat_ofNat']
  omega

/-- A text that begins with a unit before the small letters. -/
def BeginsBeforeLetters (text : JsString) : Prop :=
  ∃ unit rest, text = unit :: rest ∧ unit.toNat < 97

theorem BeginsBeforeLetters.append {text : JsString}
    (begins : BeginsBeforeLetters text) (suffix : JsString) :
    BeginsBeforeLetters (text ++ suffix) := by
  obtain ⟨unit, rest, same, small⟩ := begins
  exact ⟨unit, rest ++ suffix, by rw [same, List.cons_append], small⟩

theorem BeginsBeforeLetters.take {text : JsString}
    (begins : BeginsBeforeLetters text) {count : Nat} (some : 0 < count) :
    BeginsBeforeLetters (text.take count) := by
  obtain ⟨unit, rest, same, small⟩ := begins
  obtain ⟨fewer, rfl⟩ := Nat.exists_eq_add_of_lt some
  refine ⟨unit, rest.take fewer, ?_, small⟩
  rw [same, Nat.zero_add, List.take_succ_cons]

theorem digitsText_begins (value : Nat) :
    BeginsBeforeLetters (digitsText value) := by
  by_cases zero : value = 0
  · exact ⟨digitUnit 0, [], by rw [digitsText, if_pos zero], by decide⟩
  · cases digits : (Nat.digits 10 value).reverse with
    | nil =>
        have empty := List.reverse_eq_nil_iff.mp digits
        exact absurd (Nat.digits_eq_nil_iff_eq_zero.mp empty) zero
    | cons digit rest =>
        have member : digit ∈ Nat.digits 10 value := by
          apply List.mem_reverse.mp
          rw [digits]
          exact List.mem_cons_self
        have decimal : digit < 10 := Nat.digits_lt_base (by omega) member
        refine ⟨digitUnit digit, rest.map digitUnit, ?_, ?_⟩
        · rw [digitsText, if_neg zero, digits, List.map_cons]
        · rw [digitUnit_toNat decimal]
          omega

theorem positiveText_begins (value : ℚ) :
    BeginsBeforeLetters (positiveText value) := by
  have digits := digitsText_begins (shortestDigits value).digits
  simp only [positiveText]
  split
  · exact digits.append _
  · split
    · rename_i inside
      apply (digits.take _).append
      omega
    · split
      · exact ⟨48, _, rfl, by decide⟩
      · split
        · exact digits.append _
        · rw [List.append_assoc]
          exact (digits.take Nat.one_pos).append _

end JsNumber

theorem numberText_begins (number : JsNumber) :
    BeginsBeforeLetters (numberText number) := by
  cases number with
  | nan => exact ⟨78, js "aN", rfl, by decide⟩
  | infinite negative =>
      cases negative with
      | false => exact ⟨73, js "nfinity", rfl, by decide⟩
      | true => exact ⟨45, js "Infinity", rfl, by decide⟩
  | finite value =>
      simp only [numberText]
      split
      · exact ⟨48, [], rfl, by decide⟩
      · split
        · exact ⟨45, _, rfl, by decide⟩
        · exact positiveText_begins value

end VaultCore
