import Mathlib.Data.List.Basic
import Mathlib.Data.UInt
import Mathlib.Tactic.Common

/-!
# Strings of UTF-16 code units

A JavaScript string is any list of code units, so a surrogate may stand in it
alone.  `toCodePoints` reads surrogate pairs together and keeps every other
unit, and `ofCodePoints` is its left inverse.  A string written from Unicode
characters never holds a lone surrogate.
-/

namespace VaultCore

/-- A text is its code units. -/
abbrev JsString := List UInt16

instance : LawfulBEq JsString := inferInstanceAs (LawfulBEq (List UInt16))

/-- Whether the unit is the first half of a pair. -/
def isHighSurrogate (unit : UInt16) : Bool :=
  0xD800 ≤ unit.toNat && unit.toNat < 0xDC00

/-- Whether the unit is the second half of a pair. -/
def isLowSurrogate (unit : UInt16) : Bool :=
  0xDC00 ≤ unit.toNat && unit.toNat < 0xE000

def isSurrogate (unit : UInt16) : Bool :=
  0xD800 ≤ unit.toNat && unit.toNat < 0xE000

/-- A Unicode character, or a surrogate that is not part of a pair. -/
inductive CodePoint where
  | scalar (char : Char)
  | surrogate (unit : { unit : UInt16 // isSurrogate unit = true })
deriving DecidableEq

namespace Utf16

/-- The one or two units of a character. -/
def unitsOfChar (char : Char) : JsString :=
  if char.toNat < 0x10000 then
    [UInt16.ofNat char.toNat]
  else
    [UInt16.ofNat (0xD800 + (char.toNat - 0x10000) / 0x400),
      UInt16.ofNat (0xDC00 + (char.toNat - 0x10000) % 0x400)]

def ofChars (chars : List Char) : JsString :=
  chars.flatMap unitsOfChar

def unitsOfCodePoint : CodePoint → JsString
  | .scalar char => unitsOfChar char
  | .surrogate unit => [unit.val]

def ofCodePoints (points : List CodePoint) : JsString :=
  points.flatMap unitsOfCodePoint

def pairedChar (high low : UInt16) : Char :=
  Char.ofNat
    (0x10000 + (high.toNat - 0xD800) * 0x400 + (low.toNat - 0xDC00))

/-- The code point of a unit that is not in a pair. -/
def singlePoint (unit : UInt16) : CodePoint :=
  if surrogate : isSurrogate unit = true then
    .surrogate ⟨unit, surrogate⟩
  else
    .scalar (Char.ofNat unit.toNat)

/-- The code points of a text; a lone surrogate is one. -/
def toCodePoints : JsString → List CodePoint
  | [] => []
  | [unit] => [singlePoint unit]
  | high :: low :: rest =>
      if isHighSurrogate high && isLowSurrogate low then
        .scalar (pairedChar high low) :: toCodePoints rest
      else
        singlePoint high :: toCodePoints (low :: rest)

@[simp] theorem ofChars_nil : ofChars [] = [] := rfl

@[simp] theorem ofChars_cons (char : Char) (chars : List Char) :
    ofChars (char :: chars) = unitsOfChar char ++ ofChars chars := rfl

@[simp] theorem ofChars_append (left right : List Char) :
    ofChars (left ++ right) = ofChars left ++ ofChars right :=
  List.flatMap_append

theorem toNat_ofNat_of_valid {code : Nat} (valid : code.isValidChar) :
    (Char.ofNat code).toNat = code := by
  rw [Char.ofNat, dif_pos valid]
  rfl

private theorem unitsOfChar_singlePoint (unit : UInt16) :
    unitsOfCodePoint (singlePoint unit) = [unit] := by
  unfold singlePoint
  split
  · rfl
  · rename_i notSurrogate
    have bound : unit.toNat < 0x10000 := unit.toNat_lt
    have valid : unit.toNat.isValidChar := by
      simp only [isSurrogate, Bool.and_eq_true, decide_eq_true_eq,
        not_and] at notSurrogate
      unfold Nat.isValidChar
      omega
    simp [unitsOfCodePoint, unitsOfChar, toNat_ofNat_of_valid valid, bound]

private theorem unitsOfChar_pairedChar {high low : UInt16}
    (highSurrogate : isHighSurrogate high = true)
    (lowSurrogate : isLowSurrogate low = true) :
    unitsOfChar (pairedChar high low) = [high, low] := by
  simp only [isHighSurrogate, isLowSurrogate, Bool.and_eq_true,
    decide_eq_true_eq] at highSurrogate lowSurrogate
  have valid : (0x10000 + (high.toNat - 0xD800) * 0x400 +
      (low.toNat - 0xDC00)).isValidChar := by
    unfold Nat.isValidChar
    omega
  have code : (pairedChar high low).toNat =
      0x10000 + (high.toNat - 0xD800) * 0x400 + (low.toNat - 0xDC00) :=
    toNat_ofNat_of_valid valid
  have large : ¬ (pairedChar high low).toNat < 0x10000 := by omega
  have highUnit :
      0xD800 + ((pairedChar high low).toNat - 0x10000) / 0x400 =
        high.toNat := by omega
  have lowUnit :
      0xDC00 + ((pairedChar high low).toNat - 0x10000) % 0x400 =
        low.toNat := by omega
  rw [unitsOfChar, if_neg large, highUnit, lowUnit]
  simp

theorem ofCodePoints_toCodePoints (text : JsString) :
    ofCodePoints (toCodePoints text) = text := by
  induction text using toCodePoints.induct with
  | case1 => rfl
  | case2 unit =>
      simp [toCodePoints, ofCodePoints, unitsOfChar_singlePoint]
  | case3 high low rest paired ih =>
      simp only [Bool.and_eq_true] at paired
      have units := unitsOfChar_pairedChar paired.1 paired.2
      have unfolded : toCodePoints (high :: low :: rest) =
          .scalar (pairedChar high low) :: toCodePoints rest := by
        rw [toCodePoints, if_pos (by simp [paired])]
      rw [unfolded]
      change unitsOfChar (pairedChar high low) ++
        ofCodePoints (toCodePoints rest) = high :: low :: rest
      rw [units, ih]
      rfl
  | case4 high low rest unpaired ih =>
      rw [toCodePoints, if_neg unpaired]
      change unitsOfCodePoint (singlePoint high) ++
        ofCodePoints (toCodePoints (low :: rest)) = high :: low :: rest
      rw [unitsOfChar_singlePoint, ih]
      rfl

theorem toCodePoints_injective : Function.Injective toCodePoints := by
  intro left right equal
  have written := congrArg ofCodePoints equal
  simpa [ofCodePoints_toCodePoints] using written

theorem char_code_ranges (char : Char) :
    char.toNat < 0xD800 ∨ (0xE000 ≤ char.toNat ∧ char.toNat < 0x110000) := by
  have valid : char.toNat.isValidChar := char.valid
  unfold Nat.isValidChar at valid
  omega

private theorem toCodePoints_char_append (char : Char) (rest : JsString) :
    toCodePoints (unitsOfChar char ++ rest) =
      .scalar char :: toCodePoints rest := by
  have ranges := char_code_ranges char
  by_cases small : char.toNat < 0x10000
  · have unitCode : (UInt16.ofNat char.toNat).toNat = char.toNat := by
      simp only [UInt16.toNat_ofNat']
      omega
    have notSurrogate : isSurrogate (UInt16.ofNat char.toNat) = false := by
      simp only [isSurrogate, unitCode, Bool.and_eq_false_iff,
        decide_eq_false_iff_not]
      omega
    have notHigh : isHighSurrogate (UInt16.ofNat char.toNat) = false := by
      simp only [isHighSurrogate, unitCode, Bool.and_eq_false_iff,
        decide_eq_false_iff_not]
      omega
    have point : singlePoint (UInt16.ofNat char.toNat) = .scalar char := by
      simp only [singlePoint, notSurrogate, Bool.false_eq_true,
        ↓reduceDIte, unitCode]
      rw [Char.ofNat_toNat]
    rw [unitsOfChar, if_pos small]
    cases rest with
    | nil => simp [toCodePoints, point]
    | cons next tail =>
        change toCodePoints (UInt16.ofNat char.toNat :: next :: tail) = _
        rw [toCodePoints, if_neg (by simp [notHigh]), point]
  · have highCode : (UInt16.ofNat
        (0xD800 + (char.toNat - 0x10000) / 0x400)).toNat =
          0xD800 + (char.toNat - 0x10000) / 0x400 := by
      simp only [UInt16.toNat_ofNat']
      omega
    have lowCode : (UInt16.ofNat
        (0xDC00 + (char.toNat - 0x10000) % 0x400)).toNat =
          0xDC00 + (char.toNat - 0x10000) % 0x400 := by
      simp only [UInt16.toNat_ofNat']
      omega
    rw [unitsOfChar, if_neg small]
    change toCodePoints (_ :: _ :: rest) = _
    rw [toCodePoints, if_pos]
    · have code : 0x10000 +
          (0xD800 + (char.toNat - 0x10000) / 0x400 - 0xD800) * 0x400 +
            (0xDC00 + (char.toNat - 0x10000) % 0x400 - 0xDC00) =
          char.toNat := by omega
      rw [pairedChar, highCode, lowCode, code, Char.ofNat_toNat]
    · simp only [isHighSurrogate, isLowSurrogate, highCode, lowCode,
        Bool.and_eq_true, decide_eq_true_eq]
      omega

theorem toCodePoints_ofChars (chars : List Char) :
    toCodePoints (ofChars chars) = chars.map .scalar := by
  induction chars with
  | nil => rfl
  | cons char chars ih =>
      rw [ofChars_cons, toCodePoints_char_append, ih]
      rfl

theorem ofChars_injective : Function.Injective ofChars := by
  intro left right equal
  have points := congrArg toCodePoints equal
  rw [toCodePoints_ofChars, toCodePoints_ofChars] at points
  exact List.map_injective_iff.mpr
    (fun _ _ same => CodePoint.scalar.inj same) points

/-- Text without surrogates is written from characters. -/
theorem exists_chars_of_plain {text : JsString}
    (plain : ∀ unit ∈ text, isSurrogate unit = false) :
    ∃ chars, text = ofChars chars := by
  induction text with
  | nil => exact ⟨[], rfl⟩
  | cons unit text ih =>
      have first := plain unit List.mem_cons_self
      obtain ⟨chars, rfl⟩ := ih fun other member =>
        plain other (List.mem_cons_of_mem _ member)
      refine ⟨Char.ofNat unit.toNat :: chars, ?_⟩
      have single : singlePoint unit = .scalar (Char.ofNat unit.toNat) := by
        simp [singlePoint, first]
      have units := unitsOfChar_singlePoint unit
      rw [single] at units
      rw [ofChars_cons, ← List.singleton_append]
      exact congrArg (· ++ ofChars chars) units.symm

/-- Code points are read across a boundary that does not split a pair. -/
theorem toCodePoints_append {left right : JsString}
    (boundary : ∀ unit, right.head? = some unit →
      isLowSurrogate unit = false) :
    toCodePoints (left ++ right) =
      toCodePoints left ++ toCodePoints right := by
  induction left using toCodePoints.induct with
  | case1 => rfl
  | case2 unit =>
      cases right with
      | nil => rfl
      | cons next right =>
          have unpaired := boundary next rfl
          simp [toCodePoints, unpaired]
  | case3 high low rest paired ih =>
      simp only [List.cons_append, toCodePoints, if_pos paired, ih]
  | case4 high low rest unpaired ih =>
      rw [List.cons_append] at ih
      simp only [List.cons_append, toCodePoints, if_neg unpaired, ih]

end Utf16

/-- The JavaScript string of a Lean string. -/
def js (text : String) : JsString := Utf16.ofChars text.toList

example : Utf16.toCodePoints [0xD83D, 0xDD11, 0xDC00] =
    [.scalar '🔑', .surrogate ⟨0xDC00, rfl⟩] := by decide

end VaultCore
