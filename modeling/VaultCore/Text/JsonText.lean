import VaultCore.Text.Utf8

/-!
# JSON text of flat string records

`quote` is the well-formed string serialization: a lone surrogate is written
as an escape, so the text consists of Unicode characters.  `readPoint` reads
one written code point back, which makes every quoted string self-delimiting;
a flat object text therefore determines its entries and their order.
-/

namespace VaultCore

namespace JsonText

def hexDigit (value : Nat) : Char :=
  Char.ofNat (if value < 10 then 48 + value else 87 + value)

def unicodeEscape (code : Nat) : List Char :=
  ['\\', 'u', hexDigit (code / 0x1000 % 16), hexDigit (code / 0x100 % 16),
    hexDigit (code / 0x10 % 16), hexDigit (code % 16)]

/-- A character in a quoted text. -/
def escapeChar (char : Char) : List Char :=
  if char = '\x08' then ['\\', 'b']
  else if char = '\t' then ['\\', 't']
  else if char = '\n' then ['\\', 'n']
  else if char = '\x0C' then ['\\', 'f']
  else if char = '\r' then ['\\', 'r']
  else if char = '"' then ['\\', '"']
  else if char = '\\' then ['\\', '\\']
  else if char.toNat < 0x20 then unicodeEscape char.toNat
  else [char]

/-- A code point in a quoted text; a lone surrogate is escaped. -/
def escape : CodePoint → List Char
  | .surrogate unit => unicodeEscape unit.val.toNat
  | .scalar char => escapeChar char

/-- `JSON.stringify` of a text. -/
def quote (text : JsString) : List Char :=
  '"' :: (Utf16.toCodePoints text).flatMap escape ++ ['"']

/-- A member that is a text or null. -/
inductive Scalar where
  | null
  | string (text : JsString)
deriving DecidableEq

def scalarText : Scalar → List Char
  | .null => "null".toList
  | .string text => quote text

def entryText (entry : JsString × Scalar) : List Char :=
  quote entry.1 ++ ':' :: scalarText entry.2

def laterEntries (entries : List (JsString × Scalar)) : List Char :=
  entries.flatMap fun entry => ',' :: entryText entry

/-- `JSON.stringify` of an object of such members. -/
def object : List (JsString × Scalar) → List Char
  | [] => ['{', '}']
  | entry :: entries => '{' :: (entryText entry ++ laterEntries entries ++ ['}'])

def hexValue (digit : Char) : Nat :=
  if digit.toNat < 58 then digit.toNat - 48 else digit.toNat - 87

/-- The code point of an escaped unit. -/
def pointOfCode (code : Nat) : CodePoint :=
  Utf16.singlePoint (UInt16.ofNat code)

/-- Read one written code point.  A bare quotation mark ends the string. -/
def readPoint : List Char → Option (CodePoint × List Char)
  | '"' :: _ => none
  | '\\' :: 'b' :: rest => some (.scalar '\x08', rest)
  | '\\' :: 't' :: rest => some (.scalar '\t', rest)
  | '\\' :: 'n' :: rest => some (.scalar '\n', rest)
  | '\\' :: 'f' :: rest => some (.scalar '\x0C', rest)
  | '\\' :: 'r' :: rest => some (.scalar '\r', rest)
  | '\\' :: '"' :: rest => some (.scalar '"', rest)
  | '\\' :: '\\' :: rest => some (.scalar '\\', rest)
  | '\\' :: 'u' :: first :: second :: third :: fourth :: rest =>
      some (pointOfCode
        (((hexValue first * 16 + hexValue second) * 16 +
          hexValue third) * 16 + hexValue fourth), rest)
  | char :: rest => some (.scalar char, rest)
  | [] => none

private theorem hexValue_hexDigit (value : Nat) :
    hexValue (hexDigit (value % 16)) = value % 16 := by
  have every : ∀ digit : Fin 16,
      hexValue (hexDigit digit.val) = digit.val := by decide
  exact every ⟨value % 16, Nat.mod_lt _ (by omega)⟩

private theorem readPoint_unicodeEscape {code : Nat}
    (bound : code < 0x10000) (rest : List Char) :
    readPoint (unicodeEscape code ++ rest) =
      some (pointOfCode code, rest) := by
  have value : ((code / 0x1000 % 16 * 16 + code / 0x100 % 16) * 16 +
      code / 0x10 % 16) * 16 + code % 16 = code := by omega
  simp only [unicodeEscape, List.cons_append, List.nil_append, readPoint,
    hexValue_hexDigit, value]

private theorem pointOfCode_surrogate
    (unit : { unit : UInt16 // isSurrogate unit = true }) :
    pointOfCode unit.val.toNat = .surrogate unit := by
  have bound := unit.val.toNat_lt
  have same : UInt16.ofNat unit.val.toNat = unit.val := by simp
  rw [pointOfCode, same, Utf16.singlePoint, dif_pos unit.property]

private theorem pointOfCode_control {char : Char}
    (control : char.toNat < 0x20) :
    pointOfCode char.toNat = .scalar char := by
  have code : (UInt16.ofNat char.toNat).toNat = char.toNat := by
    simp only [UInt16.toNat_ofNat']
    omega
  have notSurrogate : ¬ isSurrogate (UInt16.ofNat char.toNat) = true := by
    simp only [isSurrogate, code, Bool.and_eq_true, decide_eq_true_eq]
    omega
  rw [pointOfCode, Utf16.singlePoint, dif_neg notSurrogate, code,
    Char.ofNat_toNat]

private theorem readPoint_plain {char : Char} (notQuote : char ≠ '"')
    (notEscape : char ≠ '\\') (rest : List Char) :
    readPoint (char :: rest) = some (.scalar char, rest) := by
  unfold readPoint
  split <;> simp_all

private theorem readPoint_escapeChar (char : Char) (rest : List Char) :
    readPoint (escapeChar char ++ rest) = some (.scalar char, rest) := by
  unfold escapeChar
  split_ifs with backspace tab lineFeed formFeed carriageReturn quotation
    reverseSolidus control
  · rw [backspace]
    rfl
  · rw [tab]
    rfl
  · rw [lineFeed]
    rfl
  · rw [formFeed]
    rfl
  · rw [carriageReturn]
    rfl
  · rw [quotation]
    rfl
  · rw [reverseSolidus]
    rfl
  · rw [readPoint_unicodeEscape (by omega), pointOfCode_control control]
  · exact readPoint_plain quotation reverseSolidus rest

theorem readPoint_escape_append (point : CodePoint) (rest : List Char) :
    readPoint (escape point ++ rest) = some (point, rest) := by
  cases point with
  | scalar char => exact readPoint_escapeChar char rest
  | surrogate unit =>
      have bound := unit.val.toNat_lt
      rw [escape, readPoint_unicodeEscape bound, pointOfCode_surrogate]

private theorem body_injective {left right : List CodePoint}
    {leftRest rightRest : List Char}
    (equal : left.flatMap escape ++ '"' :: leftRest =
      right.flatMap escape ++ '"' :: rightRest) :
    left = right ∧ leftRest = rightRest := by
  induction left generalizing right with
  | nil =>
      cases right with
      | nil => exact ⟨rfl, List.tail_eq_of_cons_eq equal⟩
      | cons point points =>
          have read := congrArg readPoint equal
          rw [List.flatMap_cons, List.append_assoc,
            readPoint_escape_append] at read
          simp [readPoint] at read
  | cons point points ih =>
      cases right with
      | nil =>
          have read := congrArg readPoint equal
          rw [List.flatMap_cons, List.append_assoc,
            readPoint_escape_append] at read
          simp [readPoint] at read
      | cons other others =>
          have read := congrArg readPoint equal
          rw [List.flatMap_cons, List.append_assoc,
            readPoint_escape_append, List.flatMap_cons, List.append_assoc,
            readPoint_escape_append] at read
          obtain ⟨samePoint, sameRest⟩ := Prod.mk.inj (Option.some.inj read)
          obtain ⟨samePoints, sameTail⟩ := ih sameRest
          exact ⟨by rw [samePoint, samePoints], sameTail⟩

/-- Quoted strings are self-delimiting. -/
theorem quote_append_injective {left right : JsString}
    {leftRest rightRest : List Char}
    (equal : quote left ++ leftRest = quote right ++ rightRest) :
    left = right ∧ leftRest = rightRest := by
  simp only [quote, List.cons_append, List.append_assoc,
    List.nil_append] at equal
  obtain ⟨points, rest⟩ := body_injective (List.tail_eq_of_cons_eq equal)
  exact ⟨Utf16.toCodePoints_injective points, rest⟩

private theorem scalarText_append_injective {left right : Scalar}
    {leftRest rightRest : List Char}
    (equal : scalarText left ++ leftRest = scalarText right ++ rightRest) :
    left = right ∧ leftRest = rightRest := by
  cases left with
  | null =>
      cases right with
      | null => exact ⟨rfl, List.append_cancel_left equal⟩
      | string text => simp [scalarText, quote] at equal
  | string text =>
      cases right with
      | null => simp [scalarText, quote] at equal
      | string other =>
          obtain ⟨same, rest⟩ := quote_append_injective equal
          exact ⟨by rw [same], rest⟩

private theorem entryText_append_injective {left right : JsString × Scalar}
    {leftRest rightRest : List Char}
    (equal : entryText left ++ leftRest = entryText right ++ rightRest) :
    left = right ∧ leftRest = rightRest := by
  simp only [entryText, List.append_assoc, List.cons_append] at equal
  obtain ⟨sameKey, afterKey⟩ := quote_append_injective equal
  obtain ⟨sameValue, rest⟩ :=
    scalarText_append_injective (List.tail_eq_of_cons_eq afterKey)
  exact ⟨Prod.ext sameKey sameValue, rest⟩

private theorem laterEntries_injective {left right : List (JsString × Scalar)}
    (equal : laterEntries left ++ ['}'] = laterEntries right ++ ['}']) :
    left = right := by
  induction left generalizing right with
  | nil =>
      cases right with
      | nil => rfl
      | cons entry entries => simp [laterEntries] at equal
  | cons entry entries ih =>
      cases right with
      | nil => simp [laterEntries] at equal
      | cons other others =>
          simp only [laterEntries, List.flatMap_cons, List.cons_append,
            List.append_assoc] at equal
          obtain ⟨sameEntry, afterEntry⟩ :=
            entryText_append_injective (List.tail_eq_of_cons_eq equal)
          rw [sameEntry, ih afterEntry]

theorem object_injective : Function.Injective object := by
  intro left right equal
  cases left with
  | nil =>
      cases right with
      | nil => rfl
      | cons entry entries => simp [object, entryText, quote] at equal
  | cons entry entries =>
      cases right with
      | nil => simp [object, entryText, quote] at equal
      | cons other others =>
          simp only [object, List.append_assoc] at equal
          obtain ⟨sameEntry, afterEntry⟩ :=
            entryText_append_injective (List.tail_eq_of_cons_eq equal)
          rw [sameEntry, laterEntries_injective afterEntry]

/-- Read code points up to a closing quotation mark that ends the text. -/
def readBody : Nat → List Char → Option (List CodePoint)
  | 0, _ => none
  | _ + 1, ['"'] => some []
  | fuel + 1, chars =>
      match readPoint chars with
      | some (point, rest) => (readBody fuel rest).map (point :: ·)
      | none => none

/-- Read a string text. -/
def readString : List Char → Option JsString
  | '"' :: rest => (readBody rest.length rest).map Utf16.ofCodePoints
  | _ => none

private theorem escape_ne_nil (point : CodePoint) : escape point ≠ [] := by
  intro empty
  have read := readPoint_escape_append point []
  rw [empty] at read
  cases read

private theorem readBody_points (points : List CodePoint) (fuel : Nat)
    (enough : points.length < fuel) :
    readBody fuel (points.flatMap escape ++ ['"']) = some points := by
  induction points generalizing fuel with
  | nil =>
      cases fuel with
      | zero => cases enough
      | succ fuel => rfl
  | cons point points ih =>
      cases fuel with
      | zero => cases enough
      | succ fuel =>
          have several : (point :: points).flatMap escape ++ ['"'] ≠ ['"'] := by
            intro single
            have lengths := congrArg List.length single
            have positive := List.length_pos_of_ne_nil (escape_ne_nil point)
            simp only [List.flatMap_cons, List.length_append,
              List.length_singleton] at lengths
            omega
          rw [readBody]
          · rw [List.flatMap_cons, List.append_assoc, readPoint_escape_append]
            simp only
            rw [ih fuel (by simpa using enough)]
            rfl
          · exact several

theorem readString_quote (text : JsString) :
    readString (quote text) = some text := by
  have enough : (Utf16.toCodePoints text).length <
      ((Utf16.toCodePoints text).flatMap escape ++ ['"']).length := by
    have longer : ∀ points : List CodePoint,
        points.length ≤ (points.flatMap escape).length := by
      intro points
      induction points with
      | nil => simp
      | cons point points ih =>
          have positive := List.length_pos_of_ne_nil (escape_ne_nil point)
          simp only [List.flatMap_cons, List.length_append, List.length_cons]
          omega
    have bound := longer (Utf16.toCodePoints text)
    simp only [List.length_append, List.length_singleton]
    omega
  simp only [quote, List.cons_append, readString]
  rw [readBody_points _ _ enough]
  exact congrArg some (Utf16.ofCodePoints_toCodePoints text)

example : quote [0x61, 0x22, 0x0A, 0xD83D] = "\"a\\\"\\n\\ud83d\"".toList := by
  decide

end JsonText

end VaultCore
