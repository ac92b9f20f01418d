import VaultCore.Text.PercentEncoding

/-!
# Form-urlencoded text

`URLSearchParams` writes names and values byte by byte and reads them back
leniently.  Written text comes back as it was, but for lone surrogates, and
what is appended to a query leaves its other parameters as they were.
-/

namespace VaultCore

namespace UrlEncoded

open PercentEncoding

/-- Bytes that stand for themselves: letters, digits and `*-._`. -/
def isKept (byte : UInt8) : Bool :=
  let code := byte.toNat
  (0x30 ≤ code && code ≤ 0x39) || (0x41 ≤ code && code ≤ 0x5A) ||
    (0x61 ≤ code && code ≤ 0x7A) || code == 0x2A || code == 0x2D ||
    code == 0x2E || code == 0x5F

/-- An upper-case hexadecimal digit. -/
def hexDigitUnit (value : Nat) : UInt16 :=
  UInt16.ofNat (if value < 10 then 0x30 + value else 0x37 + value)

def serializeByte (byte : UInt8) : JsString :=
  if byte = 0x20 then [0x2B]
  else if isKept byte then [byte.toUInt16]
  else [percentUnit, hexDigitUnit (byte.toNat / 16),
    hexDigitUnit (byte.toNat % 16)]

def serializeText (text : JsString) : JsString :=
  (Utf8.encode text).flatMap serializeByte

/-- `new URLSearchParams(entries).toString()` -/
def serialize (entries : List (JsString × JsString)) : JsString :=
  (js "&").intercalate (entries.map fun entry =>
    serializeText entry.1 ++ js "=" ++ serializeText entry.2)

/-- A sign that does not begin an escape stands for itself. -/
def percentDecode : Bytes → Bytes
  | [] => []
  | 0x25 :: high :: low :: rest =>
      match hexByte high.toUInt16 low.toUInt16 with
      | some byte => byte :: percentDecode rest
      | none => 0x25 :: percentDecode (high :: low :: rest)
  | byte :: rest => byte :: percentDecode rest

def plusToSpace (byte : UInt8) : UInt8 := if byte = 0x2B then 0x20 else byte

/-- The text that form-encoded bytes stand for. -/
def parseText (bytes : Bytes) : JsString :=
  Utf16.ofChars (Utf8.decodeFrom none (percentDecode
    (bytes.map plusToSpace)))

/-- The name before the first equals sign and the value after it. -/
def parseEntry (piece : Bytes) : JsString × JsString :=
  (parseText (piece.takeWhile (· != 0x3D)),
    parseText ((piece.dropWhile (· != 0x3D)).drop 1))

/-- The entries of `new URLSearchParams(query)`, for a query without its
question mark. -/
def parse (query : JsString) : List (JsString × JsString) :=
  (((Utf8.encode query).splitOnP (· == 0x26)).filter fun piece =>
    !piece.isEmpty).map parseEntry

/-! ## Written text -/

/-- `text.toWellFormed()`: a lone surrogate is replaced. -/
def charOfCodePoint : CodePoint → Char
  | .scalar char => char
  | .surrogate _ => Utf8.replacement

/-- `text.toWellFormed()` -/
def toWellFormed (text : JsString) : JsString :=
  Utf16.ofChars ((Utf16.toCodePoints text).map charOfCodePoint)

theorem toWellFormed_ofChars (chars : List Char) :
    toWellFormed (Utf16.ofChars chars) = Utf16.ofChars chars := by
  rw [toWellFormed, Utf16.toCodePoints_ofChars, List.map_map]
  exact congrArg Utf16.ofChars (List.map_id chars)

theorem length_toWellFormed (text : JsString) :
    (toWellFormed text).length = text.length := by
  conv_rhs => rw [← Utf16.ofCodePoints_toCodePoints text]
  unfold toWellFormed
  induction Utf16.toCodePoints text with
  | nil => rfl
  | cons point points ih =>
      have same : (Utf16.unitsOfChar (charOfCodePoint point)).length =
          (Utf16.unitsOfCodePoint point).length := by
        cases point <;> rfl
      rw [List.map_cons, Utf16.ofChars_cons, List.length_append, ih, same,
        Utf16.ofCodePoints, Utf16.ofCodePoints, List.flatMap_cons,
        List.length_append]

theorem decodeFrom_encode (text : JsString) :
    Utf16.ofChars (Utf8.decodeFrom none (Utf8.encode text)) =
      toWellFormed text := by
  have bytes : Utf8.encode text =
      ((Utf16.toCodePoints text).map charOfCodePoint).flatMap
        String.utf8EncodeChar := by
    rw [Utf8.encode, List.flatMap_map]
    congr 1
    funext point
    cases point <;> rfl
  rw [bytes, Utf8.decodeFrom_encodedChars, toWellFormed]

theorem encode_ascii {text : JsString}
    (ascii : ∀ unit ∈ text, unit.toNat < 0x80) :
    Utf8.encode text = text.map UInt16.toUInt8 := by
  conv_lhs => rw [← Utf8.ofChars_of_ascii ascii]
  rw [Utf8.encode_ofChars, List.flatMap_map]
  induction text with
  | nil => rfl
  | cons unit rest ih =>
      have small : unit.toNat < 0x80 := ascii unit List.mem_cons_self
      have valid : unit.toNat.isValidChar := by
        unfold Nat.isValidChar
        omega
      have code : (Char.ofNat unit.toNat).val.toNat = unit.toNat :=
        Utf16.toNat_ofNat_of_valid valid
      have single : String.utf8EncodeChar (Char.ofNat unit.toNat) =
          [unit.toUInt8] := by
        unfold String.utf8EncodeChar
        simp only [code]
        rw [if_pos (by omega)]
        rfl
      rw [List.flatMap_cons, single, List.map_cons,
        ih fun other member => ascii other (List.mem_cons_of_mem _ member)]
      rfl

private theorem hexDigit_facts : ∀ value < 16,
    hexDigitValue (hexDigitUnit value) = some value ∧
      (hexDigitUnit value).toUInt8.toUInt16 = hexDigitUnit value ∧
      plusToSpace (hexDigitUnit value).toUInt8 =
        (hexDigitUnit value).toUInt8 := by
  decide

theorem percentDecode_cons {byte : UInt8} (plain : byte ≠ 0x25)
    (rest : Bytes) :
    percentDecode (byte :: rest) = byte :: percentDecode rest := by
  rw [percentDecode.eq_def]
  split
  · rename_i empty
    cases empty
  · rename_i high low tail written
    exact absurd (List.cons.inj written).1 plain
  · rename_i other tail separate written
    cases written
    rfl

/-- One written byte reads back as itself. -/
theorem percentDecode_serializeByte (byte : UInt8) (rest : Bytes) :
    percentDecode (((serializeByte byte).map UInt16.toUInt8).map plusToSpace ++
      rest) = byte :: percentDecode rest := by
  unfold serializeByte
  split_ifs with space kept
  · rw [space]
    exact percentDecode_cons (by decide) rest
  · have back : byte.toUInt16.toUInt8 = byte := by simp
    have notPlus : byte ≠ 0x2B := by
      rintro rfl
      cases kept
    have notPercent : byte ≠ 0x25 := by
      rintro rfl
      cases kept
    simp only [List.map_cons, List.map_nil, back, plusToSpace, if_neg notPlus,
      List.cons_append, List.nil_append]
    exact percentDecode_cons notPercent rest
  · have bound := byte.toNat_lt
    obtain ⟨high, highBack, highPlain⟩ :=
      hexDigit_facts (byte.toNat / 16) (by omega)
    obtain ⟨low, lowBack, lowPlain⟩ :=
      hexDigit_facts (byte.toNat % 16) (by omega)
    have whole : byte.toNat / 16 * 16 + byte.toNat % 16 = byte.toNat := by
      omega
    have read : hexByte (hexDigitUnit (byte.toNat / 16))
        (hexDigitUnit (byte.toNat % 16)) = some byte := by
      simp [hexByte, high, low, whole]
    have sign : plusToSpace percentUnit.toUInt8 = 0x25 := by decide
    simp only [List.map_cons, List.map_nil, highPlain, lowPlain, sign,
      List.cons_append, List.nil_append, percentDecode, highBack, lowBack,
      read]

theorem percentDecode_serialized (bytes : Bytes) :
    percentDecode (((bytes.flatMap serializeByte).map UInt16.toUInt8).map
      plusToSpace) = bytes := by
  induction bytes with
  | nil => rfl
  | cons byte bytes ih =>
      rw [List.flatMap_cons, List.map_append, List.map_append,
        percentDecode_serializeByte, ih]

/-- The units a text is written with. -/
def IsFormUnit (unit : UInt16) : Prop :=
  unit.toNat < 0x80 ∧ unit ≠ 0x26 ∧ unit ≠ 0x3D ∧ unit ≠ 0x23

instance (unit : UInt16) : Decidable (IsFormUnit unit) :=
  inferInstanceAs (Decidable (_ ∧ _))

private theorem hexDigit_isFormUnit : ∀ value < 16,
    IsFormUnit (hexDigitUnit value) := by
  decide

private theorem isFormUnit_of_kept {byte : UInt8} (kept : isKept byte = true) :
    IsFormUnit byte.toUInt16 := by
  have code : byte.toUInt16.toNat = byte.toNat := by simp
  simp only [isKept, Bool.or_eq_true, Bool.and_eq_true, decide_eq_true_eq,
    beq_iff_eq] at kept
  refine ⟨by omega, ?_, ?_, ?_⟩
  · intro same
    rw [same] at code
    have ampersand : (0x26 : UInt16).toNat = 0x26 := rfl
    omega
  · intro same
    rw [same] at code
    have equals : (0x3D : UInt16).toNat = 0x3D := rfl
    omega
  · intro same
    rw [same] at code
    have hash : (0x23 : UInt16).toNat = 0x23 := rfl
    omega

theorem isFormUnit_of_mem {text : JsString} {unit : UInt16}
    (member : unit ∈ serializeText text) : IsFormUnit unit := by
  obtain ⟨byte, -, written⟩ := List.mem_flatMap.mp member
  have bound := byte.toNat_lt
  unfold serializeByte at written
  split_ifs at written with space kept
  · rw [List.mem_singleton.mp written]
    decide
  · rw [List.mem_singleton.mp written]
    exact isFormUnit_of_kept kept
  · rcases List.mem_cons.mp written with rfl | digits
    · decide
    · rcases List.mem_cons.mp digits with rfl | last
      · exact hexDigit_isFormUnit _ (by omega)
      · rw [List.mem_singleton.mp last]
        exact hexDigit_isFormUnit _ (by omega)

theorem parseText_serializeText (text : JsString) :
    parseText ((serializeText text).map UInt16.toUInt8) =
      toWellFormed text := by
  rw [parseText, serializeText, percentDecode_serialized, decodeFrom_encode]

/-! ## Entries -/

/-- A query and what is appended after an ampersand are read apart. -/
theorem parse_append (query : JsString) {tail : JsString}
    (ascii : ∀ unit ∈ tail, unit.toNat < 0x80) :
    parse (query ++ 0x26 :: tail) = parse query ++ parse tail := by
  have split : Utf8.encode (query ++ 0x26 :: tail) =
      Utf8.encode query ++ 0x26 :: Utf8.encode tail := by
    rw [Utf8.encode_append, encode_ascii ascii]
    · congr 1
      apply encode_ascii
      intro unit member
      rcases List.mem_cons.mp member with rfl | later
      · decide
      · exact ascii unit later
    · rintro unit ⟨⟩
      decide
  rw [parse, split, List.splitOnP_append_cons _ _ (by decide),
    List.filter_append, List.map_append]
  rfl

private theorem serialize_single (name value : JsString) :
    serialize [(name, value)] =
      serializeText name ++ 0x3D :: serializeText value := by
  rw [serialize, List.map_singleton, List.intercalate_singleton,
    List.append_assoc]
  rfl

theorem serialize_single_units {name value : JsString} {unit : UInt16}
    (member : unit ∈ serialize [(name, value)]) :
    unit.toNat < 0x80 ∧ unit ≠ 0x26 ∧ unit ≠ 0x23 := by
  rw [serialize_single] at member
  rcases List.mem_append.mp member with first | rest
  · obtain ⟨small, ampersand, -, hash⟩ := isFormUnit_of_mem first
    exact ⟨small, ampersand, hash⟩
  · rcases List.mem_cons.mp rest with rfl | second
    · decide
    · obtain ⟨small, ampersand, -, hash⟩ := isFormUnit_of_mem second
      exact ⟨small, ampersand, hash⟩

private theorem toUInt8_ne {unit : UInt16} {byte : UInt8}
    (small : unit.toNat < 0x80) (different : unit ≠ byte.toUInt16) :
    unit.toUInt8 ≠ byte := by
  rintro rfl
  apply different
  apply UInt16.toNat_inj.mp
  simp only [UInt8.toNat_toUInt16, UInt16.toNat_toUInt8]
  omega

private theorem parseEntry_serialized (name value : JsString) :
    parseEntry ((serializeText name ++ 0x3D :: serializeText value).map
      UInt16.toUInt8) = (toWellFormed name, toWellFormed value) := by
  have plain : ∀ byte ∈ (serializeText name).map UInt16.toUInt8,
      (byte != 0x3D) = true := by
    intro byte member
    obtain ⟨unit, inside, rfl⟩ := List.mem_map.mp member
    obtain ⟨small, -, equals, -⟩ := isFormUnit_of_mem inside
    exact bne_iff_ne.mpr (toUInt8_ne small equals)
  rw [parseEntry, List.map_append, List.map_cons,
    List.takeWhile_append_of_pos plain, List.dropWhile_append_of_pos plain,
    List.takeWhile_cons_of_neg (by simp),
    List.dropWhile_cons_of_neg (by simp), List.append_nil,
    List.drop_one, List.tail_cons, parseText_serializeText,
    parseText_serializeText]

/-- One entry that is written reads back, but for lone surrogates. -/
theorem parse_serialize_single (name value : JsString) :
    parse (serialize [(name, value)]) =
      [(toWellFormed name, toWellFormed value)] := by
  have ascii : ∀ unit ∈ serialize [(name, value)], unit.toNat < 0x80 :=
    fun unit member => (serialize_single_units member).1
  have single : ∀ byte ∈ (serialize [(name, value)]).map UInt16.toUInt8,
      (byte == 0x26) = false := by
    intro byte member
    obtain ⟨unit, inside, rfl⟩ := List.mem_map.mp member
    obtain ⟨small, ampersand, -⟩ := serialize_single_units inside
    exact beq_eq_false_iff_ne.mpr (toUInt8_ne small ampersand)
  rw [parse, encode_ascii ascii, List.splitOnP_eq_singleton single,
    serialize_single, List.filter_singleton]
  have filled : (!((serializeText name ++ 0x3D :: serializeText value).map
      UInt16.toUInt8).isEmpty) = true := by simp
  rw [filled, ← parseEntry_serialized name value]
  rfl

end UrlEncoded

end VaultCore
