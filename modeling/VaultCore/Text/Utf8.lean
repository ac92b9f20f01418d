import VaultCore.Text.Utf16

/-!
# UTF-8 text encoding and decoding

The encoder replaces every lone surrogate by U+FFFD.  The decoder is the
state machine of a non-fatal text decoder: it consumes one byte at a time,
replaces every ill-formed sequence by U+FFFD, gives a byte that interrupts a
sequence a second reading as a lead byte, and drops a leading byte order
mark.  On text written from Unicode characters that does not begin with a
byte order mark, decoding undoes encoding.
-/

namespace VaultCore

/-- The content of a byte array. -/
abbrev Bytes := List UInt8

namespace Utf8

/-- What stands for bytes that are no character. -/
def replacement : Char := '\uFFFD'

/-- The mark that decoding drops. -/
def byteOrderMark : Char := '\uFEFF'

/-- The bytes of a code point; a lone surrogate is replaced. -/
def bytesOfCodePoint : CodePoint → Bytes
  | .scalar char => String.utf8EncodeChar char
  | .surrogate _ => String.utf8EncodeChar replacement

/-- `new TextEncoder().encode(text)` -/
def encode (text : JsString) : Bytes :=
  (Utf16.toCodePoints text).flatMap bytesOfCodePoint

/-- A sequence that still needs `needed` continuation bytes, the next one
between `lower` and `upper`. -/
structure Pending where
  codePoint : Nat
  needed : Nat
  lower : Nat
  upper : Nat

/-- A character, or a sequence that goes on. -/
inductive Reading where
  | char (char : Char)
  | pending (pending : Pending)

/-- Read the first byte of a sequence. -/
def readLead (byte : UInt8) : Reading :=
  let code := byte.toNat
  if code < 0x80 then
    .char (Char.ofNat code)
  else if 0xC2 ≤ code ∧ code ≤ 0xDF then
    .pending
      { codePoint := code - 0xC0, needed := 1, lower := 0x80, upper := 0xBF }
  else if 0xE0 ≤ code ∧ code ≤ 0xEF then
    .pending
      { codePoint := code - 0xE0
        needed := 2
        lower := if code = 0xE0 then 0xA0 else 0x80
        upper := if code = 0xED then 0x9F else 0xBF }
  else if 0xF0 ≤ code ∧ code ≤ 0xF4 then
    .pending
      { codePoint := code - 0xF0
        needed := 3
        lower := if code = 0xF0 then 0x90 else 0x80
        upper := if code = 0xF4 then 0x8F else 0xBF }
  else
    .char replacement

/-- Read a later byte of a sequence. -/
def readContinuation (pending : Pending) (byte : UInt8) : Option Reading :=
  let code := byte.toNat
  if pending.lower ≤ code ∧ code ≤ pending.upper then
    let codePoint := pending.codePoint * 0x40 + (code - 0x80)
    if pending.needed = 1 then
      some (.char (Char.ofNat codePoint))
    else
      some (.pending
        { codePoint := codePoint
          needed := pending.needed - 1
          lower := 0x80
          upper := 0xBF })
  else
    none

/-- The characters of a byte stream.  A byte that cannot continue the pending
sequence ends it with a replacement character and is read again as a lead. -/
def decodeFrom : Option Pending → Bytes → List Char
  | none, [] => []
  | some _, [] => [replacement]
  | none, byte :: rest =>
      match readLead byte with
      | .char char => char :: decodeFrom none rest
      | .pending pending => decodeFrom (some pending) rest
  | some pending, byte :: rest =>
      match readContinuation pending byte with
      | some (.char char) => char :: decodeFrom none rest
      | some (.pending later) => decodeFrom (some later) rest
      | none =>
          replacement ::
            match readLead byte with
            | .char char => char :: decodeFrom none rest
            | .pending later => decodeFrom (some later) rest

/-- Drop a byte order mark at the head. -/
def dropByteOrderMark : List Char → List Char
  | [] => []
  | char :: rest => if char = byteOrderMark then rest else char :: rest

/-- `new TextDecoder().decode(bytes)` -/
def decode (bytes : Bytes) : JsString :=
  Utf16.ofChars (dropByteOrderMark (decodeFrom none bytes))

theorem encode_ofChars (chars : List Char) :
    encode (Utf16.ofChars chars) = chars.flatMap String.utf8EncodeChar := by
  rw [encode, Utf16.toCodePoints_ofChars, List.flatMap_map]
  rfl

theorem encode_append {left right : JsString}
    (boundary : ∀ unit, right.head? = some unit →
      isLowSurrogate unit = false) :
    encode (left ++ right) = encode left ++ encode right := by
  rw [encode, Utf16.toCodePoints_append boundary, List.flatMap_append]
  rfl

private theorem decodeFrom_lead {byte : UInt8} {rest : Bytes}
    {pending : Pending} (lead : readLead byte = .pending pending) :
    decodeFrom none (byte :: rest) = decodeFrom (some pending) rest := by
  simp [decodeFrom, lead]

private theorem decodeFrom_more {pending later : Pending} {byte : UInt8}
    {rest : Bytes}
    (more : readContinuation pending byte = some (.pending later)) :
    decodeFrom (some pending) (byte :: rest) =
      decodeFrom (some later) rest := by
  simp [decodeFrom, more]

private theorem decodeFrom_last {pending : Pending} {byte : UInt8}
    {rest : Bytes} {char : Char}
    (last : readContinuation pending byte = some (.char char)) :
    decodeFrom (some pending) (byte :: rest) =
      char :: decodeFrom none rest := by
  simp [decodeFrom, last]

private theorem decodeFrom_one (char : Char) (small : char.toNat < 0x80)
    (rest : Bytes) :
    decodeFrom none (UInt8.ofNat char.toNat :: rest) =
      char :: decodeFrom none rest := by
  have code : (UInt8.ofNat char.toNat).toNat = char.toNat := by
    simp only [UInt8.toNat_ofNat']
    omega
  have lead : readLead (UInt8.ofNat char.toNat) = .char char := by
    simp only [readLead, code, small, ↓reduceIte]
    rw [Char.ofNat_toNat]
  simp [decodeFrom, lead]

private theorem continuation_code (value : Nat) :
    (UInt8.ofNat (value % 0x40 + 0x80)).toNat = value % 0x40 + 0x80 := by
  simp only [UInt8.toNat_ofNat']
  omega

private theorem readContinuation_more {pending : Pending} {value : Nat}
    (within : pending.lower ≤ value % 0x40 + 0x80 ∧
      value % 0x40 + 0x80 ≤ pending.upper)
    (several : pending.needed ≠ 1) :
    readContinuation pending (UInt8.ofNat (value % 0x40 + 0x80)) =
      some (.pending
        { codePoint := pending.codePoint * 0x40 + value % 0x40
          needed := pending.needed - 1
          lower := 0x80
          upper := 0xBF }) := by
  simp only [readContinuation, continuation_code, within, several, and_self,
    ↓reduceIte, Nat.add_sub_cancel]

private theorem readContinuation_last {pending : Pending} {value : Nat}
    {char : Char}
    (within : pending.lower ≤ value % 0x40 + 0x80 ∧
      value % 0x40 + 0x80 ≤ pending.upper)
    (one : pending.needed = 1)
    (whole : pending.codePoint * 0x40 + value % 0x40 = char.toNat) :
    readContinuation pending (UInt8.ofNat (value % 0x40 + 0x80)) =
      some (.char char) := by
  simp only [readContinuation, continuation_code, within, one, and_self,
    ↓reduceIte, Nat.add_sub_cancel, whole]
  rw [Char.ofNat_toNat]

private theorem decodeFrom_two (char : Char) (large : 0x80 ≤ char.toNat)
    (small : char.toNat < 0x800) (rest : Bytes) :
    decodeFrom none
        (UInt8.ofNat (char.toNat / 64 % 0x20 + 0xC0) ::
          UInt8.ofNat (char.toNat % 0x40 + 0x80) :: rest) =
      char :: decodeFrom none rest := by
  have code : (UInt8.ofNat (char.toNat / 64 % 0x20 + 0xC0)).toNat =
      char.toNat / 64 % 0x20 + 0xC0 := by
    simp only [UInt8.toNat_ofNat']
    omega
  have lead : readLead (UInt8.ofNat (char.toNat / 64 % 0x20 + 0xC0)) =
      .pending
        { codePoint := char.toNat / 64, needed := 1
          lower := 0x80, upper := 0xBF } := by
    have notAscii : ¬ char.toNat / 64 % 0x20 + 0xC0 < 0x80 := by omega
    have inRange : 0xC2 ≤ char.toNat / 64 % 0x20 + 0xC0 ∧
        char.toNat / 64 % 0x20 + 0xC0 ≤ 0xDF := by omega
    simp only [readLead, code, notAscii, ↓reduceIte]
    have top : char.toNat / 64 % 0x20 + 0xC0 - 0xC0 =
        char.toNat / 64 := by omega
    rw [if_pos inRange, top]
  rw [decodeFrom_lead lead]
  apply decodeFrom_last
  apply readContinuation_last
  · simp only
    omega
  · rfl
  · simp only
    omega

private theorem decodeFrom_three (char : Char) (large : 0x800 ≤ char.toNat)
    (small : char.toNat < 0x10000) (rest : Bytes) :
    decodeFrom none
        (UInt8.ofNat (char.toNat / 4096 % 0x10 + 0xE0) ::
          UInt8.ofNat (char.toNat / 64 % 0x40 + 0x80) ::
            UInt8.ofNat (char.toNat % 0x40 + 0x80) :: rest) =
      char :: decodeFrom none rest := by
  have ranges := Utf16.char_code_ranges char
  have code : (UInt8.ofNat (char.toNat / 4096 % 0x10 + 0xE0)).toNat =
      char.toNat / 4096 % 0x10 + 0xE0 := by
    simp only [UInt8.toNat_ofNat']
    omega
  let lead := char.toNat / 4096 % 0x10 + 0xE0
  have leadRead : readLead (UInt8.ofNat (char.toNat / 4096 % 0x10 + 0xE0)) =
      .pending
        { codePoint := char.toNat / 4096
          needed := 2
          lower := if lead = 0xE0 then 0xA0 else 0x80
          upper := if lead = 0xED then 0x9F else 0xBF } := by
    have notAscii : ¬ char.toNat / 4096 % 0x10 + 0xE0 < 0x80 := by omega
    have notTwo : ¬ (0xC2 ≤ char.toNat / 4096 % 0x10 + 0xE0 ∧
        char.toNat / 4096 % 0x10 + 0xE0 ≤ 0xDF) := by omega
    have inRange : 0xE0 ≤ char.toNat / 4096 % 0x10 + 0xE0 ∧
        char.toNat / 4096 % 0x10 + 0xE0 ≤ 0xEF := by omega
    simp only [readLead, code, notAscii, notTwo, ↓reduceIte]
    have top : char.toNat / 4096 % 0x10 + 0xE0 - 0xE0 =
        char.toNat / 4096 := by omega
    rw [if_pos inRange, top]
  rw [decodeFrom_lead leadRead]
  rw [decodeFrom_more (readContinuation_more ?within (by simp))]
  case within =>
    constructor
    · simp only
      split <;> omega
    · simp only
      split <;> omega
  apply decodeFrom_last
  apply readContinuation_last
  · simp only
    omega
  · rfl
  · simp only
    omega

private theorem decodeFrom_four (char : Char) (large : 0x10000 ≤ char.toNat)
    (rest : Bytes) :
    decodeFrom none
        (UInt8.ofNat (char.toNat / 262144 % 0x08 + 0xF0) ::
          UInt8.ofNat (char.toNat / 4096 % 0x40 + 0x80) ::
            UInt8.ofNat (char.toNat / 64 % 0x40 + 0x80) ::
              UInt8.ofNat (char.toNat % 0x40 + 0x80) :: rest) =
      char :: decodeFrom none rest := by
  have ranges := Utf16.char_code_ranges char
  have code : (UInt8.ofNat (char.toNat / 262144 % 0x08 + 0xF0)).toNat =
      char.toNat / 262144 % 0x08 + 0xF0 := by
    simp only [UInt8.toNat_ofNat']
    omega
  let lead := char.toNat / 262144 % 0x08 + 0xF0
  have leadRead : readLead (UInt8.ofNat (char.toNat / 262144 % 0x08 + 0xF0)) =
      .pending
        { codePoint := char.toNat / 262144
          needed := 3
          lower := if lead = 0xF0 then 0x90 else 0x80
          upper := if lead = 0xF4 then 0x8F else 0xBF } := by
    have notAscii : ¬ char.toNat / 262144 % 0x08 + 0xF0 < 0x80 := by omega
    have notTwo : ¬ (0xC2 ≤ char.toNat / 262144 % 0x08 + 0xF0 ∧
        char.toNat / 262144 % 0x08 + 0xF0 ≤ 0xDF) := by omega
    have notThree : ¬ (0xE0 ≤ char.toNat / 262144 % 0x08 + 0xF0 ∧
        char.toNat / 262144 % 0x08 + 0xF0 ≤ 0xEF) := by omega
    have inRange : 0xF0 ≤ char.toNat / 262144 % 0x08 + 0xF0 ∧
        char.toNat / 262144 % 0x08 + 0xF0 ≤ 0xF4 := by omega
    simp only [readLead, code, notAscii, notTwo, notThree, ↓reduceIte]
    have top : char.toNat / 262144 % 0x08 + 0xF0 - 0xF0 =
        char.toNat / 262144 := by omega
    rw [if_pos inRange, top]
  rw [decodeFrom_lead leadRead]
  rw [decodeFrom_more (readContinuation_more ?second (by simp))]
  case second =>
    constructor
    · simp only
      split <;> omega
    · simp only
      split <;> omega
  rw [decodeFrom_more (readContinuation_more ?third (by simp))]
  case third =>
    simp only
    omega
  apply decodeFrom_last
  apply readContinuation_last
  · simp only
    omega
  · rfl
  · simp only
    omega

theorem decodeFrom_char_append (char : Char) (rest : Bytes) :
    decodeFrom none (String.utf8EncodeChar char ++ rest) =
      char :: decodeFrom none rest := by
  have value : char.val.toNat = char.toNat := rfl
  unfold String.utf8EncodeChar
  simp only [value]
  split
  · exact decodeFrom_one char (by omega) rest
  · split
    · exact decodeFrom_two char (by omega) (by omega) rest
    · split
      · exact decodeFrom_three char (by omega) (by omega) rest
      · exact decodeFrom_four char (by omega) rest

theorem decodeFrom_encodedChars (chars : List Char) :
    decodeFrom none (chars.flatMap String.utf8EncodeChar) = chars := by
  induction chars with
  | nil => rfl
  | cons char chars ih =>
      rw [List.flatMap_cons, decodeFrom_char_append, ih]

theorem encode_ofChars_injective :
    Function.Injective fun chars => encode (Utf16.ofChars chars) := by
  intro left right equal
  have decoded := congrArg (decodeFrom none) equal
  simpa only [encode_ofChars, decodeFrom_encodedChars] using decoded

theorem decode_encode_ofChars {chars : List Char}
    (unmarked : chars.head? ≠ some byteOrderMark) :
    decode (encode (Utf16.ofChars chars)) = Utf16.ofChars chars := by
  rw [decode, encode_ofChars, decodeFrom_encodedChars]
  cases chars with
  | nil => rfl
  | cons char chars =>
      have different : char ≠ byteOrderMark := by
        intro same
        exact unmarked (by simp [same])
      rw [dropByteOrderMark, if_neg different]

/-- The decoder takes a mark at the start for a signature and drops it. -/
theorem decode_encode_ofChars_iff {chars : List Char} :
    decode (encode (Utf16.ofChars chars)) = Utf16.ofChars chars ↔
      chars.head? ≠ some byteOrderMark := by
  refine ⟨?_, decode_encode_ofChars⟩
  intro kept marked
  cases chars with
  | nil => cases marked
  | cons char chars =>
      rw [decode, encode_ofChars, decodeFrom_encodedChars, dropByteOrderMark,
        if_pos (Option.some.inj marked)] at kept
      exact List.cons_ne_self _ _ (Utf16.ofChars_injective kept).symm

theorem ofChars_of_ascii {text : JsString}
    (ascii : ∀ unit ∈ text, unit.toNat < 0x80) :
    Utf16.ofChars (text.map fun unit => Char.ofNat unit.toNat) = text := by
  induction text with
  | nil => rfl
  | cons unit rest ih =>
      have small : unit.toNat < 0x80 := ascii unit List.mem_cons_self
      have valid : unit.toNat.isValidChar := by
        unfold Nat.isValidChar
        omega
      have code := Utf16.toNat_ofNat_of_valid valid
      have bmp : (Char.ofNat unit.toNat).toNat < 0x10000 := by omega
      rw [List.map_cons, Utf16.ofChars_cons, Utf16.unitsOfChar, if_pos bmp,
        code, ih fun other member => ascii other (List.mem_cons_of_mem _ member)]
      simp

theorem decode_encode_ascii {text : JsString}
    (ascii : ∀ unit ∈ text, unit.toNat < 0x80) :
    decode (encode text) = text := by
  have written := ofChars_of_ascii ascii
  rw [← written]
  apply decode_encode_ofChars
  cases text with
  | nil => simp
  | cons unit rest =>
      have small : unit.toNat < 0x80 := ascii unit List.mem_cons_self
      have valid : unit.toNat.isValidChar := by
        unfold Nat.isValidChar
        omega
      have code := Utf16.toNat_ofNat_of_valid valid
      intro marked
      simp only [List.map_cons, List.head?_cons, Option.some.injEq] at marked
      rw [marked] at code
      have mark : byteOrderMark.toNat = 0xFEFF := rfl
      omega

theorem length_encode_ascii {text : JsString}
    (ascii : ∀ unit ∈ text, unit.toNat < 0x80) :
    (encode text).length = text.length := by
  have written := ofChars_of_ascii ascii
  rw [← written, encode_ofChars, List.length_flatMap, written]
  clear written
  induction text with
  | nil => rfl
  | cons unit rest ih =>
      have small : unit.toNat < 0x80 := ascii unit List.mem_cons_self
      have valid : unit.toNat.isValidChar := by
        unfold Nat.isValidChar
        omega
      have code := Utf16.toNat_ofNat_of_valid valid
      have one : (String.utf8EncodeChar (Char.ofNat unit.toNat)).length = 1 := by
        unfold String.utf8EncodeChar
        have value : (Char.ofNat unit.toNat).val.toNat = unit.toNat := code
        simp only [value]
        rw [if_pos (by omega)]
        rfl
      have tail := ih fun other member =>
        ascii other (List.mem_cons_of_mem _ member)
      simp only [List.map_cons, List.sum_cons, one, List.length_cons] at tail ⊢
      omega

example : decode [0xE2, 0x82, 0x41, 0xC0, 0xF0, 0x9F, 0x94, 0x91] =
    js "\uFFFDA\uFFFD🔑" := by decide

end Utf8

end VaultCore
