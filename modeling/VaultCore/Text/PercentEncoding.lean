import VaultCore.Text.Utf8

/-!
# Percent encoding

`decodeURIComponent` fails on a sign that does not begin an escape and on
escapes that are not UTF-8.  A decoded text is shorter than one with an
escape, and a text without the sign is its own decoding.
-/

namespace VaultCore

namespace PercentEncoding

def percentUnit : UInt16 := 0x25

def hexDigitValue (unit : UInt16) : Option Nat :=
  let code := unit.toNat
  if 0x30 ≤ code ∧ code ≤ 0x39 then some (code - 0x30)
  else if 0x41 ≤ code ∧ code ≤ 0x46 then some (code - 0x37)
  else if 0x61 ≤ code ∧ code ≤ 0x66 then some (code - 0x57)
  else none

def hexByte (high low : UInt16) : Option UInt8 :=
  match hexDigitValue high, hexDigitValue low with
  | some upper, some lower => some (UInt8.ofNat (upper * 16 + lower))
  | _, _ => none

/-- The text after an unfinished sequence of octets, if any.  Octets above
the ASCII range must make up a character. -/
def decodeOctets : Option Utf8.Pending → JsString → Option JsString
  | none, [] => some []
  | some _, [] => none
  | none, 0x25 :: high :: low :: rest =>
      match hexByte high low with
      | none => none
      | some byte =>
          if byte.toNat < 0x80 then
            (decodeOctets none rest).map (byte.toUInt16 :: ·)
          else
            match Utf8.readLead byte with
            | .char _ => none
            | .pending pending => decodeOctets (some pending) rest
  | some pending, 0x25 :: high :: low :: rest =>
      match hexByte high low with
      | none => none
      | some byte =>
          match Utf8.readContinuation pending byte with
          | none => none
          | some (.char char) =>
              (decodeOctets none rest).map (Utf16.unitsOfChar char ++ ·)
          | some (.pending later) => decodeOctets (some later) rest
  | none, unit :: rest =>
      if unit = percentUnit then none
      else (decodeOctets none rest).map (unit :: ·)
  | some _, _ :: _ => none

/-- `decodeURIComponent(text)`, or nothing if it throws. -/
def decodeURIComponent (text : JsString) : Option JsString :=
  decodeOctets none text

theorem decodeOctets_cons {unit : UInt16} (plain : unit ≠ percentUnit)
    (rest : JsString) :
    decodeOctets none (unit :: rest) =
      (decodeOctets none rest).map (unit :: ·) := by
  rw [decodeOctets.eq_def]
  split
  · rename_i empty
    cases empty
  · rename_i pending none
    cases none
  · rename_i high low tail written
    exact absurd (List.cons.inj written).1 plain
  · rename_i impossible written
    cases impossible
  · rename_i other tail later written
    cases written
    rw [if_neg plain]
  · rename_i impossible separate
    cases impossible

theorem decodeURIComponent_plain {text : JsString}
    (plain : percentUnit ∉ text) : decodeURIComponent text = some text := by
  unfold decodeURIComponent
  induction text with
  | nil => rfl
  | cons unit rest ih =>
      have first : unit ≠ percentUnit := fun same =>
        plain (same ▸ List.mem_cons_self)
      have later := ih fun member => plain (List.mem_cons_of_mem _ member)
      rw [decodeOctets_cons first, later]
      rfl

theorem length_unitsOfChar_le (char : Char) :
    (Utf16.unitsOfChar char).length ≤ 2 := by
  unfold Utf16.unitsOfChar
  split <;> simp

/-- Decoding never lengthens a text, and shortens one with an escape. -/
theorem length_decodeOctets {pending : Option Utf8.Pending}
    {text decoded : JsString}
    (success : decodeOctets pending text = some decoded) :
    decoded.length ≤ text.length ∧
      (pending.isSome ∨ percentUnit ∈ text →
        decoded.length < text.length) := by
  fun_induction decodeOctets pending text generalizing decoded with
  | case1 =>
      cases success
      simp
  | case2 => cases success
  | case3 => cases success
  | case4 high low rest byte read small ih =>
      obtain ⟨tail, later, rfl⟩ := Option.map_eq_some_iff.mp success
      have bound := (ih later).1
      simp only [List.length_cons]
      omega
  | case5 => cases success
  | case6 high low rest byte read large pending lead ih =>
      have bound := (ih success).1
      simp only [List.length_cons]
      omega
  | case7 => cases success
  | case8 => cases success
  | case9 pending high low rest byte read char last ih =>
      obtain ⟨tail, later, rfl⟩ := Option.map_eq_some_iff.mp success
      have bound := (ih later).1
      have short := length_unitsOfChar_le char
      simp only [List.length_cons, List.length_append]
      omega
  | case10 pending high low rest byte read later more ih =>
      have bound := (ih success).1
      simp only [List.length_cons]
      omega
  | case11 => cases success
  | case12 unit rest separate plain ih =>
      obtain ⟨tail, later, rfl⟩ := Option.map_eq_some_iff.mp success
      obtain ⟨bound, strict⟩ := ih later
      simp only [List.length_cons]
      refine ⟨by omega, ?_⟩
      rintro (impossible | member)
      · cases impossible
      · rcases List.mem_cons.mp member with first | rest
        · exact absurd first.symm plain
        · have shorter := strict (.inr rest)
          omega
  | case13 => cases success

theorem length_decodeURIComponent_le {text decoded : JsString}
    (success : decodeURIComponent text = some decoded) :
    decoded.length ≤ text.length :=
  (length_decodeOctets success).1

theorem length_decodeURIComponent_lt {text decoded : JsString}
    (success : decodeURIComponent text = some decoded)
    (escaped : percentUnit ∈ text) : decoded.length < text.length :=
  (length_decodeOctets success).2 (.inr escaped)

/-- Only text without an escape is its own decoding. -/
theorem decodeURIComponent_eq_self_iff {text : JsString} :
    decodeURIComponent text = some text ↔ percentUnit ∉ text := by
  constructor
  · intro success escaped
    exact absurd (length_decodeURIComponent_lt success escaped)
      (lt_irrefl _)
  · exact decodeURIComponent_plain

end PercentEncoding

end VaultCore
