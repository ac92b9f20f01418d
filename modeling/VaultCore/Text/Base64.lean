import VaultCore.Text.Utf8
import Mathlib.Data.Fin.Basic

/-!
# Base64

`btoa` writes bytes in the standard alphabet with padding.  `atob` is the
forgiving reader: it drops ASCII white space and at most two trailing padding
signs, and discards left-over bits.
-/

namespace VaultCore

namespace Base64

/-- A digit of the encoding. -/
abbrev Sextet := Fin 64

def sextet (value : Nat) : Sextet := Fin.ofNat 64 value

def octet (value : Nat) : UInt8 := UInt8.ofNat value

/-- The digits of the bytes, without padding. -/
def sextets : Bytes → List Sextet
  | [] => []
  | [first] =>
      [sextet (first.toNat / 4), sextet (first.toNat % 4 * 16)]
  | [first, second] =>
      [sextet (first.toNat / 4),
        sextet (first.toNat % 4 * 16 + second.toNat / 16),
        sextet (second.toNat % 16 * 4)]
  | first :: second :: third :: rest =>
      sextet (first.toNat / 4) ::
        sextet (first.toNat % 4 * 16 + second.toNat / 16) ::
          sextet (second.toNat % 16 * 4 + third.toNat / 64) ::
            sextet (third.toNat % 64) :: sextets rest

def octets : List Sextet → Bytes
  | [first, second] => [octet (first.val * 4 + second.val / 16)]
  | [first, second, third] =>
      [octet (first.val * 4 + second.val / 16),
        octet (second.val % 16 * 16 + third.val / 4)]
  | first :: second :: third :: fourth :: rest =>
      octet (first.val * 4 + second.val / 16) ::
        octet (second.val % 16 * 16 + third.val / 4) ::
          octet (third.val % 4 * 64 + fourth.val) :: octets rest
  | _ => []

/-- The unit that a digit is written with. -/
def unitOfSextet (value : Sextet) : UInt16 :=
  if value.val < 26 then UInt16.ofNat (65 + value.val)
  else if value.val < 52 then UInt16.ofNat (97 + (value.val - 26))
  else if value.val < 62 then UInt16.ofNat (48 + (value.val - 52))
  else if value.val = 62 then 43
  else 47

/-- The digit that a unit stands for. -/
def sextetOfUnit (unit : UInt16) : Option Sextet :=
  let code := unit.toNat
  if 65 ≤ code ∧ code ≤ 90 then some (sextet (code - 65))
  else if 97 ≤ code ∧ code ≤ 122 then some (sextet (code - 97 + 26))
  else if 48 ≤ code ∧ code ≤ 57 then some (sextet (code - 48 + 52))
  else if code = 43 then some (sextet 62)
  else if code = 47 then some (sextet 63)
  else none

def paddingUnit : UInt16 := 61

/-- The white space that decoding skips. -/
def isWhitespace (unit : UInt16) : Bool :=
  unit == 9 || unit == 10 || unit == 12 || unit == 13 || unit == 32

/-- `btoa(text)` on a text of bytes. -/
def btoa (bytes : Bytes) : JsString :=
  let digits := (sextets bytes).map unitOfSextet
  digits ++ List.replicate ((4 - digits.length % 4) % 4) paddingUnit

/-- Drop one or two trailing padding signs from a text of whole quantums. -/
def dropPadding (text : JsString) : JsString :=
  if text.length % 4 = 0 then
    match text.reverse with
    | last :: previous :: rest =>
        if last = paddingUnit then
          if previous = paddingUnit then rest.reverse
          else (previous :: rest).reverse
        else text
    | _ => text
  else text

/-- `atob(text)`, with its bytes. -/
def atob (text : JsString) : Option Bytes :=
  let digits := dropPadding (text.filter fun unit => !isWhitespace unit)
  if digits.length % 4 = 1 then none
  else (digits.mapM sextetOfUnit).map octets

theorem sextetOfUnit_unitOfSextet (value : Sextet) :
    sextetOfUnit (unitOfSextet value) = some value := by
  revert value
  decide

theorem unitOfSextet_not_padding (value : Sextet) :
    unitOfSextet value ≠ paddingUnit := by
  revert value
  decide

theorem unitOfSextet_not_whitespace (value : Sextet) :
    isWhitespace (unitOfSextet value) = false := by
  revert value
  decide

theorem octets_sextets (bytes : Bytes) :
    octets (sextets bytes) = bytes := by
  induction bytes using sextets.induct with
  | case1 => rfl
  | case2 first =>
      have bound := first.toNat_lt
      have joined : (sextet (first.toNat / 4)).val * 4 +
          (sextet (first.toNat % 4 * 16)).val / 16 = first.toNat := by
        simp only [sextet, Fin.val_ofNat]
        omega
      simp [sextets, octets, octet, joined]
  | case3 first second =>
      have firstBound := first.toNat_lt
      have secondBound := second.toNat_lt
      have firstJoined : (sextet (first.toNat / 4)).val * 4 +
          (sextet (first.toNat % 4 * 16 + second.toNat / 16)).val / 16 =
            first.toNat := by
        simp only [sextet, Fin.val_ofNat]
        omega
      have secondJoined :
          (sextet (first.toNat % 4 * 16 + second.toNat / 16)).val % 16 * 16 +
            (sextet (second.toNat % 16 * 4)).val / 4 = second.toNat := by
        simp only [sextet, Fin.val_ofNat]
        omega
      simp [sextets, octets, octet, firstJoined, secondJoined]
  | case4 first second third rest ih =>
      have firstBound := first.toNat_lt
      have secondBound := second.toNat_lt
      have thirdBound := third.toNat_lt
      have firstJoined : (sextet (first.toNat / 4)).val * 4 +
          (sextet (first.toNat % 4 * 16 + second.toNat / 16)).val / 16 =
            first.toNat := by
        simp only [sextet, Fin.val_ofNat]
        omega
      have secondJoined :
          (sextet (first.toNat % 4 * 16 + second.toNat / 16)).val % 16 * 16 +
            (sextet (second.toNat % 16 * 4 + third.toNat / 64)).val / 4 =
              second.toNat := by
        simp only [sextet, Fin.val_ofNat]
        omega
      have thirdJoined :
          (sextet (second.toNat % 16 * 4 + third.toNat / 64)).val % 4 * 64 +
            (sextet (third.toNat % 64)).val = third.toNat := by
        simp only [sextet, Fin.val_ofNat]
        omega
      simp [sextets, octets, octet, firstJoined, secondJoined, thirdJoined, ih]

/-- Four digits for each three bytes, and one more digit than bytes for the
one or two that remain. -/
theorem length_sextets (bytes : Bytes) :
    (sextets bytes).length =
      bytes.length / 3 * 4 +
        if bytes.length % 3 = 0 then 0 else bytes.length % 3 + 1 := by
  induction bytes using sextets.induct with
  | case1 => rfl
  | case2 first => simp [sextets]
  | case3 first second => simp [sextets]
  | case4 first second third rest ih =>
      have quotient : (rest.length + 3) / 3 = rest.length / 3 + 1 := by omega
      have remainder : (rest.length + 3) % 3 = rest.length % 3 := by omega
      simp only [sextets, List.length_cons, ih, quotient, remainder]
      omega

theorem length_sextets_mod_ne_one (bytes : Bytes) :
    (sextets bytes).length % 4 ≠ 1 := by
  rw [length_sextets]
  split <;> omega

private theorem mapM_sextetOfUnit (digits : List Sextet) :
    (digits.map unitOfSextet).mapM sextetOfUnit = some digits := by
  induction digits with
  | nil => rfl
  | cons digit digits ih =>
      simp [sextetOfUnit_unitOfSextet, ih]

private theorem filter_digits (digits : List Sextet) (count : Nat) :
    (digits.map unitOfSextet ++ List.replicate count paddingUnit).filter
        (fun unit => !isWhitespace unit) =
      digits.map unitOfSextet ++ List.replicate count paddingUnit := by
  apply List.filter_eq_self.mpr
  intro unit member
  rcases List.mem_append.mp member with digit | padding
  · obtain ⟨value, -, rfl⟩ := List.mem_map.mp digit
    simp [unitOfSextet_not_whitespace]
  · rw [List.eq_of_mem_replicate padding]
    rfl

private theorem dropPadding_digits (digits : List Sextet) (count : Nat)
    (whole : (digits.length + count) % 4 = 0) (few : count ≤ 2) :
    dropPadding
        (digits.map unitOfSextet ++ List.replicate count paddingUnit) =
      digits.map unitOfSextet := by
  have length : (digits.map unitOfSextet ++
      List.replicate count paddingUnit).length % 4 = 0 := by
    simpa using whole
  rw [dropPadding, if_pos length]
  obtain ⟨reversed, rfl⟩ : ∃ reversed, digits = List.reverse reversed :=
    ⟨digits.reverse, by simp⟩
  have cases : count = 0 ∨ count = 1 ∨ count = 2 := by omega
  cases reversed with
  | nil =>
      have empty : count = 0 := by
        simp at whole
        omega
      subst empty
      rfl
  | cons last earlier =>
      have notPadding := unitOfSextet_not_padding last
      rcases cases with rfl | rfl | rfl
      · cases earlier with
        | nil => simp
        | cons previous earlier => simp [notPadding]
      · simp [notPadding]
      · simp [List.replicate]

theorem atob_padded (bytes : Bytes) :
    atob ((sextets bytes).map unitOfSextet ++
        List.replicate ((4 - (sextets bytes).length % 4) % 4) paddingUnit) =
      some bytes := by
  have notOne := length_sextets_mod_ne_one bytes
  have dropped := dropPadding_digits (sextets bytes)
    ((4 - (sextets bytes).length % 4) % 4) (by omega) (by omega)
  rw [atob, filter_digits, dropped]
  simp only [List.length_map, notOne, ↓reduceIte, mapM_sextetOfUnit,
    Option.map_some, octets_sextets]

theorem atob_btoa (bytes : Bytes) : atob (btoa bytes) = some bytes := by
  have padded := atob_padded bytes
  simpa [btoa] using padded

example : atob (js "aGk=\n") = some [0x68, 0x69] := by decide

end Base64

end VaultCore
