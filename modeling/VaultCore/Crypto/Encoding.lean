import VaultCore.Text.Base64
import VaultCore.Errors
import Mathlib.Data.List.DropRight

/-!
# Field encodings

Base64url fields are written without padding and read by the forgiving
reader after the URL alphabet has been mapped back.  A bounded read refuses a
text that is too long before it decodes it, and a result that is too long
after.
-/

namespace VaultCore

open Base64

/-- The length of an initialization vector. -/
def maxVaultIvBytes : Nat := 12

/-- The greatest plaintext with its tag. -/
def maxVaultCiphertextBytes : Nat := 64 * 1024 + 16

/-- `String.prototype.replace` of every `old` unit. -/
def replaceUnit (old new : UInt16) (text : JsString) : JsString :=
  text.map fun unit => if unit = old then new else unit

def plusUnit : UInt16 := 43
def slashUnit : UInt16 := 47
def minusUnit : UInt16 := 45
def underscoreUnit : UInt16 := 95

/-- Base64 in the URL alphabet, without padding. -/
def bytesToBase64Url (bytes : Bytes) : JsString :=
  (replaceUnit slashUnit underscoreUnit
    (replaceUnit plusUnit minusUnit (btoa bytes))).rdropWhile
      fun unit => unit == paddingUnit

/-- Decodes either alphabet, with or without padding. -/
def base64UrlToBytes (base64url : JsString) : Except VaultError Bytes :=
  let base64 := replaceUnit underscoreUnit slashUnit
    (replaceUnit minusUnit plusUnit base64url)
  let padded := base64 ++
    List.replicate ((4 - base64.length % 4) % 4) paddingUnit
  match atob padded with
  | some bytes => .ok bytes
  | none => .error (.domException "InvalidCharacterError")

/-- `Math.ceil(maxBytes / 3) * 4` -/
def maxBase64UrlEncodedLength (maxBytes : Nat) : Nat :=
  (maxBytes + 2) / 3 * 4

/-- Refuses a text that is too long before it is decoded. -/
def decodeBoundedBase64Url (input : JsString) (maxBytes : Nat) :
    Except VaultError Bytes :=
  let maxEncodedLength := maxBase64UrlEncodedLength maxBytes
  if maxEncodedLength < input.length then
    .error (.vaultPayloadSizeError
      ("Base64url field exceeds maximum encoded length (" ++
        toString maxEncodedLength ++ ")"))
  else
    match base64UrlToBytes input with
    | .error _ => .error (.vaultPayloadSizeError "Invalid base64url field")
    | .ok bytes =>
        if maxBytes < bytes.length then
          .error (.vaultPayloadSizeError
            ("Decoded field exceeds maximum size (" ++
              toString maxBytes ++ " bytes)"))
        else .ok bytes

/-- `new TextEncoder().encode(text)` -/
def stringToBytes (text : JsString) : Bytes := Utf8.encode text

/-- `new TextDecoder().decode(bytes)` -/
def bytesToString (bytes : Bytes) : JsString := Utf8.decode bytes

/-- The digit of the URL alphabet. -/
def urlUnitOfSextet (value : Sextet) : UInt16 :=
  if value.val = 62 then minusUnit
  else if value.val = 63 then underscoreUnit
  else unitOfSextet value

private theorem urlUnit_eq (value : Sextet) :
    (if (if unitOfSextet value = plusUnit then minusUnit
        else unitOfSextet value) = slashUnit then underscoreUnit
      else if unitOfSextet value = plusUnit then minusUnit
        else unitOfSextet value) = urlUnitOfSextet value := by
  revert value
  decide

private theorem urlUnit_inverse (value : Sextet) :
    (if (if urlUnitOfSextet value = minusUnit then plusUnit
        else urlUnitOfSextet value) = underscoreUnit then slashUnit
      else if urlUnitOfSextet value = minusUnit then plusUnit
        else urlUnitOfSextet value) = unitOfSextet value := by
  revert value
  decide

private theorem urlUnit_not_padding (value : Sextet) :
    (urlUnitOfSextet value == paddingUnit) = false := by
  revert value
  decide

private theorem urlUnit_ascii (value : Sextet) :
    (urlUnitOfSextet value).toNat < 0x80 := by
  revert value
  decide

private theorem rdropWhile_padding (digits : List Sextet) (count : Nat) :
    (digits.map urlUnitOfSextet ++
        List.replicate count paddingUnit).rdropWhile
          (fun unit => unit == paddingUnit) =
      digits.map urlUnitOfSextet := by
  induction count with
  | zero =>
      rw [List.replicate_zero, List.append_nil]
      apply List.rdropWhile_eq_self_iff.mpr
      intro nonempty padded
      have member := List.getLast_mem nonempty
      obtain ⟨value, -, same⟩ := List.mem_map.mp member
      rw [← same, urlUnit_not_padding value] at padded
      cases padded
  | succ count ih =>
      rw [List.replicate_succ', ← List.append_assoc,
        List.rdropWhile_concat_pos _ _ _ (by simp), ih]

/-- The written text is the unpadded digits of the URL alphabet. -/
theorem bytesToBase64Url_eq (bytes : Bytes) :
    bytesToBase64Url bytes = (sextets bytes).map urlUnitOfSextet := by
  have padding : ∀ count, replaceUnit slashUnit underscoreUnit
      (replaceUnit plusUnit minusUnit (List.replicate count paddingUnit)) =
        List.replicate count paddingUnit := by
    intro count
    simp only [replaceUnit, List.map_replicate]
    rfl
  have digits : replaceUnit slashUnit underscoreUnit
      (replaceUnit plusUnit minusUnit
        ((sextets bytes).map unitOfSextet)) =
          (sextets bytes).map urlUnitOfSextet := by
    simp only [replaceUnit, List.map_map]
    apply List.map_congr_left
    intro value _
    exact urlUnit_eq value
  have written : replaceUnit slashUnit underscoreUnit
      (replaceUnit plusUnit minusUnit (btoa bytes)) =
        (sextets bytes).map urlUnitOfSextet ++
          List.replicate ((4 - (sextets bytes).length % 4) % 4)
            paddingUnit := by
    rw [← digits, ← padding]
    simp [btoa, replaceUnit]
  rw [bytesToBase64Url, written, rdropWhile_padding]

theorem base64UrlToBytes_bytesToBase64Url (bytes : Bytes) :
    base64UrlToBytes (bytesToBase64Url bytes) = .ok bytes := by
  have standard : replaceUnit underscoreUnit slashUnit
      (replaceUnit minusUnit plusUnit (bytesToBase64Url bytes)) =
        (sextets bytes).map unitOfSextet := by
    rw [bytesToBase64Url_eq]
    simp only [replaceUnit, List.map_map]
    apply List.map_congr_left
    intro value _
    exact urlUnit_inverse value
  have decoded := atob_padded bytes
  simp only [base64UrlToBytes, standard, List.length_map, decoded]

theorem length_bytesToBase64Url (bytes : Bytes) :
    (bytesToBase64Url bytes).length =
      bytes.length / 3 * 4 +
        if bytes.length % 3 = 0 then 0 else bytes.length % 3 + 1 := by
  rw [bytesToBase64Url_eq, List.length_map, length_sextets]

theorem bytesToBase64Url_ascii (bytes : Bytes) :
    ∀ unit ∈ bytesToBase64Url bytes, unit.toNat < 0x80 := by
  intro unit member
  rw [bytesToBase64Url_eq] at member
  obtain ⟨value, -, same⟩ := List.mem_map.mp member
  rw [← same]
  exact urlUnit_ascii value

theorem decodeBoundedBase64Url_of_le {bytes : Bytes} {maxBytes : Nat}
    (within : bytes.length ≤ maxBytes) :
    decodeBoundedBase64Url (bytesToBase64Url bytes) maxBytes =
      .ok bytes := by
  have short : ¬ maxBase64UrlEncodedLength maxBytes <
      (bytesToBase64Url bytes).length := by
    rw [length_bytesToBase64Url, maxBase64UrlEncodedLength]
    split <;> omega
  simp only [decodeBoundedBase64Url, if_neg short,
    base64UrlToBytes_bytesToBase64Url, if_neg (not_lt.mpr within)]

theorem decodeBoundedBase64Url_of_gt {bytes : Bytes} {maxBytes : Nat}
    (beyond : maxBytes < bytes.length) :
    ∃ message, decodeBoundedBase64Url (bytesToBase64Url bytes) maxBytes =
      .error (.vaultPayloadSizeError message) := by
  by_cases long : maxBase64UrlEncodedLength maxBytes <
      (bytesToBase64Url bytes).length
  · simp only [decodeBoundedBase64Url, if_pos long]
    exact ⟨_, rfl⟩
  · simp only [decodeBoundedBase64Url, if_neg long,
      base64UrlToBytes_bytesToBase64Url, if_pos beyond]
    exact ⟨_, rfl⟩

theorem decodeBoundedBase64Url_bytes {written bytes : Bytes} {maxBytes : Nat}
    (decoded : decodeBoundedBase64Url (bytesToBase64Url written) maxBytes =
      .ok bytes) :
    bytes = written := by
  by_cases within : written.length ≤ maxBytes
  · rw [decodeBoundedBase64Url_of_le within] at decoded
    cases decoded
    rfl
  · obtain ⟨message, refused⟩ :=
      decodeBoundedBase64Url_of_gt (not_le.mp within)
    rw [refused] at decoded
    cases decoded

/-- Whatever a bounded read returns is within its bound. -/
theorem decodeBoundedBase64Url_length {input : JsString} {maxBytes : Nat}
    {bytes : Bytes}
    (decoded : decodeBoundedBase64Url input maxBytes = .ok bytes) :
    bytes.length ≤ maxBytes := by
  simp only [decodeBoundedBase64Url] at decoded
  split at decoded
  · cases decoded
  · split at decoded
    · cases decoded
    · split at decoded
      · cases decoded
      · rename_i withinBound
        cases decoded
        exact not_lt.mp withinBound

theorem bytesToString_base64Url (bytes : Bytes) :
    bytesToString (stringToBytes (bytesToBase64Url bytes)) =
      bytesToBase64Url bytes :=
  Utf8.decode_encode_ascii (bytesToBase64Url_ascii bytes)

end VaultCore
