import VaultCore.Crypto.Encoding
import VaultCore.Data.Traced
import Mathlib.Algebra.Order.Floor.Div
import Mathlib.GroupTheory.GroupAction.Ring

/-!
# What a bounded read attempts to decode

The bound on the encoded length is computed for padded text, and the text that
is read has no padding.  Here every text that is given to a decoder is seen,
before the padding is put back and after.
-/

namespace VaultCore

open Base64

/-- The decoder with a record of the texts it is given. -/
def attemptedBase64UrlToBytes (base64url : JsString) :
    Traced JsString (Except VaultError Bytes) := do
  Traced.observe base64url ()
  let base64 := replaceUnit underscoreUnit slashUnit
    (replaceUnit minusUnit plusUnit base64url)
  let padded := base64 ++
    List.replicate ((4 - base64.length % 4) % 4) paddingUnit
  let binary ← Traced.observe padded (atob padded)
  match binary with
  | some bytes => pure (.ok bytes)
  | none => pure (.error (.domException "InvalidCharacterError"))

/-- `decodeBoundedBase64Url` with the texts it attempts to decode. -/
def attemptedDecodeBoundedBase64Url (input : JsString) (maxBytes : Nat) :
    Traced JsString (Except VaultError Bytes) :=
  let maxEncodedLength := maxBase64UrlEncodedLength maxBytes
  if maxEncodedLength < input.length then
    pure (.error (.vaultPayloadSizeError
      ("Base64url field exceeds maximum encoded length (" ++
        toString maxEncodedLength ++ ")")))
  else do
    let decoded ← attemptedBase64UrlToBytes input
    match decoded with
    | .error _ =>
        pure (.error (.vaultPayloadSizeError "Invalid base64url field"))
    | .ok bytes =>
        if maxBytes < bytes.length then
          pure (.error (.vaultPayloadSizeError
            ("Decoded field exceeds maximum size (" ++
              toString maxBytes ++ " bytes)")))
        else pure (.ok bytes)

variable {input : JsString} {maxBytes : Nat}

theorem attemptedBase64UrlToBytes_value (base64url : JsString) :
    (attemptedBase64UrlToBytes base64url).value =
      base64UrlToBytes base64url := by
  simp only [attemptedBase64UrlToBytes, base64UrlToBytes, Traced.bind_value,
    Traced.observe_value]
  generalize atob _ = binary
  cases binary with
  | none => rfl
  | some bytes => rfl

/-- The texts are the given one and its padded form. -/
theorem attemptedBase64UrlToBytes_trace (base64url : JsString) :
    ∃ padded, (attemptedBase64UrlToBytes base64url).trace =
        [base64url, padded] ∧
      padded.length =
        base64url.length + (4 - base64url.length % 4) % 4 := by
  refine ⟨replaceUnit underscoreUnit slashUnit
      (replaceUnit minusUnit plusUnit base64url) ++
    List.replicate ((4 - base64url.length % 4) % 4) paddingUnit, ?_, ?_⟩
  · simp only [attemptedBase64UrlToBytes, Traced.bind_trace,
      Traced.observe_trace, Traced.observe_value, replaceUnit, List.length_map]
    generalize atob _ = binary
    cases binary with
    | none => rfl
    | some bytes => rfl
  · simp only [replaceUnit, List.length_append, List.length_map,
      List.length_replicate]

theorem attemptedDecodeBoundedBase64Url_value :
    (attemptedDecodeBoundedBase64Url input maxBytes).value =
      decodeBoundedBase64Url input maxBytes := by
  simp only [attemptedDecodeBoundedBase64Url, decodeBoundedBase64Url]
  split
  · rfl
  · rw [Traced.bind_value, attemptedBase64UrlToBytes_value]
    cases base64UrlToBytes input with
    | error error => rfl
    | ok bytes =>
        simp only []
        split
        · rfl
        · rfl

theorem maxBase64UrlEncodedLength_eq (maxBytes : Nat) :
    maxBase64UrlEncodedLength maxBytes = 4 * (maxBytes ⌈/⌉ 3) := by
  rw [maxBase64UrlEncodedLength, Nat.ceilDiv_eq_add_pred_div]
  omega

/-- Padding a text to whole quantums does not take it beyond a bound of whole
quantums. -/
theorem attemptedDecodeBoundedBase64Url_trace :
    ∀ text ∈ (attemptedDecodeBoundedBase64Url input maxBytes).trace,
      text.length ≤ 4 * (maxBytes ⌈/⌉ 3) := by
  rw [← maxBase64UrlEncodedLength_eq]
  obtain ⟨padded, attempted, length⟩ := attemptedBase64UrlToBytes_trace input
  simp only [attemptedDecodeBoundedBase64Url]
  split
  · intro text member
    cases member
  · rename_i short
    have within : input.length ≤ (maxBytes + 2) / 3 * 4 := not_lt.mp short
    have attempts : ∀ text ∈ [input, padded],
        text.length ≤ maxBase64UrlEncodedLength maxBytes := by
      intro text member
      rw [maxBase64UrlEncodedLength]
      rcases List.mem_pair.mp member with rfl | rfl
      · exact within
      · rw [length]
        omega
    rw [Traced.bind_trace, attempted]
    split
    · rwa [Traced.pure_trace, List.append_nil]
    · split
      · rwa [Traced.pure_trace, List.append_nil]
      · rwa [Traced.pure_trace, List.append_nil]

theorem decodeBoundedBase64Url_error {error : VaultError}
    (refused : decodeBoundedBase64Url input maxBytes = .error error) :
    ∃ message, error = .vaultPayloadSizeError message := by
  simp only [decodeBoundedBase64Url] at refused
  split at refused
  · cases refused
    exact ⟨_, rfl⟩
  · split at refused
    · cases refused
      exact ⟨_, rfl⟩
    · split at refused
      · cases refused
        exact ⟨_, rfl⟩
      · cases refused

end VaultCore
