import VaultCore.Crypto.BoundedDecoding
import VaultCore.Kdf.Argon2id

/-!
# Metadata of chosen parameters

Metadata may be serialized for any salt and parameters that pass the checks,
and under either version.  Reading it makes the same checks again.
-/

namespace VaultCore

/-- `serializeArgon2idMetadata` with the parameters and the version that are
the recommended ones by default. -/
def serializeArgon2idMetadataWith (salt : Bytes) (params : Argon2idParams)
    (version : KdfVersion) : Except VaultError Argon2idKdfMetadata := do
  assertSafeArgon2idSalt salt
  assertSafeArgon2idParams params
  return {
    kdf := argon2idName
    version
    salt := bytesToBase64Url salt
    memory := params.memory
    iterations := params.iterations
    parallelism := params.parallelism }

theorem serializeArgon2idMetadata_eq_with (salt : Bytes) :
    serializeArgon2idMetadata salt =
      serializeArgon2idMetadataWith salt recommendedArgon2idParams .kdfV2 :=
  rfl

section Serialized

variable {salt : Bytes} {params : Argon2idParams} {version : KdfVersion}
  {metadata : Argon2idKdfMetadata}

theorem serializeArgon2idMetadataWith_ok
    (serialized : serializeArgon2idMetadataWith salt params version =
      .ok metadata) :
    assertSafeArgon2idSalt salt = .ok () ∧
      assertSafeArgon2idParams params = .ok () ∧
      metadata.salt = bytesToBase64Url salt ∧ metadata.params = params := by
  obtain ⟨_, safeSalt, rest⟩ := Outcome.bind_eq_ok_iff.mp serialized
  obtain ⟨_, safeParams, built⟩ := Outcome.bind_eq_ok_iff.mp rest
  cases built
  exact ⟨safeSalt, safeParams, rfl, rfl⟩

theorem safeSalt_text_short (safeSalt : assertSafeArgon2idSalt salt = .ok ()) :
    (bytesToBase64Url salt).length ≤ 128 := by
  have bounds := assertSafeArgon2idSalt_ok_iff.mp safeSalt
  rw [length_bytesToBase64Url]
  split <;> omega

theorem parseArgon2idMetadata_of_serialized
    (serialized : serializeArgon2idMetadataWith salt params version =
      .ok metadata) :
    parseArgon2idMetadata metadata = .ok (salt, params) := by
  obtain ⟨safeSalt, safeParams, text, same⟩ :=
    serializeArgon2idMetadataWith_ok serialized
  have short := not_lt.mpr (safeSalt_text_short safeSalt)
  simp only [parseArgon2idMetadata, text, same, short, if_false, safeParams,
    base64UrlToBytes_bytesToBase64Url, safeSalt, Outcome.ok_bind]
  rfl

end Serialized

/-- A bounded read of written bytes gives them back exactly within the bound,
no read exceeds the bound or attempts a longer text, and metadata is read as
it was written. -/
theorem bounded_base64url_exact :
    (∀ (bytes : Bytes) (maxBytes : Nat),
      if bytes.length ≤ maxBytes then
        decodeBoundedBase64Url (bytesToBase64Url bytes) maxBytes = .ok bytes
      else ∃ message,
        decodeBoundedBase64Url (bytesToBase64Url bytes) maxBytes =
          .error (.vaultPayloadSizeError message)) ∧
    (∀ (input : JsString) (maxBytes : Nat),
      (attemptedDecodeBoundedBase64Url input maxBytes).value =
          decodeBoundedBase64Url input maxBytes ∧
        (∀ text ∈ (attemptedDecodeBoundedBase64Url input maxBytes).trace,
          text.length ≤ 4 * (maxBytes ⌈/⌉ 3)) ∧
        ((∃ message, decodeBoundedBase64Url input maxBytes =
            .error (.vaultPayloadSizeError message)) ∨
          ∃ bytes, decodeBoundedBase64Url input maxBytes = .ok bytes ∧
            bytes.length ≤ maxBytes)) ∧
    ∀ (salt : Bytes) (params : Argon2idParams) (version : KdfVersion)
      (metadata : Argon2idKdfMetadata),
      serializeArgon2idMetadataWith salt params version = .ok metadata →
      parseArgon2idMetadata metadata = .ok (salt, params) := by
  refine ⟨?_, ?_, ?_⟩
  · intro bytes maxBytes
    split
    · rename_i within
      exact decodeBoundedBase64Url_of_le within
    · rename_i beyond
      exact decodeBoundedBase64Url_of_gt (not_le.mp beyond)
  · intro input maxBytes
    refine ⟨attemptedDecodeBoundedBase64Url_value,
      attemptedDecodeBoundedBase64Url_trace, ?_⟩
    cases decoded : decodeBoundedBase64Url input maxBytes with
    | error error =>
        obtain ⟨message, rfl⟩ := decodeBoundedBase64Url_error decoded
        exact .inl ⟨message, rfl⟩
    | ok bytes =>
        exact .inr ⟨bytes, rfl, decodeBoundedBase64Url_length decoded⟩
  · intro salt params version metadata serialized
    exact parseArgon2idMetadata_of_serialized serialized

/-- Eleven bytes with the bound at and below them, and a longest salt with
parameters at the ends of their ranges. -/
theorem bounded_base64url_exact_edges :
    decodeBoundedBase64Url (bytesToBase64Url (List.replicate 11 255)) 11 =
        .ok (List.replicate 11 255) ∧
      (∃ message,
        decodeBoundedBase64Url (bytesToBase64Url (List.replicate 11 255)) 10 =
          .error (.vaultPayloadSizeError message)) ∧
      parseArgon2idMetadata
          { kdf := argon2idName
            version := .kdfV1
            salt := bytesToBase64Url (List.replicate 64 255)
            memory := 8192
            iterations := 10
            parallelism := 4 } =
        .ok (List.replicate 64 255,
          { memory := 8192, iterations := 10, parallelism := 4 }) :=
  ⟨bounded_base64url_exact.1 (List.replicate 11 255) 11,
    bounded_base64url_exact.1 (List.replicate 11 255) 10,
    bounded_base64url_exact.2.2 (List.replicate 64 255)
      { memory := 8192, iterations := 10, parallelism := 4 } .kdfV1 _
      (by decide +kernel)⟩

end VaultCore
