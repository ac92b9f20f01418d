import VaultCore.Validation.AadAssert
import VaultCore.Crypto.Reference

/-!
# Encrypted payloads

A payload is serialized, sealed as a field and read back after its scope has
been asserted.  JSON values and their serialization are a codec: parsing
undoes serialization, and no serialization begins with a byte order mark.
-/

namespace VaultCore

/-- `JSON.stringify` and `JSON.parse` on the payloads of an application. -/
structure JsonCodec (Value : Type) where
  stringify : Value → List Char
  parse : JsString → Except VaultError Value

/-- A payload is parsed back from its text. -/
structure JsonCodec.Lawful {Value : Type} (codec : JsonCodec Value) :
    Prop where
  parse_stringify : ∀ value,
    codec.parse (Utf16.ofChars (codec.stringify value)) = .ok value
  unmarked : ∀ value,
    (codec.stringify value).head? ≠ some Utf8.byteOrderMark

section Operations

variable {Value : Type} (platform : Platform) (codec : JsonCodec Value)

def serializeVaultPayload (payload : Value) : JsString :=
  Utf16.ofChars (codec.stringify payload)

def parseVaultPayload (json : JsString) : Except VaultError Value :=
  codec.parse json

/-- The payload sealed for its scope under the vault key. -/
def encryptVaultPayload (iv : Iv) (payload : Value) (vaultKey : CryptoKey)
    (scope : VaultScope) (profile : VaultCryptoProfile) :
    Except VaultError EncryptedVaultPayload :=
  encryptField platform iv (serializeVaultPayload codec payload) vaultKey
    (scope.withField .vaultPayload) profile

/-- The payload, when it was sealed for the scope. -/
def decryptVaultPayload (encrypted : EncryptedVaultPayload)
    (vaultKey : CryptoKey) (expectedScope : VaultScope)
    (profile : VaultCryptoProfile) : Except VaultError Value := do
  assertVaultPayloadAad expectedScope encrypted profile
  let json ← decryptField platform encrypted vaultKey
  parseVaultPayload codec json

/-- A schema accepts a value and returns what it has parsed, or refuses it
with a message. -/
abbrev Schema (Value Parsed : Type) := Value → Except String Parsed

/-- The payload, parsed by the schema of the application. -/
def decryptVaultPayloadWithSchema {Parsed : Type}
    (encrypted : EncryptedVaultPayload) (vaultKey : CryptoKey)
    (expectedScope : VaultScope) (profile : VaultCryptoProfile)
    (schema : Schema Value Parsed) : Except VaultError Parsed := do
  assertVaultPayloadAad expectedScope encrypted profile
  let json ← decryptField platform encrypted vaultKey
  let parsed ← parseVaultPayload codec json
  match schema parsed with
  | .ok data => return data
  | .error message => .error (.vaultPayloadValidationError message)

/-- The size of the sealed text. -/
def serializedBytes (payload : Value) : Nat :=
  (stringToBytes (serializeVaultPayload codec payload)).length

end Operations

section RoundTrip

variable {Value : Type} {platform : Platform} {codec : JsonCodec Value}
  {iv : Iv} {payload : Value} {vaultKey key : CryptoKey} {scope : VaultScope}
  {profile : VaultCryptoProfile} {encrypted : EncryptedVaultPayload}

theorem bytesToString_serialized (lawful : codec.Lawful) (payload : Value) :
    bytesToString (stringToBytes (serializeVaultPayload codec payload)) =
      serializeVaultPayload codec payload :=
  Utf8.decode_encode_ofChars (lawful.unmarked payload)

theorem assertVaultPayloadAad_encrypted
    (encryption : encryptVaultPayload platform codec iv payload vaultKey scope
      profile = .ok encrypted) :
    assertVaultPayloadAad scope encrypted profile = .ok () := by
  obtain ⟨-, stored⟩ := encryptField_ok encryption
  apply assertAad_ok_iff.mpr
  rw [stored]
  rfl

/-- The field of a payload is read back within the bound, under any handle of
the same key. -/
theorem decryptField_encrypted (crypto : platform.Lawful)
    (lawful : codec.Lawful)
    (encryption : encryptVaultPayload platform codec iv payload vaultKey scope
      profile = .ok encrypted)
    (algorithm : key.algorithm = .aesGcm)
    (material : key.material = vaultKey.material)
    (within : serializedBytes codec payload ≤ maxVaultPlaintextBytes) :
    decryptField platform encrypted key =
      .ok (serializeVaultPayload codec payload) :=
  decryptField_encryptField crypto encryption algorithm material
    (bytesToString_serialized lawful payload) within rfl rfl rfl

theorem decryptVaultPayload_of_le (crypto : platform.Lawful)
    (lawful : codec.Lawful)
    (encryption : encryptVaultPayload platform codec iv payload vaultKey scope
      profile = .ok encrypted)
    (within : serializedBytes codec payload ≤ maxVaultPlaintextBytes) :
    decryptVaultPayload platform codec encrypted vaultKey scope profile =
      .ok payload := by
  have asserted := assertVaultPayloadAad_encrypted encryption
  have algorithm := (encryptField_ok encryption).1
  have decrypted := decryptField_encrypted crypto lawful encryption algorithm
    rfl within
  simp only [decryptVaultPayload, asserted, decrypted, Outcome.ok_bind]
  exact lawful.parse_stringify payload

theorem decryptVaultPayload_of_gt (crypto : platform.Lawful)
    (encryption : encryptVaultPayload platform codec iv payload vaultKey scope
      profile = .ok encrypted)
    (beyond : maxVaultPlaintextBytes < serializedBytes codec payload) :
    ∃ error, decryptVaultPayload platform codec encrypted vaultKey scope
      profile = .error error := by
  have asserted := assertVaultPayloadAad_encrypted encryption
  obtain ⟨message, refused⟩ :=
    decryptField_oversized crypto encryption beyond vaultKey
  refine ⟨.vaultPayloadSizeError message, ?_⟩
  simp only [decryptVaultPayload, asserted, refused, Outcome.ok_bind,
    Outcome.error_bind]

/-- An encrypted payload is read back with the serialization it was written
from exactly when that serialization has at most 65536 bytes. -/
theorem payload_round_trip_iff (crypto : platform.Lawful)
    (lawful : codec.Lawful)
    (encryption : encryptVaultPayload platform codec iv payload vaultKey scope
      profile = .ok encrypted) :
    (∃ value,
      decryptVaultPayload platform codec encrypted vaultKey scope profile =
        .ok value ∧
      codec.stringify value = codec.stringify payload) ↔
      serializedBytes codec payload ≤ maxVaultPlaintextBytes := by
  constructor
  · rintro ⟨value, decrypted, -⟩
    by_contra beyond
    obtain ⟨error, refused⟩ :=
      decryptVaultPayload_of_gt crypto encryption (not_le.mp beyond)
    rw [refused] at decrypted
    cases decrypted
  · intro within
    exact ⟨payload, decryptVaultPayload_of_le crypto lawful encryption within,
      rfl⟩

end RoundTrip

/-- JSON texts that are a single string. -/
def stringCodec : JsonCodec JsString :=
  { stringify := JsonText.quote
    parse := fun json =>
      match (Utf16.toCodePoints json).mapM fun
        | .scalar char => some char
        | .surrogate _ => none
      with
      | none => .error .syntaxError
      | some chars =>
          match JsonText.readString chars with
          | some value => .ok value
          | none => .error .syntaxError }

theorem stringCodec_lawful : stringCodec.Lawful where
  parse_stringify := by
    intro value
    have scalars : ∀ chars : List Char,
        (chars.map CodePoint.scalar).mapM (fun
          | .scalar char => some char
          | .surrogate _ => none) = some chars := by
      intro chars
      induction chars with
      | nil => rfl
      | cons char chars ih => simp [ih]
    simp only [stringCodec, Utf16.toCodePoints_ofChars, scalars,
      JsonText.readString_quote]
  unmarked := by
    intro value marked
    simp [stringCodec, JsonText.quote] at marked
    exact absurd marked (by decide)

private theorem escape_letters (count : Nat) :
    ((List.replicate count 'a').map CodePoint.scalar).flatMap
        JsonText.escape = List.replicate count 'a' := by
  induction count with
  | zero => rfl
  | succ count ih =>
      rw [List.replicate_succ, List.map_cons, List.flatMap_cons, ih]
      rfl

private theorem encode_letters (count : Nat) :
    (List.replicate count 'a').flatMap String.utf8EncodeChar =
      List.replicate count 0x61 := by
  induction count with
  | zero => rfl
  | succ count ih =>
      rw [List.replicate_succ, List.flatMap_cons, ih]
      rfl

theorem serializedBytes_letters (count : Nat) :
    serializedBytes stringCodec
      (Utf16.ofChars (List.replicate count 'a')) = count + 2 := by
  have quotation : (String.utf8EncodeChar '"').length = 1 := rfl
  simp only [serializedBytes, serializeVaultPayload, stringCodec,
    stringToBytes, Utf8.encode_ofChars, JsonText.quote,
    Utf16.toCodePoints_ofChars, escape_letters, List.cons_append,
    List.flatMap_cons, List.flatMap_append, encode_letters, List.flatMap_nil,
    List.append_nil, List.length_append, List.length_replicate, quotation]
  omega

def referenceIv : Iv := ⟨List.replicate 12 0, rfl⟩

def referenceScope : VaultScope :=
  { userId := js "user", resourceId := js "vault" }

def referenceProfile : VaultCryptoProfile :=
  { aadContextVault := js "vault", aadContextEnvelope := js "envelope" }

private theorem encryptVaultPayload_reference (value : JsString) :
    ∃ encrypted,
      encryptVaultPayload (Reference.platform []) stringCodec referenceIv
        value Reference.vaultKey referenceScope referenceProfile =
          .ok encrypted := by
  apply encryptField_of_aesGcm
  rfl

theorem payload_round_trip_iff_short :
    ∃ encrypted,
      encryptVaultPayload (Reference.platform []) stringCodec referenceIv
        (js "note") Reference.vaultKey referenceScope referenceProfile =
          .ok encrypted ∧
      ((∃ value,
        decryptVaultPayload (Reference.platform []) stringCodec encrypted
          Reference.vaultKey referenceScope referenceProfile = .ok value ∧
        stringCodec.stringify value = stringCodec.stringify (js "note")) ↔
        serializedBytes stringCodec (js "note") ≤ maxVaultPlaintextBytes) := by
  obtain ⟨encrypted, encryption⟩ := encryptVaultPayload_reference
    (js "note")
  exact ⟨encrypted, encryption,
    payload_round_trip_iff (Reference.platform_lawful []) stringCodec_lawful
      encryption⟩

/-- A JSON string of 65535 letters: two more bytes than the letters. -/
def longNote : JsString := Utf16.ofChars (List.replicate 65535 'a')

theorem long_note_not_read_back :
    ∃ encrypted,
      encryptVaultPayload (Reference.platform []) stringCodec referenceIv
        longNote Reference.vaultKey referenceScope referenceProfile =
          .ok encrypted ∧
      ¬ ∃ value,
        decryptVaultPayload (Reference.platform []) stringCodec encrypted
          Reference.vaultKey referenceScope referenceProfile = .ok value ∧
        stringCodec.stringify value = stringCodec.stringify longNote := by
  obtain ⟨encrypted, encryption⟩ := encryptVaultPayload_reference
    longNote
  refine ⟨encrypted, encryption, ?_⟩
  rintro ⟨value, decrypted, -⟩
  have beyond : maxVaultPlaintextBytes <
      serializedBytes stringCodec longNote := by
    rw [longNote, serializedBytes_letters]
    decide
  obtain ⟨error, refused⟩ := decryptVaultPayload_of_gt
    (Reference.platform_lawful []) encryption beyond
  rw [refused] at decrypted
  cases decrypted

end VaultCore
