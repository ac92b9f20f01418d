import VaultCore.Payload.EncryptedPayload

/-!
# Reading a field back

A sealed text is opened to its bytes again, and these are decoded with the
defaults of the text decoder, which drops a byte order mark at the start.
-/

namespace VaultCore

section

variable {platform : Platform} {iv : Iv} {key : CryptoKey} {chars : List Char}
  {scope : VaultAadScope} {profile : VaultCryptoProfile}

theorem decryptField_of_encryptField (crypto : platform.Lawful)
    (algorithm : key.algorithm = .aesGcm) {text : JsString}
    (within : (stringToBytes text).length ≤ maxVaultPlaintextBytes) :
    (do
      let payload ← encryptField platform iv text key scope profile
      decryptField platform payload key) =
        .ok (bytesToString (stringToBytes text)) := by
  obtain ⟨payload, encrypted⟩ :=
    @encryptField_of_aesGcm platform key iv text scope profile algorithm
  have written := (encryptField_ok encrypted).2
  rw [encrypted, Outcome.ok_bind]
  apply decryptField_sealed crypto algorithm
  · rw [written]
  · rw [written]
  · exact within

/-- A text of Unicode characters that encodes to at most 65536 bytes is read
back exactly when it does not begin with a byte order mark. -/
theorem field_round_trip_iff (crypto : platform.Lawful)
    (algorithm : key.algorithm = .aesGcm)
    (within : (stringToBytes (Utf16.ofChars chars)).length ≤ 64 * 1024) :
    (do
      let payload ← encryptField platform iv (Utf16.ofChars chars) key scope
        profile
      decryptField platform payload key) = .ok (Utf16.ofChars chars) ↔
      chars.head? ≠ some Utf8.byteOrderMark := by
  rw [decryptField_of_encryptField crypto algorithm within, Except.ok.injEq]
  exact Utf8.decode_encode_ofChars_iff

end

theorem field_round_trip_iff_note :
    (do
      let payload ← encryptField (Reference.platform []) referenceIv
        (js "note") Reference.vaultKey (referenceScope.withField .vaultPayload)
        referenceProfile
      decryptField (Reference.platform []) payload Reference.vaultKey) =
        .ok (js "note") ↔
      ['n', 'o', 't', 'e'].head? ≠ some Utf8.byteOrderMark :=
  field_round_trip_iff (Reference.platform_lawful []) rfl (by decide)

/-- A mark that is part of the text is lost. -/
theorem marked_text_not_read_back :
    (do
      let payload ← encryptField (Reference.platform []) referenceIv
        (js "\uFEFFnote") Reference.vaultKey
        (referenceScope.withField .vaultPayload) referenceProfile
      decryptField (Reference.platform []) payload Reference.vaultKey) =
        .ok (js "note") ∧
      js "note" ≠ js "\uFEFFnote" := by
  have within : (stringToBytes (js "\uFEFFnote")).length ≤
      maxVaultPlaintextBytes := by
    decide
  have decoded : bytesToString (stringToBytes (js "\uFEFFnote")) =
      js "note" := by
    decide
  have opened := @decryptField_of_encryptField (Reference.platform [])
    referenceIv Reference.vaultKey (referenceScope.withField .vaultPayload)
    referenceProfile (Reference.platform_lawful []) rfl _ within
  rw [decoded] at opened
  exact ⟨opened, by decide⟩

end VaultCore
