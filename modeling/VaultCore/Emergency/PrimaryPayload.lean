import VaultCore.Emergency.DecoyEnrollment

/-!
# The primary payload in emergency mode

In emergency mode the decoy's blob is decrypted, unless it is spelled like the
primary one.  The decoder accepts several spellings of the same bytes, so a
decoy blob may hold the primary blob's bytes under another spelling.
-/

namespace VaultCore

/-- The bytes that a blob is opened from. -/
structure SealedBytes where
  iv : Bytes
  ciphertext : Bytes
deriving DecidableEq

/-- The bytes that the encoded fields of a payload stand for. -/
def EncryptedVaultPayload.sealedBytes (payload : EncryptedVaultPayload) :
    Except VaultError SealedBytes := do
  let iv ← decodeBoundedBase64Url payload.iv maxVaultIvBytes
  let ciphertext ← decodeBoundedBase64Url payload.ciphertext
    maxVaultCiphertextBytes
  return { iv, ciphertext }

/-- One blob holds the bytes of the other in another spelling. -/
structure Respells (blob other : EncryptedVaultPayload) : Prop where
  same : ∃ bytes, blob.sealedBytes = .ok bytes ∧ other.sealedBytes = .ok bytes
  different : blobsReferentiallyEqual blob other = false

section Session

variable {Value Parsed : Type}

/-- The mode that the call takes: its own, else the mode of the session. -/
def DecryptVaultPayloadForSessionInput.effectiveMode
    (input : DecryptVaultPayloadForSessionInput Value Parsed)
    (core : SessionCore) : VaultSessionMode :=
  input.mode.getD core.getVaultSessionMode

/-- The blob that the call decrypts. -/
def DecryptVaultPayloadForSessionInput.targetBlob
    (input : DecryptVaultPayloadForSessionInput Value Parsed)
    (core : SessionCore) : Except VaultError EncryptedVaultPayload :=
  resolveSessionEncryptedBlob (input.effectiveMode core)
    input.record.encryptedBlob
    (input.record.decoy.map VaultDecoyRecord.encryptedBlob)

/-- Whatever the call returns is the decryption of other bytes than those of
the primary blob. -/
def AvoidsPrimary (platform : Platform) (codec : JsonCodec Value)
    (core : SessionCore)
    (input : DecryptVaultPayloadForSessionInput Value Parsed) : Prop :=
  ∀ parsed,
    decryptVaultPayloadForSession platform codec core input = .ok parsed →
    ∃ target, input.targetBlob core = .ok target ∧
      decryptVaultPayloadWithSchema platform codec target input.vaultKey
        input.scope input.profile input.schema = .ok parsed ∧
      target.sealedBytes ≠ input.record.encryptedBlob.sealedBytes

variable {platform : Platform} {codec : JsonCodec Value}

theorem sealedBytes_of_decrypted {payload : EncryptedVaultPayload}
    {key : CryptoKey} {scope : VaultScope} {profile : VaultCryptoProfile}
    {schema : Schema Value Parsed} {parsed : Parsed}
    (decrypted : decryptVaultPayloadWithSchema platform codec payload key scope
      profile schema = .ok parsed) :
    ∃ bytes, payload.sealedBytes = .ok bytes := by
  obtain ⟨_, -, afterScope⟩ := Outcome.bind_eq_ok_iff.mp decrypted
  obtain ⟨json, opened, -⟩ := Outcome.bind_eq_ok_iff.mp afterScope
  obtain ⟨iv, ciphertext, -, -, ivDecoded, decoded, -⟩ :=
    decryptField_sound opened
  refine ⟨{ iv, ciphertext }, ?_⟩
  simp only [EncryptedVaultPayload.sealedBytes, ivDecoded, decoded,
    Outcome.ok_bind, Outcome.pure_eq_ok]

variable {core : SessionCore}
  {input : DecryptVaultPayloadForSessionInput Value Parsed}

theorem decryptVaultPayloadForSession_emergency
    (emergency : input.effectiveMode core = .emergency) {parsed : Parsed} :
    decryptVaultPayloadForSession platform codec core input = .ok parsed ↔
      ∃ decoy, input.record.decoy = some decoy ∧
        blobsReferentiallyEqual decoy.encryptedBlob
          input.record.encryptedBlob = false ∧
        decryptVaultPayloadWithSchema platform codec decoy.encryptedBlob
          input.vaultKey input.scope input.profile input.schema =
            .ok parsed := by
  have mode : input.mode.getD core.getVaultSessionMode = .emergency := emergency
  unfold decryptVaultPayloadForSession
  rw [mode]
  cases configured : input.record.decoy with
  | none =>
      constructor
      · intro returned
        cases returned
      · intro opened
        obtain ⟨decoy, absent, -⟩ := opened
        cases absent
  | some decoy =>
      simp only [Option.map_some, resolveSessionEncryptedBlob,
        assertSessionPayloadDecryptAllowed, Outcome.ok_bind]
      constructor
      · intro returned
        obtain ⟨_, asserted, opened⟩ := Outcome.bind_eq_ok_iff.mp returned
        refine ⟨decoy, rfl, ?_, opened⟩
        apply eq_false_of_ne_true
        intro same
        rw [if_pos same] at asserted
        cases asserted
      · intro opened
        obtain ⟨_, same, different, opened⟩ := opened
        cases same
        rw [different, if_neg Bool.false_ne_true, Outcome.ok_bind]
        exact opened

theorem targetBlob_emergency
    (emergency : input.effectiveMode core = .emergency)
    {decoy : VaultDecoyRecord} (configured : input.record.decoy = some decoy) :
    input.targetBlob core = .ok decoy.encryptedBlob := by
  simp only [DecryptVaultPayloadForSessionInput.targetBlob, emergency,
    configured, Option.map_some, resolveSessionEncryptedBlob]

/-- In emergency mode the primary payload stays closed exactly when no decoy
blob that respells the primary one opens with the given key, scope, profile
and schema. -/
theorem emergency_decrypt_avoids_primary_iff
    (emergency : input.effectiveMode core = .emergency) :
    AvoidsPrimary platform codec core input ↔
      ∀ decoy, input.record.decoy = some decoy →
        Respells decoy.encryptedBlob input.record.encryptedBlob →
        ∀ parsed, decryptVaultPayloadWithSchema platform codec
          decoy.encryptedBlob input.vaultKey input.scope input.profile
          input.schema ≠ .ok parsed := by
  constructor
  · intro avoids decoy configured respells parsed opened
    have returned : decryptVaultPayloadForSession platform codec core input =
        .ok parsed :=
      (decryptVaultPayloadForSession_emergency emergency).mpr
        ⟨decoy, configured, respells.different, opened⟩
    obtain ⟨target, resolved, -, apart⟩ := avoids parsed returned
    rw [targetBlob_emergency emergency configured] at resolved
    cases resolved
    obtain ⟨bytes, holds, primaryHolds⟩ := respells.same
    exact apart (holds.trans primaryHolds.symm)
  · intro closed parsed returned
    obtain ⟨decoy, configured, different, opened⟩ :=
      (decryptVaultPayloadForSession_emergency emergency).mp returned
    refine ⟨decoy.encryptedBlob, targetBlob_emergency emergency configured,
      opened, ?_⟩
    intro same
    obtain ⟨bytes, holds⟩ := sealedBytes_of_decrypted opened
    exact closed decoy configured
      ⟨⟨bytes, holds, same ▸ holds⟩, different⟩ parsed opened

end Session

namespace Reference

/-- A note sealed under the primary vault key. -/
def noteBlob : EncryptedVaultPayload :=
  { version := encryptionVersion
    alg := encryptionAlg
    iv := bytesToBase64Url referenceIv.val
    ciphertext := bytesToBase64Url (sealed emergencyLedger
      { key := primaryMaterial
        iv := referenceIv.val
        aad := stringToBytes (canonicalAadString (aadWithContext
          (referenceScope.withField .vaultPayload) referenceProfile))
        plaintext := stringToBytes (js "\"note\"") })
    aad := aadWithContext (referenceScope.withField .vaultPayload)
      referenceProfile }

/-- The decoy's blob is the primary one with the padding written out. -/
def respelledRecord : VaultSetupWithDecoy :=
  { emergencyRecord none with
    encryptedBlob := noteBlob
    decoy := some { decoyRecord none with
      encryptedBlob := { noteBlob with
        ciphertext := noteBlob.ciphertext ++ js "==" } } }

def pinnedSession : SessionCore :=
  { emergencyModePinned := true, sessionMode := .emergency }

def sessionDecrypt (record : VaultSetupWithDecoy) :
    DecryptVaultPayloadForSessionInput JsString JsString :=
  { record
    vaultKey := openedKey primaryMaterial
    scope := referenceScope
    profile := referenceProfile
    schema := .ok }

end Reference

/-- A decoy of its own. -/
theorem emergency_decrypt_avoids_primary_iff_decoy :
    AvoidsPrimary Reference.emergencyPlatform stringCodec
        Reference.pinnedSession
        (Reference.sessionDecrypt (Reference.emergencyRecord none)) ↔
      ∀ decoy, (Reference.emergencyRecord none).decoy = some decoy →
        Respells decoy.encryptedBlob
          (Reference.emergencyRecord none).encryptedBlob →
        ∀ parsed, decryptVaultPayloadWithSchema Reference.emergencyPlatform
          stringCodec decoy.encryptedBlob
          (Reference.openedKey Reference.primaryMaterial) referenceScope
          referenceProfile .ok ≠ .ok parsed :=
  emergency_decrypt_avoids_primary_iff rfl

set_option maxRecDepth 4000 in
/-- A record that the schema accepts and whose decoy blob respells the primary
one: the primary key reads the primary note in emergency mode. -/
theorem respelled_primary_decrypted :
    vaultSetupWithDecoySchema Reference.emergencyPlatform
        Reference.respelledRecord = some Reference.respelledRecord ∧
      decryptVaultPayloadForSession Reference.emergencyPlatform stringCodec
        Reference.pinnedSession
        (Reference.sessionDecrypt Reference.respelledRecord) =
          .ok (js "note") ∧
      ¬ AvoidsPrimary Reference.emergencyPlatform stringCodec
        Reference.pinnedSession
        (Reference.sessionDecrypt Reference.respelledRecord) := by
  have returned : decryptVaultPayloadForSession Reference.emergencyPlatform
      stringCodec Reference.pinnedSession
      (Reference.sessionDecrypt Reference.respelledRecord) =
        .ok (js "note") := by
    rfl
  refine ⟨rfl, returned, ?_⟩
  intro avoids
  obtain ⟨target, resolved, -, apart⟩ := avoids _ returned
  cases resolved
  exact apart rfl

end VaultCore
