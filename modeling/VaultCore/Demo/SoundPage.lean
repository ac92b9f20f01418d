import VaultCore.Async.Upholds
import VaultCore.Demo.VaultSecurity
import VaultCore.Rotation.PasswordRetirement
import VaultCore.Session.Segments

/-!
# Sound pages

A page is sound when the record it stores is one that its user can open, and
its session has held no other key.  The parts that the handlers are made of
keep the page sound, whatever has been stored in the meantime.
-/

namespace VaultCore

/-! ## Keys of ideal envelopes -/

section Keys

variable {platform : Platform} {scope : VaultScope}
  {profile : VaultCryptoProfile} {key otherKey vaultKey : CryptoKey}

theorem unlocked_unique {source other : SecretEnvelope}
    (ideal : SealedForOneKey platform source.encryptedVaultKey)
    (same : other.encryptedVaultKey = source.encryptedVaultKey)
    (unlocked : source.unlock platform scope profile = .ok key)
    (otherUnlocked : other.unlock platform scope profile = .ok otherKey) :
    otherKey = key := by
  obtain ⟨sealingKey, ideal⟩ := ideal
  obtain ⟨material, -, opened⟩ := SecretEnvelope.unlock_ok unlocked
  obtain ⟨otherMaterial, -, otherOpened⟩ :=
    SecretEnvelope.unlock_ok otherUnlocked
  rw [same] at otherOpened
  have first := sealingKey_of_routed ideal opened
  have second := sealingKey_of_routed ideal otherOpened
  rw [derivedKeys_injective (second.trans first.symm), opened] at otherOpened
  exact (Except.ok.inj otherOpened).symm

theorem encryptField_restored {iv : Iv} {plaintext : JsString}
    {fieldScope : VaultAadScope} (algorithm : vaultKey.algorithm = .aesGcm) :
    encryptField platform iv plaintext vaultKey.restored fieldScope profile =
      encryptField platform iv plaintext vaultKey fieldScope profile := by
  simp only [encryptField, subtleEncrypt, CryptoKey.restored, algorithm]

variable {phrase other : JsString} {envelope : RecoveryPhraseEnvelope}
  {expectedWordCount : Option RecoveryPhraseWordCount}

/-- An unlock that checks the number of words does nothing more without the
check. -/
theorem unlockWithRecoveryEnvelope_uncounted
    (unlocked : unlockWithRecoveryEnvelope platform phrase envelope scope
      profile expectedWordCount = .ok key) :
    unlockWithRecoveryEnvelope platform phrase envelope scope profile none =
      .ok key := by
  obtain ⟨-, kdf, -, material, derived, opened⟩ :=
    unlockWithRecoveryEnvelope_ok unlocked
  rw [unlockWithRecoveryEnvelope_eq rfl kdf derived]
  exact opened

theorem unlockWithRecoveryEnvelope_congr
    (same : normalizeRecoveryPhrase platform phrase =
      normalizeRecoveryPhrase platform other) :
    unlockWithRecoveryEnvelope platform phrase envelope scope profile none =
      unlockWithRecoveryEnvelope platform other envelope scope profile
        none := by
  simp only [unlockWithRecoveryEnvelope, assertExpectedWordCount,
    deriveRecoveryPhraseKeyFromMetadata, same]

end Keys

/-! ## Records in the order of the schema -/

section Schemas

variable {platform : Platform}

theorem passwordEnvelopeSchema_literal {envelope parsed : PasswordEnvelope}
    (literal : envelope.encryptedVaultKey.aad.order = .literal)
    (accepted : passwordEnvelopeSchema platform envelope = some parsed) :
    parsed = envelope := by
  obtain ⟨payload, schema, rest⟩ := Option.bind_eq_some_iff.mp accepted
  obtain ⟨metadata, kdf, built⟩ := Option.bind_eq_some_iff.mp rest
  cases built
  rw [encryptedPayloadSchema_literal literal schema,
    (argon2idKdfMetadataSchema_eq_some kdf).1]

theorem recoveryPhraseEnvelopeSchema_literal
    {envelope parsed : RecoveryPhraseEnvelope}
    (literal : envelope.encryptedVaultKey.aad.order = .literal)
    (accepted : recoveryPhraseEnvelopeSchema platform envelope =
      some parsed) : parsed = envelope := by
  obtain ⟨payload, schema, rest⟩ := Option.bind_eq_some_iff.mp accepted
  obtain ⟨metadata, kdf, built⟩ := Option.bind_eq_some_iff.mp rest
  cases built
  rw [encryptedPayloadSchema_literal literal schema,
    (argon2idKdfMetadataSchema_eq_some kdf).1]

theorem encryptVaultPayload_literal {Value : Type} {codec : JsonCodec Value}
    {iv : Iv} {payload : Value} {key : CryptoKey} {scope : VaultScope}
    {profile : VaultCryptoProfile} {blob : EncryptedVaultPayload}
    (encrypted : encryptVaultPayload platform codec iv payload key scope
      profile = .ok blob) : blob.aad.order = .literal :=
  @encryptField_literal platform _ _ _ (scope.withField .vaultPayload) _ _
    rfl encrypted

/-- A record without passkey and decoy whose keys are in the order of the
schema comes out of it unchanged. -/
theorem vaultSetupWithDecoySchema_literal {record parsed : VaultSetupWithDecoy}
    (blob : record.encryptedBlob.aad.order = .literal)
    (password : record.passwordEnvelope.encryptedVaultKey.aad.order = .literal)
    (recovery : record.recoveryEnvelope.encryptedVaultKey.aad.order = .literal)
    (passkey : record.passkeyPrfEnvelope = none)
    (decoy : record.decoy = none)
    (accepted : vaultSetupWithDecoySchema platform record = some parsed) :
    parsed = record := by
  obtain ⟨parsedBlob, blobAccepted, afterBlob⟩ :=
    Option.bind_eq_some_iff.mp accepted
  obtain ⟨parsedPassword, passwordAccepted, afterPassword⟩ :=
    Option.bind_eq_some_iff.mp afterBlob
  obtain ⟨parsedRecovery, recoveryAccepted, afterRecovery⟩ :=
    Option.bind_eq_some_iff.mp afterPassword
  obtain ⟨parsedPasskey, passkeyAccepted, afterPasskey⟩ :=
    Option.bind_eq_some_iff.mp afterRecovery
  rw [passkey] at passkeyAccepted
  cases passkeyAccepted
  rw [decoy] at afterPasskey
  cases afterPasskey
  rw [encryptedPayloadSchema_literal blob blobAccepted,
    passwordEnvelopeSchema_literal password passwordAccepted,
    recoveryPhraseEnvelopeSchema_literal recovery recoveryAccepted, ← passkey,
    ← decoy]

theorem parseRecord_ok_iff {α : Type} {schema : α → Option α}
    {record parsed : α} :
    parseRecord schema record = .ok parsed ↔ schema record = some parsed := by
  unfold parseRecord
  cases schema record with
  | none =>
      constructor
      · intro impossible
        cases impossible
      · intro impossible
        cases impossible
  | some other =>
      constructor
      · intro same
        rw [Except.ok.inj same]
      · intro same
        rw [Option.some.inj same]

end Schemas

/-! ## What a run may store -/

/-- The vault key of a run with what its user gave to the page: the passwords
and phrases that may open the record, the payloads that may be in it, and
whether the user deletes it. -/
structure Offered (Value : Type) where
  vaultKey : CryptoKey
  passwords : JsString → Prop
  phrases : JsString → Prop
  payloads : Value → Prop
  deletion : Prop

section Sound

variable {Value : Type}

/-- An offered password opens the envelope to the vault key, and it is sealed
for one key only. -/
structure SoundPassword (app : DemoApp Value) (offered : Offered Value)
    (envelope : PasswordEnvelope) : Prop where
  opens : ∃ password, offered.passwords password ∧
    unlockWithPasswordEnvelope app.platform password envelope
      (vaultScope demoUserId) app.vaultProfile = .ok offered.vaultKey
  ideal : SealedForOneKey app.platform envelope.encryptedVaultKey
  literal : envelope.encryptedVaultKey.aad.order = .literal

/-- The envelope is opened by one of some phrases to the vault key, and to no
other. -/
structure SoundRecovery (app : DemoApp Value) (vaultKey : CryptoKey)
    (phrases : JsString → Prop) (envelope : RecoveryPhraseEnvelope) :
    Prop where
  opens : ∃ phrase, phrases phrase ∧
    unlockWithRecoveryEnvelope app.platform phrase envelope
      (vaultScope demoUserId) app.vaultProfile none = .ok vaultKey
  ideal : SealedForOneKey app.platform envelope.encryptedVaultKey
  literal : envelope.encryptedVaultKey.aad.order = .literal

/-- The blob holds one of the payloads, sealed under the vault key. -/
def SoundBlob (app : DemoApp Value) (offered : Offered Value)
    (blob : EncryptedVaultPayload) : Prop :=
  ∃ iv payload, offered.payloads payload ∧
    encryptVaultPayload app.platform app.codec iv payload offered.vaultKey
      (vaultScope demoUserId) app.vaultProfile = .ok blob

/-- Both envelopes and the blob are sound, and there is no passkey and no
decoy. -/
structure SoundRecord (app : DemoApp Value) (offered : Offered Value)
    (record : VaultSetupWithDecoy) : Prop where
  password : SoundPassword app offered record.passwordEnvelope
  recovery : SoundRecovery app offered.vaultKey offered.phrases
    record.recoveryEnvelope
  blob : SoundBlob app offered record.encryptedBlob
  passkey : record.passkeyPrfEnvelope = none
  decoy : record.decoy = none

/-- Only the vault key was ever installed, and only as the primary one. -/
structure PrimaryOnly (vaultKey : CryptoKey) (core : SessionCore) : Prop where
  key : ∀ installed, core.sessionVaultKey = some installed →
    installed = vaultKey
  role : core.sessionKeyRole ≠ some .decoy
  unpinned : core.emergencyModePinned = false
  normal : core.sessionMode = .normal

/-- The page is as the handlers leave it. -/
structure SoundPage (app : DemoApp Value) (offered : Offered Value)
    (page : DemoPage) : Prop where
  session : PrimaryOnly offered.vaultKey page.session.toSessionCore
  record : ∀ record, page.storage.record = some record →
    SoundRecord app offered record
  pending : ∀ pending, page.pendingRotation = some pending →
    SoundRecovery app offered.vaultKey (fun phrase =>
      phrase = pending.pendingPhrase) pending.pendingEnvelope
  kept : page.storage.record = none → offered.deletion

/-- The value is how the schema reads a payload that was saved. -/
def SavedPayload (app : DemoApp Value) (offered : Offered Value)
    (value : Value) : Prop :=
  ∃ saved, offered.payloads saved ∧
    app.demoVaultPayloadSchema saved = .ok value

end Sound

/-! ## The session -/

section Session

variable {vaultKey : CryptoKey} {core finish : SessionCore}
  {token : Option VaultSessionOperation}

/-- Install the vault key as the primary one, and never pin. -/
def primaryPowers (vaultKey : CryptoKey) : SessionPowers :=
  { installs := fun key role => key = vaultKey ∧ role = .primary
    pins := False
    releases := fun _ => True }

theorem PrimaryOnly.normal_mode (only : PrimaryOnly vaultKey core) :
    core.getVaultSessionMode = .normal := by
  rw [SessionCore.getVaultSessionMode, if_neg (fun both => only.role both.2),
    if_neg (by simp [only.unpinned]), only.normal]

theorem PrimaryOnly.not_emergency (only : PrimaryOnly vaultKey core) :
    core.isVaultEmergencyMode = false := by
  rw [SessionCore.isVaultEmergencyMode, only.normal_mode]
  rfl

theorem PrimaryOnly.locked (only : PrimaryOnly vaultKey core) :
    PrimaryOnly vaultKey core.locked where
  key := by
    intro installed impossible
    cases impossible
  role := by
    intro impossible
    cases impossible
  unpinned := only.unpinned
  normal := only.normal

theorem PrimaryOnly.step (only : PrimaryOnly vaultKey core)
    (effect : SessionEffect token (primaryPowers vaultKey) core finish) :
    PrimaryOnly vaultKey finish := by
  have lock := only.locked
  cases effect with
  | unchanged => exact only
  | locked => exact lock
  | deleted => exact ⟨lock.key, lock.role, lock.unpinned, lock.normal⟩
  | reset => exact ⟨only.key, only.role, only.unpinned, only.normal⟩
  | disowned may => exact ⟨lock.key, lock.role, rfl, rfl⟩
  | begun ownerId sameOwner clean =>
      exact ⟨only.key, only.role, only.unpinned, only.normal⟩
  | purged ownerId may => exact ⟨lock.key, lock.role, rfl, rfl⟩
  | installed key role allowed nonExtractable may =>
      obtain ⟨rfl, rfl⟩ := may
      obtain ⟨_, fields, -⟩ := SessionCore.installed_of_allowed allowed key
        .primary
      constructor
      case key =>
        intro installed same
        rw [fields.vaultKey] at same
        exact (Option.some.inj same).symm
      case role =>
        rw [fields.role]
        decide
      case unpinned =>
        rw [fields.pin, only.unpinned]
        rfl
      case normal =>
        rw [fields.mode]
        exact only.normal
  | cached entry allowed =>
      exact ⟨only.key, only.role, only.unpinned, only.normal⟩
  | uncached allowed =>
      exact ⟨only.key, only.role, only.unpinned, only.normal⟩
  | pinned allowed may => exact may.elim
  | unpinned allowed may => exact ⟨only.key, only.role, rfl, rfl⟩
  | exited allowed may => exact ⟨lock.key, lock.role, rfl, rfl⟩

end Session

/-! ## What a payload is read from -/

/-- The cryptography is ideal, and the vault key is a handle of a session. -/
structure IdealDemo {Value : Type} (app : DemoApp Value)
    (offered : Offered Value) : Prop where
  crypto : app.platform.Lawful
  stable : app.platform.LowerCaseStable
  codec : app.codec.Lawful
  probe : app.platform.IdealProbe offered.vaultKey.material
  handle : offered.vaultKey.restored = offered.vaultKey

section Programs

variable {Value α : Type} {app : DemoApp Value} {offered : Offered Value}

theorem IdealDemo.algorithm (ideal : IdealDemo app offered) :
    offered.vaultKey.algorithm = .aesGcm := by
  rw [← ideal.handle]
  rfl

theorem decryptVaultPayloadWithSchema_saved (ideal : IdealDemo app offered)
    {blob : EncryptedVaultPayload} {value : Value}
    (sound : SoundBlob app offered blob)
    (decrypted : decryptVaultPayloadWithSchema app.platform app.codec blob
      offered.vaultKey (vaultScope demoUserId) app.vaultProfile
      app.demoVaultPayloadSchema = .ok value) :
    SavedPayload app offered value := by
  obtain ⟨iv, saved, listed, encryption⟩ := sound
  obtain ⟨_, -, rest⟩ := Outcome.bind_eq_ok_iff.mp decrypted
  obtain ⟨json, opened, rest⟩ := Outcome.bind_eq_ok_iff.mp rest
  obtain ⟨parsed, read, checked⟩ := Outcome.bind_eq_ok_iff.mp rest
  -- a payload beyond the reader's bound is not read at all
  have within : serializedBytes app.codec saved ≤ maxVaultPlaintextBytes := by
    by_contra beyond
    obtain ⟨message, refused⟩ := decryptField_oversized ideal.crypto
      encryption (not_le.mp beyond) offered.vaultKey
    rw [refused] at opened
    cases opened
  rw [decryptField_encrypted ideal.crypto ideal.codec encryption
    ideal.algorithm rfl within] at opened
  obtain rfl := Except.ok.inj opened
  have same : parsed = saved :=
    Except.ok.inj (read.symm.trans (ideal.codec.parse_stringify saved))
  rw [same] at checked
  refine ⟨saved, listed, ?_⟩
  cases accepted : app.demoVaultPayloadSchema saved with
  | ok data =>
      rw [accepted] at checked
      exact congrArg Except.ok (Except.ok.inj checked)
  | error message =>
      rw [accepted] at checked
      cases checked

theorem decryptVaultPayloadForSession_saved (ideal : IdealDemo app offered)
    {core : SessionCore} {record : VaultSetupWithDecoy} {value : Value}
    (only : PrimaryOnly offered.vaultKey core)
    (sound : SoundRecord app offered record)
    (decrypted : decryptVaultPayloadForSession app.platform app.codec core
      (demoDecryption app record offered.vaultKey) = .ok value) :
    SavedPayload app offered value := by
  obtain ⟨target, resolved, rest⟩ := Outcome.bind_eq_ok_iff.mp decrypted
  obtain ⟨_, -, opened⟩ := Outcome.bind_eq_ok_iff.mp rest
  have mode : (demoDecryption app record offered.vaultKey).mode.getD
      core.getVaultSessionMode = .normal := only.normal_mode
  rw [mode] at resolved
  obtain rfl := Except.ok.inj resolved
  exact decryptVaultPayloadWithSchema_saved ideal sound.blob opened

theorem decryptVaultPayloadWithoutKey_fails {record : VaultSetupWithDecoy}
    {core : SessionCore} {value : Value} :
    decryptVaultPayloadWithoutKey app record core ≠ .ok value := by
  intro decrypted
  obtain ⟨_, -, rest⟩ := Outcome.bind_eq_ok_iff.mp decrypted
  obtain ⟨_, -, rest⟩ := Outcome.bind_eq_ok_iff.mp rest
  obtain ⟨_, -, rest⟩ := Outcome.bind_eq_ok_iff.mp rest
  obtain ⟨_, -, rest⟩ := Outcome.bind_eq_ok_iff.mp rest
  obtain ⟨_, -, impossible⟩ := Outcome.bind_eq_ok_iff.mp rest
  cases impossible

/-! ## Parts of the handlers -/

/-- The program keeps the page sound and returns good values. -/
abbrev KeepsPage (app : DemoApp Value) (offered : Offered Value)
    (good : α → Prop) (program : DemoAsync α) : Prop :=
  Async.Upholds (SoundPage app offered) good program

theorem demoSession_settled : demoSession.Settled :=
  ⟨fun _ _ _ => rfl, fun _ => rfl⟩

theorem SoundPage.with_session {page : DemoPage} {session : SessionState}
    (sound : SoundPage app offered page)
    (only : PrimaryOnly offered.vaultKey session.toSessionCore) :
    SoundPage app offered { page with session } :=
  ⟨only, sound.record, sound.pending, sound.kept⟩

theorem SoundPage.with_record {page : DemoPage} {storage : DemoStorage}
    (sound : SoundPage app offered page)
    (stored : ∀ record, storage.record = some record →
      SoundRecord app offered record)
    (kept : storage.record = none → offered.deletion) :
    SoundPage app offered { page with storage } :=
  ⟨sound.session, stored, sound.pending, kept⟩

/-- A session program that only installs the vault key. -/
theorem keeps_session {program : SessionAsync α}
    (effects : ∀ state : SessionState,
      PrimaryOnly offered.vaultKey state.toSessionCore →
      Effects none (primaryPowers offered.vaultKey) program state) :
    KeepsPage app offered (fun _ => True) (program.within demoSession) := by
  have upholds : Async.Upholds
      (fun state : SessionState =>
        PrimaryOnly offered.vaultKey state.toSessionCore)
      (fun _ => True) program := by
    apply Async.Upholds.of_meets
    · intro state only
      exact effects state only state rfl
    · intro begun finish only effect
      exact only.step effect
  apply upholds.within demoSession_settled
  · intro page sound
    exact sound.session
  · intro page session sound only
    exact sound.with_session only

theorem keeps_session_code {code : SessionSync α}
    (keeps : ∀ state : SessionState,
      PrimaryOnly offered.vaultKey state.toSessionCore →
      PrimaryOnly offered.vaultKey (code state).2.toSessionCore) :
    KeepsPage app offered (fun _ => True)
      (Async.lift (code.within demoSession)) := by
  apply Async.Upholds.lift
  intro page sound
  exact ⟨sound.with_session (keeps page.session sound.session),
    fun _ _ => trivial⟩

theorem keeps_limiter {code : Sync RateLimit.LimiterState VaultError α} :
    KeepsPage app offered (fun _ => True)
      (Async.lift (code.within demoLimiter)) :=
  Async.Upholds.lift fun _ sound =>
    ⟨⟨sound.session, sound.record, sound.pending, sound.kept⟩,
      fun _ _ => trivial⟩

theorem keeps_rateLimit {scopeKey : JsString}
    {action : RateLimit.VaultUnlockRateLimitAction} {attempt : DemoAsync α}
    {good : α → Prop} (keeps : KeepsPage app offered good attempt) :
    KeepsPage app offered good
      (withDemoRateLimit app scopeKey action attempt) := by
  apply Async.Upholds.bind keeps_limiter
  intro _ _
  apply Async.Upholds.tryCatch
  · apply Async.Upholds.bind keeps.await
    intro result holds
    apply Async.Upholds.bind keeps_limiter
    intro _ _
    exact .pure holds
  · intro error
    cases error.isVaultRateLimitError with
    | true => exact .throw error
    | false =>
        apply Async.Upholds.bind keeps_limiter
        intro _ _
        exact .throw error

theorem saveVaultRecord_writable {page : DemoPage}
    {record parsed : VaultSetupWithDecoy}
    (accepted : vaultSetupWithDecoySchema app.platform record = some parsed)
    (writable : page.storage.setThrows = false) :
    saveVaultRecord app record page =
      (.ok (), { page with
        storage := { page.storage with record := some parsed } }) := by
  simp only [saveVaultRecord, Sync.within, DemoStorage.saveVaultRecord,
    demoStorage, parseRecord_ok_iff.mpr accepted, writable,
    Bool.false_eq_true, if_false]

theorem saveVaultRecord_full {page : DemoPage}
    {record parsed : VaultSetupWithDecoy}
    (accepted : vaultSetupWithDecoySchema app.platform record = some parsed)
    (full : page.storage.setThrows = true) :
    saveVaultRecord app record page =
      (.error (.domException "QuotaExceededError"), page) := by
  simp only [saveVaultRecord, Sync.within, DemoStorage.saveVaultRecord,
    demoStorage, parseRecord_ok_iff.mpr accepted, full, if_true]

theorem SoundRecord.literal {record parsed : VaultSetupWithDecoy}
    (sound : SoundRecord app offered record)
    (accepted : vaultSetupWithDecoySchema app.platform record =
      some parsed) : parsed = record := by
  obtain ⟨iv, saved, -, encryption⟩ := sound.blob
  exact vaultSetupWithDecoySchema_literal
    (encryptVaultPayload_literal encryption) sound.password.literal
    sound.recovery.literal sound.passkey sound.decoy accepted

theorem keeps_loadVaultRecord :
    KeepsPage app offered
      (fun found => ∀ record, found = some record →
        SoundRecord app offered record)
      (Async.lift (loadVaultRecord app)) := by
  apply Async.Upholds.lift
  intro page sound
  simp only [loadVaultRecord, Sync.within, DemoStorage.loadVaultRecord]
  split
  · refine ⟨sound.with_record sound.record sound.kept, ?_⟩
    intro value impossible
    cases impossible
  · refine ⟨sound.with_record sound.record sound.kept, ?_⟩
    intro found same record present
    obtain rfl := Except.ok.inj same
    obtain ⟨stored, kept, accepted⟩ := Option.bind_eq_some_iff.mp present
    have whole := sound.record stored kept
    rw [whole.literal accepted]
    exact whole

theorem keeps_requireRecord :
    KeepsPage app offered (SoundRecord app offered)
      (Async.lift (requireRecord app)) := by
  apply Async.Upholds.lift_bind keeps_loadVaultRecord
  intro stored found
  cases stored with
  | none =>
      apply Async.Upholds.lift
      intro page sound
      refine ⟨sound, ?_⟩
      intro value impossible
      cases impossible
  | some record =>
      apply Async.Upholds.lift
      intro page sound
      refine ⟨sound, ?_⟩
      intro value same
      obtain rfl := Except.ok.inj same
      exact found _ rfl

theorem keeps_requireVaultKey :
    KeepsPage app offered (fun vaultKey => vaultKey = offered.vaultKey)
      (Async.lift requireVaultKey) := by
  apply Async.Upholds.lift
  intro page sound
  simp only [requireVaultKey, getSessionVaultKey, Sync.bind_apply,
    Sync.get_apply, Sync.pure_apply]
  cases held : page.session.sessionVaultKey with
  | none =>
      refine ⟨sound, ?_⟩
      intro value impossible
      cases impossible
  | some vaultKey =>
      refine ⟨sound, ?_⟩
      intro value same
      obtain rfl := Except.ok.inj same
      exact sound.session.key _ held

theorem keeps_recordAndKey {good : α → Prop}
    {next : VaultSetupWithDecoy → CryptoKey → DemoAsync α}
    (continues : ∀ record, SoundRecord app offered record →
      KeepsPage app offered good (next record offered.vaultKey)) :
    KeepsPage app offered good (do
      let record ← Async.lift (requireRecord app)
      let vaultKey ← Async.lift requireVaultKey
      next record vaultKey) := by
  apply Async.Upholds.bind keeps_requireRecord
  intro record whole
  apply Async.Upholds.bind keeps_requireVaultKey
  rintro vaultKey rfl
  exact continues record whole

/-- A sound record may be written at any time, whatever is stored by then. -/
theorem keeps_saveVaultRecord {record : VaultSetupWithDecoy}
    (whole : SoundRecord app offered record) :
    KeepsPage app offered (fun _ => True)
      (Async.lift (saveVaultRecord app record)) := by
  apply Async.Upholds.lift
  intro page sound
  refine ⟨?_, fun _ _ => trivial⟩
  cases parsing : parseRecord (vaultSetupWithDecoySchema app.platform)
      record with
  | error error =>
      simp only [saveVaultRecord, Sync.within, DemoStorage.saveVaultRecord,
        parsing]
      exact sound.with_record sound.record sound.kept
  | ok parsed =>
      have accepted := parseRecord_ok_iff.mp parsing
      cases full : page.storage.setThrows with
      | true =>
          rw [saveVaultRecord_full accepted full]
          exact sound
      | false =>
          rw [saveVaultRecord_writable accepted full]
          apply sound.with_record
          · intro stored kept
            obtain rfl := Option.some.inj kept
            rw [whole.literal accepted]
            exact whole
          · intro impossible
            cases impossible

theorem keeps_storage {code : Sync DemoStorage VaultError α}
    (same : ∀ storage, (code storage).2.record = storage.record) :
    KeepsPage app offered (fun _ => True)
      (Async.lift (code.within demoStorage)) := by
  apply Async.Upholds.lift
  intro page sound
  refine ⟨?_, fun _ _ => trivial⟩
  apply sound.with_record
  · intro stored kept
    rw [same] at kept
    exact sound.record stored kept
  · intro absent
    rw [same] at absent
    exact sound.kept absent

/-- What is decrypted for the page is a payload that was saved. -/
theorem keeps_decryptUnderSessionKey (ideal : IdealDemo app offered)
    {record : VaultSetupWithDecoy} (whole : SoundRecord app offered record) :
    KeepsPage app offered (SavedPayload app offered)
      (decryptUnderSessionKey app record) := by
  apply Async.Upholds.bind .get
  intro page sound
  apply Async.Upholds.awaitOutcome
  intro value decrypted
  cases held : page.session.sessionVaultKey with
  | none =>
      simp only [held] at decrypted
      exact (decryptVaultPayloadWithoutKey_fails decrypted).elim
  | some vaultKey =>
      simp only [held] at decrypted
      obtain rfl := sound.session.key vaultKey held
      exact decryptVaultPayloadForSession_saved ideal sound.session whole
        decrypted

theorem keeps_parsedPassword {record : VaultSetupWithDecoy}
    (whole : SoundRecord app offered record) :
    KeepsPage app offered (fun envelope => envelope = record.passwordEnvelope)
      (Async.lift (Sync.ofExcept (parseRecord
        (passwordEnvelopeSchema app.platform) record.passwordEnvelope))) :=
  .ofExcept fun _ parsed => passwordEnvelopeSchema_literal
    whole.password.literal (parseRecord_ok_iff.mp parsed)

theorem keeps_parsedRecovery {record : VaultSetupWithDecoy}
    (whole : SoundRecord app offered record) :
    KeepsPage app offered (fun envelope => envelope = record.recoveryEnvelope)
      (Async.lift (Sync.ofExcept (parseRecord
        (recoveryPhraseEnvelopeSchema app.platform)
        record.recoveryEnvelope))) :=
  .ofExcept fun _ parsed => recoveryPhraseEnvelopeSchema_literal
    whole.recovery.literal (parseRecord_ok_iff.mp parsed)

end Programs

end VaultCore
