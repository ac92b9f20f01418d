import VaultCore.Emergency.Isolation
import VaultCore.Envelopes.RoundTrip

/-!
# Enrolling a decoy

An enrolled decoy has a vault key of its own, a password envelope for the
duress password and a recovery envelope for a generated phrase.  The duress
password opens it, but its payload is read back only within the reader's bound
and only when it is not the primary payload.
-/

namespace VaultCore

structure CreateDecoyVaultSetupInput (Value : Type) where
  duressPassword : JsString
  duressSequence : JsString
  honeyPayload : Value
  scope : VaultScope
  profile : VaultCryptoProfile
  recoveryWordCount : Option RecoveryPhraseWordCount := none

/-- The record of the decoy and its own recovery phrase. -/
structure CreateDecoyVaultSetupResult where
  decoy : VaultDecoyRecord
  decoyRecoveryPhrase : JsString

/-- What an enrollment draws from the random generator. -/
structure EnrollmentRandomness where
  vaultKey : Bytes32
  entropy : Bytes
  passwordSalt : Argon2idSalt
  passwordIv : Iv
  recoverySalt : Argon2idSalt
  recoveryIv : Iv
  payloadIv : Iv

section

variable {Value : Type} (platform : Platform) (codec : JsonCodec Value)

/-- A key of its own, with a password envelope, a recovery envelope and the
sealed payload. -/
def createDecoyVaultSetup (random : EnrollmentRandomness)
    (input : CreateDecoyVaultSetupInput Value) :
    Except VaultError CreateDecoyVaultSetupResult := do
  let recoveryWordCount := input.recoveryWordCount.getD .twelve
  if !containsDuressSequence input.duressPassword input.duressSequence then
    throw (.duressPasswordMissingSequenceError
      "Duress password must contain the configured duress sequence.")
  let decoyVaultKey := createUserVaultKey random.vaultKey
  let decoyRecoveryPhrase := createRecoveryPhrase platform recoveryWordCount
    random.entropy
  let passwordEnvelope ← createPasswordEnvelope platform random.passwordIv
    decoyVaultKey input.duressPassword input.scope input.profile
    random.passwordSalt.val none
  let recoveryEnvelope ← createRecoveryEnvelope platform random.recoveryIv
    decoyVaultKey decoyRecoveryPhrase input.scope input.profile
    (some recoveryWordCount) random.recoverySalt.val none
  let encryptedBlob ← encryptVaultPayload platform codec random.payloadIv
    input.honeyPayload decoyVaultKey input.scope input.profile
  match vaultDecoyRecordSchema platform {
      encryptedBlob, passwordEnvelope, recoveryEnvelope
      passkeyPrfEnvelope := none } with
  | some decoy => return { decoy, decoyRecoveryPhrase }
  | none => throw .zodError

structure DecryptVaultPayloadForSessionInput (Value Parsed : Type) where
  record : VaultSetupWithDecoy
  vaultKey : CryptoKey
  scope : VaultScope
  profile : VaultCryptoProfile
  schema : Schema Value Parsed
  mode : Option VaultSessionMode := none

/-- Decrypts the blob of the mode the session is in. -/
def decryptVaultPayloadForSession {Parsed : Type} (core : SessionCore)
    (input : DecryptVaultPayloadForSessionInput Value Parsed) :
    Except VaultError Parsed := do
  let mode := input.mode.getD core.getVaultSessionMode
  let targetBlob ← resolveSessionEncryptedBlob mode input.record.encryptedBlob
    (input.record.decoy.map VaultDecoyRecord.encryptedBlob)
  assertSessionPayloadDecryptAllowed mode targetBlob
    input.record.encryptedBlob
  decryptVaultPayloadWithSchema platform codec targetBlob input.vaultKey
    input.scope input.profile input.schema

end

section Schema

variable {platform : Platform}

/-- Records that are written with their keys in the order of the schema come
out of it unchanged. -/
theorem vaultDecoyRecordSchema_literal {decoy parsed : VaultDecoyRecord}
    (blob : decoy.encryptedBlob.aad.order = .literal)
    (password : decoy.passwordEnvelope.encryptedVaultKey.aad.order = .literal)
    (recovery : decoy.recoveryEnvelope.encryptedVaultKey.aad.order = .literal)
    (passkey : decoy.passkeyPrfEnvelope = none)
    (accepted : vaultDecoyRecordSchema platform decoy = some parsed) :
    parsed = decoy := by
  obtain ⟨parsedBlob, blobAccepted, afterBlob⟩ :=
    Option.bind_eq_some_iff.mp accepted
  obtain ⟨parsedPassword, passwordAccepted, afterPassword⟩ :=
    Option.bind_eq_some_iff.mp afterBlob
  obtain ⟨parsedRecovery, recoveryAccepted, afterRecovery⟩ :=
    Option.bind_eq_some_iff.mp afterPassword
  obtain ⟨parsedPasskey, passkeyAccepted, built⟩ :=
    Option.bind_eq_some_iff.mp afterRecovery
  obtain ⟨passwordKey, passwordKeyAccepted, passwordRest⟩ :=
    Option.bind_eq_some_iff.mp passwordAccepted
  obtain ⟨passwordKdf, passwordKdfAccepted, passwordBuilt⟩ :=
    Option.bind_eq_some_iff.mp passwordRest
  obtain ⟨recoveryKey, recoveryKeyAccepted, recoveryRest⟩ :=
    Option.bind_eq_some_iff.mp recoveryAccepted
  obtain ⟨recoveryKdf, recoveryKdfAccepted, recoveryBuilt⟩ :=
    Option.bind_eq_some_iff.mp recoveryRest
  rw [passkey] at passkeyAccepted
  cases passkeyAccepted
  cases passwordBuilt
  cases recoveryBuilt
  cases built
  rw [encryptedPayloadSchema_literal blob blobAccepted,
    encryptedPayloadSchema_literal password passwordKeyAccepted,
    encryptedPayloadSchema_literal recovery recoveryKeyAccepted,
    (argon2idKdfMetadataSchema_eq_some passwordKdfAccepted).1,
    (argon2idKdfMetadataSchema_eq_some recoveryKdfAccepted).1, ← passkey]

end Schema

section Enrollment

variable {Value : Type} {platform : Platform} {codec : JsonCodec Value}
  {random : EnrollmentRandomness} {input : CreateDecoyVaultSetupInput Value}
  {result : CreateDecoyVaultSetupResult}

/-- What an enrollment that resolves has created. -/
structure Enrolled (platform : Platform) (codec : JsonCodec Value)
    (random : EnrollmentRandomness) (input : CreateDecoyVaultSetupInput Value)
    (result : CreateDecoyVaultSetupResult) : Prop where
  duress : containsDuressSequence input.duressPassword input.duressSequence =
    true
  phrase : result.decoyRecoveryPhrase = createRecoveryPhrase platform
    (input.recoveryWordCount.getD .twelve) random.entropy
  password : createPasswordEnvelope platform random.passwordIv
    (createUserVaultKey random.vaultKey) input.duressPassword input.scope
    input.profile random.passwordSalt.val none =
      .ok result.decoy.passwordEnvelope
  recovery : createRecoveryEnvelope platform random.recoveryIv
    (createUserVaultKey random.vaultKey) result.decoyRecoveryPhrase
    input.scope input.profile (some (input.recoveryWordCount.getD .twelve))
    random.recoverySalt.val none = .ok result.decoy.recoveryEnvelope
  payload : encryptVaultPayload platform codec random.payloadIv
    input.honeyPayload (createUserVaultKey random.vaultKey) input.scope
    input.profile = .ok result.decoy.encryptedBlob

theorem createDecoyVaultSetup_ok
    (enrolled : createDecoyVaultSetup platform codec random input =
      .ok result) : Enrolled platform codec random input result := by
  unfold createDecoyVaultSetup at enrolled
  simp only at enrolled
  split at enrolled
  · cases enrolled
  · rename_i contained
    obtain ⟨password, passwordCreated, afterPassword⟩ :=
      Outcome.bind_eq_ok_iff.mp enrolled
    obtain ⟨recovery, recoveryCreated, afterRecovery⟩ :=
      Outcome.bind_eq_ok_iff.mp afterPassword
    obtain ⟨blob, encrypted, parsing⟩ :=
      Outcome.bind_eq_ok_iff.mp afterRecovery
    split at parsing
    · rename_i decoy accepted
      cases parsing
      have blobLiteral : blob.aad.order = .literal :=
        @encryptField_literal platform _ _ _
          (input.scope.withField .vaultPayload) _ _ rfl encrypted
      have same := vaultDecoyRecordSchema_literal blobLiteral
        (wrapUserVaultKeyWithDerivedKeys_literal
          (createPasswordEnvelope_ok passwordCreated).1)
        (wrapUserVaultKeyWithDerivedKeys_literal
          (createRecoveryEnvelope_ok recoveryCreated).2.1)
        rfl accepted
      rw [same]
      exact ⟨by simpa using contained, rfl, passwordCreated, recoveryCreated,
        encrypted⟩
    · cases parsing

end Enrollment

section Resolves

variable {platform : Platform}

theorem argon2idKdfMetadataSchema_serialized (salt : Argon2idSalt)
    {metadata : Argon2idKdfMetadata}
    (serialized : serializeArgon2idMetadata salt.val = .ok metadata) :
    argon2idKdfMetadataSchema metadata = some metadata := by
  rw [serializeArgon2idMetadata_eq (assertSafeArgon2idSalt_random salt)]
    at serialized
  cases serialized
  have saltLength : (bytesToBase64Url salt.val).length = 22 := by
    rw [length_bytesToBase64Url, salt.property]
    decide
  have within : textWithin (bytesToBase64Url salt.val) 1 128 = true := by
    rw [textWithin, saltLength]
    decide
  have parameters : (integerWithin recommendedArgon2idParams.memory 8192 262144
      && integerWithin recommendedArgon2idParams.iterations 1 10 &&
      integerWithin recommendedArgon2idParams.parallelism 1 4) = true := by
    decide +kernel
  simp only [Bool.and_eq_true] at parameters
  simp only [argon2idKdfMetadataSchema, within, parameters, beq_self_eq_true,
    Bool.and_self, if_true]

variable {iv : Iv} {vaultKey : CryptoKey} {scope : VaultScope}
  {profile : VaultCryptoProfile}

theorem wrapUserVaultKeyWithDerivedKeys_schema (crypto : platform.Lawful)
    (user : platform.isUuid scope.userId = true)
    (resource : platform.isUuid scope.resourceId = true)
    (exportable : vaultKey.extractable = true) (material : Bytes32) :
    ∃ payload,
      wrapUserVaultKeyWithDerivedKeys platform iv vaultKey
        (derivedKeys material) scope profile none = .ok payload ∧
      encryptedPayloadSchema platform payload = some payload := by
  set inner := platform.aesKwWrap (derivedKeys material).wrappingKey.material
    vaultKey.material.val
  have materialized : materializeInnerVaultKeyBlob platform vaultKey
      (derivedKeys material).wrappingKey none = .ok inner := by
    simp only [materializeInnerVaultKeyBlob, subtleWrapKey, exportable]
    rfl
  have short : inner.length ≤ 40 := length_wrap_le crypto vaultKey.material
  have encryptable : ∃ payload, encryptInnerVaultKeyBlob platform iv inner
      (derivedKeys material).encryptionKey scope profile = .ok payload :=
    encryptField_of_aesGcm rfl
  obtain ⟨payload, encrypted⟩ := encryptable
  refine ⟨payload, ?_, ?_⟩
  · rw [wrapUserVaultKeyWithDerivedKeys, materialized, Outcome.ok_bind,
      encrypted]
  · apply encryptedPayloadSchema_encryptField crypto encrypted rfl user resource
    rw [stringToBytes, Utf8.length_encode_ascii (bytesToBase64Url_ascii inner),
      length_bytesToBase64Url, maxVaultPlaintextBytes]
    split <;> omega

theorem createPasswordEnvelope_schema (crypto : platform.Lawful)
    (user : platform.isUuid scope.userId = true)
    (resource : platform.isUuid scope.resourceId = true)
    (exportable : vaultKey.extractable = true) (password : JsString)
    (salt : Argon2idSalt) :
    ∃ envelope,
      createPasswordEnvelope platform iv vaultKey password scope profile
        salt.val none = .ok envelope ∧
      passwordEnvelopeSchema platform envelope = some envelope := by
  have safeSalt := assertSafeArgon2idSalt_random salt
  obtain ⟨metadata, serialized⟩ : ∃ metadata,
      serializeArgon2idMetadata salt.val = .ok metadata :=
    ⟨_, serializeArgon2idMetadata_eq safeSalt⟩
  obtain ⟨payload, wrapped, accepted⟩ :=
    @wrapUserVaultKeyWithDerivedKeys_schema platform iv vaultKey scope profile
      crypto user resource exportable (platform.argon2id
        (vaultPasswordBytes platform password) salt.val
        recommendedArgon2idParams)
  refine ⟨{ encryptedVaultKey := payload, kdfMetadata := metadata }, ?_, ?_⟩
  · simp only [createPasswordEnvelope, deriveVaultPasswordKey, serialized,
      deriveArgon2idKeyPair_eq assertSafeArgon2idParams_recommended safeSalt,
      Outcome.ok_bind, Outcome.pure_eq_ok, wrapped]
  · simp only [passwordEnvelopeSchema, accepted,
      argon2idKdfMetadataSchema_serialized salt serialized]
    rfl

theorem createRecoveryEnvelope_schema (crypto : platform.Lawful)
    (user : platform.isUuid scope.userId = true)
    (resource : platform.isUuid scope.resourceId = true)
    (exportable : vaultKey.extractable = true) {phrase : JsString}
    {wordCount : RecoveryPhraseWordCount}
    (usable : UsableRecoveryPhrase platform wordCount phrase)
    (phraseLength : Option RecoveryPhraseWordCount) (salt : Argon2idSalt) :
    ∃ envelope,
      createRecoveryEnvelope platform iv vaultKey phrase scope profile
        phraseLength salt.val none = .ok envelope ∧
      recoveryPhraseEnvelopeSchema platform envelope = some envelope := by
  have safeSalt := assertSafeArgon2idSalt_random salt
  obtain ⟨metadata, serialized⟩ : ∃ metadata,
      serializeArgon2idMetadata salt.val = .ok metadata :=
    ⟨_, serializeArgon2idMetadata_eq safeSalt⟩
  obtain ⟨payload, wrapped, accepted⟩ :=
    @wrapUserVaultKeyWithDerivedKeys_schema platform iv vaultKey scope profile
      crypto user resource exportable (platform.argon2id
        (stringToBytes phrase) salt.val recommendedArgon2idParams)
  refine ⟨{ encryptedVaultKey := payload, kdfMetadata := metadata
            publicMetadata := phraseLength.map fun wordCount =>
              phraseLengthMetadata wordCount.value }, ?_, ?_⟩
  · simp only [createRecoveryEnvelope, deriveRecoveryPhraseKey,
      usable.normalized, usable.valid, serialized,
      deriveArgon2idKeyPair_eq assertSafeArgon2idParams_recommended safeSalt,
      Bool.not_true, Bool.false_eq_true, if_false, Outcome.ok_bind,
      Outcome.pure_eq_ok, wrapped]
  · simp only [recoveryPhraseEnvelopeSchema, accepted,
      argon2idKdfMetadataSchema_serialized salt serialized]
    rfl

variable {Value : Type} {codec : JsonCodec Value}

/-- Every enrollment within the schema resolves: the payload may be one byte
longer than the reader's bound. -/
theorem createDecoyVaultSetup_resolves (crypto : platform.Lawful)
    (generates : platform.GeneratesMnemonics)
    {input : CreateDecoyVaultSetupInput Value} (random : EnrollmentRandomness)
    (duress : containsDuressSequence input.duressPassword
      input.duressSequence = true)
    (user : platform.isUuid input.scope.userId = true)
    (resource : platform.isUuid input.scope.resourceId = true)
    (within : serializedBytes codec input.honeyPayload ≤
      maxVaultPlaintextBytes + 1) :
    ∃ result, createDecoyVaultSetup platform codec random input =
      .ok result := by
  set wordCount := input.recoveryWordCount.getD .twelve with wordCount_eq
  have usable := createRecoveryPhrase_usable generates wordCount random.entropy
  obtain ⟨password, passwordCreated, passwordAccepted⟩ :=
    @createPasswordEnvelope_schema platform random.passwordIv
      (createUserVaultKey random.vaultKey) input.scope input.profile crypto
      user resource rfl input.duressPassword random.passwordSalt
  obtain ⟨recovery, recoveryCreated, recoveryAccepted⟩ :=
    @createRecoveryEnvelope_schema platform random.recoveryIv
      (createUserVaultKey random.vaultKey) input.scope input.profile crypto
      user resource rfl _ _ usable (some wordCount) random.recoverySalt
  have encryptable : ∃ blob, encryptVaultPayload platform codec
      random.payloadIv input.honeyPayload (createUserVaultKey random.vaultKey)
      input.scope input.profile = .ok blob := encryptField_of_aesGcm rfl
  obtain ⟨blob, encrypted⟩ := encryptable
  have blobAccepted : encryptedPayloadSchema platform blob = some blob :=
    encryptedPayloadSchema_encryptField crypto encrypted rfl user resource
      within
  obtain ⟨decoy, decoy_eq⟩ : ∃ decoy : VaultDecoyRecord, decoy =
      { encryptedBlob := blob, passwordEnvelope := password
        recoveryEnvelope := recovery, passkeyPrfEnvelope := none } := ⟨_, rfl⟩
  have accepted : vaultDecoyRecordSchema platform decoy = some decoy := by
    rw [decoy_eq]
    simp only [vaultDecoyRecordSchema, blobAccepted, passwordAccepted,
      recoveryAccepted, nullablePasskeyPrfEnvelopeSchema]
    rfl
  refine ⟨{ decoy
            decoyRecoveryPhrase := createRecoveryPhrase platform wordCount
              random.entropy }, ?_⟩
  simp only [createDecoyVaultSetup, duress, passwordCreated, ← wordCount_eq,
    recoveryCreated, encrypted, ← decoy_eq, accepted, Bool.not_true,
    Bool.false_eq_true, if_false, Outcome.ok_bind]
  rfl

end Resolves

section Usable

variable {Value : Type} {platform : Platform} {codec : JsonCodec Value}
  {random : EnrollmentRandomness} {input : CreateDecoyVaultSetupInput Value}
  {result : CreateDecoyVaultSetupResult} {record : VaultSetupWithDecoy}
  {session : SessionState}

/-- An unlock of the record with the duress password. -/
def duressUnlock (input : CreateDecoyVaultSetupInput Value)
    (record : VaultSetupWithDecoy) (emergencyModeActive : Bool)
    (onEmergencyEntered : Option (Except VaultError Unit))
    (operation : Option VaultSessionOperation) :
    EmergencyUnlockPasswordInput :=
  { record
    password := input.duressPassword
    duressSequence := some input.duressSequence
    emergencyModeActive
    scope := input.scope
    profile := input.profile
    onEmergencyEntered
    operation }

/-- The duress password unlocks the decoy, its payload is read back and its
phrase opens the same key. -/
def DecoyUsable (platform : Platform) (codec : JsonCodec Value)
    (input : CreateDecoyVaultSetupInput Value)
    (result : CreateDecoyVaultSetupResult) (record : VaultSetupWithDecoy)
    (decoyKey : CryptoKey) (unlock : EmergencyUnlockPasswordInput)
    (session : SessionState) : Prop :=
  unlock.target session.toSessionCore = .decoy ∧
  ∃ finish,
    (unlockVaultWithPasswordRouting platform unlock).runAlone session =
      (.ok decoyKey.restored, finish) ∧
    finish.sessionVaultKey = some decoyKey.restored ∧
    finish.sessionKeyRole = some .decoy ∧
    finish.emergencyModePinned = true ∧
    (∀ schema : Schema Value Value,
      schema input.honeyPayload = .ok input.honeyPayload →
      decryptVaultPayloadForSession platform codec finish.toSessionCore
        { record
          vaultKey := decoyKey.restored
          scope := input.scope
          profile := input.profile
          schema } = .ok input.honeyPayload) ∧
    unlockWithRecoveryEnvelope platform result.decoyRecoveryPhrase
      result.decoy.recoveryEnvelope input.scope input.profile none =
        .ok decoyKey.restored

theorem duressUnlock_target
    (duress : containsDuressSequence input.duressPassword
      input.duressSequence = true) {active : Bool}
    {callback : Option (Except VaultError Unit)}
    {operation : Option VaultSessionOperation} (core : SessionCore) :
    (duressUnlock input record active callback operation).target core =
      .decoy := by
  have nonempty : input.duressSequence.isEmpty = false := by
    cases written : input.duressSequence with
    | nil =>
        rw [written] at duress
        cases duress
    | cons unit units => rfl
  simp only [EmergencyUnlockPasswordInput.target, duressUnlock,
    resolveVaultUnlockTarget, nonempty, duress, Bool.not_false, Bool.and_true,
    if_true, Bool.false_eq_true, if_false]
  split <;> rfl

/-- In emergency mode the decoy payload is read unless it is the primary
one. -/
theorem decryptVaultPayloadForSession_decoy {Parsed : Type}
    {core : SessionCore} {schema : Schema Value Parsed} {key : CryptoKey}
    {scope : VaultScope} {profile : VaultCryptoProfile}
    {decoy : VaultDecoyRecord}
    (emergency : core.getVaultSessionMode = .emergency)
    (configured : record.decoy = some decoy) {parsed : Parsed} :
    decryptVaultPayloadForSession platform codec core
        { record, vaultKey := key, scope, profile, schema } = .ok parsed ↔
      blobsReferentiallyEqual decoy.encryptedBlob record.encryptedBlob =
          false ∧
        decryptVaultPayloadWithSchema platform codec decoy.encryptedBlob key
          scope profile schema = .ok parsed := by
  simp only [decryptVaultPayloadForSession, Option.getD_none, emergency,
    configured, Option.map_some, resolveSessionEncryptedBlob,
    assertSessionPayloadDecryptAllowed, Outcome.ok_bind]
  cases blobsReferentiallyEqual decoy.encryptedBlob record.encryptedBlob with
  | true => simp
  | false => simp

theorem decryptVaultPayloadWithSchema_iff (crypto : platform.Lawful)
    (lawful : codec.Lawful) {iv : Iv} {vaultKey key : CryptoKey}
    {scope : VaultScope} {profile : VaultCryptoProfile} {payload : Value}
    {encrypted : EncryptedVaultPayload} {schema : Schema Value Value}
    (encryption : encryptVaultPayload platform codec iv payload vaultKey scope
      profile = .ok encrypted)
    (algorithm : key.algorithm = .aesGcm)
    (material : key.material = vaultKey.material)
    (accepting : schema payload = .ok payload) :
    decryptVaultPayloadWithSchema platform codec encrypted key scope profile
        schema = .ok payload ↔
      serializedBytes codec payload ≤ maxVaultPlaintextBytes := by
  have asserted := assertVaultPayloadAad_encrypted encryption
  constructor
  · intro decrypted
    by_contra beyond
    obtain ⟨message, refused⟩ :=
      decryptField_oversized crypto encryption (not_le.mp beyond) key
    simp only [decryptVaultPayloadWithSchema, asserted, refused,
      Outcome.ok_bind, Outcome.error_bind] at decrypted
    cases decrypted
  · intro within
    have decrypted := decryptField_encrypted crypto lawful encryption algorithm
      material within
    have parsed : parseVaultPayload codec
        (serializeVaultPayload codec payload) = .ok payload :=
      lawful.parse_stringify payload
    simp only [decryptVaultPayloadWithSchema, asserted, decrypted, parsed,
      accepting, Outcome.ok_bind]
    rfl

/-- A password that opens what the duress password opens, routed to the decoy,
unlocks it and pins emergency mode. -/
theorem duressUnlock_runs (crypto : platform.Lawful) {password : JsString}
    {active : Bool} {callback : Option (Except VaultError Unit)}
    {operation : Option VaultSessionOperation}
    (created : Enrolled platform codec random input result)
    (configured : record.decoy = some result.decoy)
    (quiet : session.Quiet)
    (allowed : session.mutationAllowed operation = .ok ())
    (returns : callback.getD (.ok ()) = .ok ())
    (opens : ∀ envelope scope profile,
      unlockWithPasswordEnvelope platform input.duressPassword envelope scope
          profile =
        unlockWithPasswordEnvelope platform password envelope scope profile)
    (target : (duressUnlock { input with duressPassword := password } record
      active callback operation).target session.toSessionCore = .decoy) :
    let decoyKey := (createUserVaultKey random.vaultKey).restored
    let unlock := duressUnlock { input with duressPassword := password }
      record active callback operation
    ∃ finish,
      (unlockVaultWithPasswordRouting platform unlock).runAlone session =
        (.ok decoyKey, finish) ∧
      finish.sessionVaultKey = some decoyKey ∧
      finish.sessionKeyRole = some .decoy ∧
      finish.emergencyModePinned = true := by
  intro decoyKey unlock
  have selected : selectPasswordEnvelope unlock.record
      (unlock.target session.toSessionCore) =
        .ok result.decoy.passwordEnvelope := by
    rw [target]
    simp only [selectPasswordEnvelope, requireDecoy, unlock, duressUnlock,
      configured, Outcome.ok_bind]
    rfl
  have opened : unlockWithPasswordEnvelope platform unlock.password
      result.decoy.passwordEnvelope unlock.scope unlock.profile =
        .ok decoyKey := by
    have own := createPasswordEnvelope_opens crypto
      (createUserVaultKey_isUserVaultKey random.vaultKey) (.inl rfl)
      created.password
    rw [opens] at own
    exact own
  obtain ⟨finish, ran⟩ := unlockVaultWithPasswordRouting_quiet quiet allowed
    selected opened rfl returns
  obtain ⟨installedKey, unlocked, -, envelope, chosen, reopened⟩ :=
    @RoutedUnlock.resolves_unlocked platform session finish
      (.password unlock) ⟨_, ran⟩
  have installed : installedKey = decoyKey := by
    have sameEnvelope : result.decoy.passwordEnvelope = envelope :=
      Except.ok.inj (selected.symm.trans chosen)
    rw [← sameEnvelope] at reopened
    exact Except.ok.inj (reopened.symm.trans opened)
  obtain ⟨committed, fields, -⟩ := SessionCore.installed_of_allowed
    unlocked.allowed installedKey (unlock.target session.toSessionCore)
  have core := unlocked.core
  simp only [RoutedUnlock.operation, RoutedUnlock.target] at core fields
  rw [← core, installed, target] at fields
  refine ⟨finish, ran, fields.vaultKey, fields.role, ?_⟩
  rw [fields.pin]
  exact Bool.or_true _

theorem getVaultSessionMode_decoy {core : SessionCore} {key : CryptoKey}
    (held : core.sessionVaultKey = some key)
    (role : core.sessionKeyRole = some .decoy) :
    core.getVaultSessionMode = .emergency := by
  simp [SessionCore.getVaultSessionMode, held, role]

/-- With its own key, in emergency mode, the enrolled payload is read back
exactly when it is not the primary one and within the reader's bound. -/
theorem honeyPayload_read_iff (crypto : platform.Lawful)
    (lawful : codec.Lawful)
    (created : Enrolled platform codec random input result)
    (configured : record.decoy = some result.decoy) {core : SessionCore}
    {schema : Schema Value Value}
    (emergency : core.getVaultSessionMode = .emergency)
    (accepting : schema input.honeyPayload = .ok input.honeyPayload) :
    decryptVaultPayloadForSession platform codec core
        { record
          vaultKey := (createUserVaultKey random.vaultKey).restored
          scope := input.scope
          profile := input.profile
          schema } = .ok input.honeyPayload ↔
      blobsReferentiallyEqual result.decoy.encryptedBlob
          record.encryptedBlob = false ∧
        serializedBytes codec input.honeyPayload ≤ maxVaultPlaintextBytes := by
  rw [decryptVaultPayloadForSession_decoy emergency configured]
  apply and_congr_right
  intro _
  apply decryptVaultPayloadWithSchema_iff crypto lawful created.payload
  · rfl
  · rfl
  · exact accepting

/-- The payload of a usable decoy is not the primary one and within the
reader's bound. -/
theorem DecoyUsable.readable (crypto : platform.Lawful)
    (lawful : codec.Lawful)
    (created : Enrolled platform codec random input result)
    (configured : record.decoy = some result.decoy)
    {unlock : EmergencyUnlockPasswordInput}
    (usable : DecoyUsable platform codec input result record
      (createUserVaultKey random.vaultKey) unlock session) :
    blobsReferentiallyEqual result.decoy.encryptedBlob
        record.encryptedBlob = false ∧
      serializedBytes codec input.honeyPayload ≤ maxVaultPlaintextBytes := by
  obtain ⟨-, finish, -, held, role, -, reads, -⟩ := usable
  have read := reads (fun value => .ok value) rfl
  have emergency := getVaultSessionMode_decoy held role
  exact (honeyPayload_read_iff crypto lawful created configured emergency
    rfl).mp read

/-- An enrolled decoy is usable exactly when its payload is within the
reader's bound and is not the primary payload. -/
theorem decoy_enrollment_usable_iff (crypto : platform.Lawful)
    (lawful : codec.Lawful)
    (enrolled : createDecoyVaultSetup platform codec random input =
      .ok result)
    (configured : record.decoy = some result.decoy)
    (quiet : session.Quiet)
    {active : Bool} {callback : Option (Except VaultError Unit)}
    {operation : Option VaultSessionOperation}
    (allowed : session.mutationAllowed operation = .ok ())
    (returns : callback.getD (.ok ()) = .ok ()) :
    DecoyUsable platform codec input result record
        (createUserVaultKey random.vaultKey)
        (duressUnlock input record active callback operation) session ↔
      serializedBytes codec input.honeyPayload ≤ maxVaultPlaintextBytes ∧
        blobsReferentiallyEqual result.decoy.encryptedBlob
          record.encryptedBlob = false := by
  have created := createDecoyVaultSetup_ok enrolled
  constructor
  · intro usable
    obtain ⟨different, within⟩ := usable.readable crypto lawful created
      configured
    exact ⟨within, different⟩
  · rintro ⟨within, different⟩
    have user := createUserVaultKey_isUserVaultKey random.vaultKey
    have target := @duressUnlock_target Value input record created.duress
      active callback operation session.toSessionCore
    refine ⟨target, ?_⟩
    obtain ⟨finish, ran, held, role, pinned⟩ := duressUnlock_runs crypto
      created configured quiet allowed returns (fun _ _ _ => rfl) target
    refine ⟨finish, ran, held, role, pinned, ?_, ?_⟩
    · intro schema accepting
      have emergency := getVaultSessionMode_decoy held role
      exact (honeyPayload_read_iff crypto lawful created configured emergency
        accepting).mpr ⟨different, within⟩
    · exact createRecoveryEnvelope_opens crypto user (.inl rfl)
        created.recovery

end Usable

namespace Reference

/-- An enrollment of a decoy with the given note. -/
def enrollment (note : JsString) : CreateDecoyVaultSetupInput JsString :=
  { duressPassword := js "open under duress"
    duressSequence := js "duress"
    honeyPayload := note
    scope := referenceScope
    profile := referenceProfile }

def randomness : EnrollmentRandomness :=
  { vaultKey := derive decoyPrf
    entropy := []
    passwordSalt := salt
    passwordIv := referenceIv
    recoverySalt := salt
    recoveryIv := referenceIv
    payloadIv := referenceIv }

def enrolledRecord (decoy : VaultDecoyRecord) : VaultSetupWithDecoy :=
  { emergencyRecord none with decoy := some decoy }

private theorem enrollment_resolves {note : JsString}
    (within : serializedBytes stringCodec note ≤ maxVaultPlaintextBytes + 1) :
    ∃ result, createDecoyVaultSetup (platform []) stringCodec randomness
      (enrollment note) = .ok result := by
  apply createDecoyVaultSetup_resolves (platform_lawful [])
    (platform_generatesMnemonics [])
  · have contained : containsDuressSequence (js "open under duress")
        (js "duress") = true := by decide +kernel
    exact contained
  · rfl
  · rfl
  · exact within

end Reference

/-- A short note. -/
theorem decoy_enrollment_usable_iff_short :
    ∃ result,
      createDecoyVaultSetup (Reference.platform []) stringCodec
        Reference.randomness (Reference.enrollment (js "note")) =
          .ok result ∧
      (DecoyUsable (Reference.platform []) stringCodec
          (Reference.enrollment (js "note")) result
          (Reference.enrolledRecord result.decoy)
          (createUserVaultKey Reference.randomness.vaultKey)
          (duressUnlock (Reference.enrollment (js "note"))
            (Reference.enrolledRecord result.decoy) false none none) {} ↔
        serializedBytes stringCodec (js "note") ≤ maxVaultPlaintextBytes ∧
          blobsReferentiallyEqual result.decoy.encryptedBlob
            (Reference.enrolledRecord result.decoy).encryptedBlob = false) := by
  obtain ⟨result, enrolled⟩ := @Reference.enrollment_resolves (js "note")
    (by decide +kernel)
  exact ⟨result, enrolled, decoy_enrollment_usable_iff
    (Reference.platform_lawful []) stringCodec_lawful enrolled rfl
    Reference.fresh_quiet rfl rfl⟩

/-- A note one byte beyond the reader's bound is enrolled and never read
back. -/
theorem long_honey_payload_not_usable :
    ∃ result,
      createDecoyVaultSetup (Reference.platform []) stringCodec
        Reference.randomness (Reference.enrollment longNote) = .ok result ∧
      ¬ DecoyUsable (Reference.platform []) stringCodec
        (Reference.enrollment longNote) result
        (Reference.enrolledRecord result.decoy)
        (createUserVaultKey Reference.randomness.vaultKey)
        (duressUnlock (Reference.enrollment longNote)
          (Reference.enrolledRecord result.decoy) false none none) {} := by
  have size : serializedBytes stringCodec longNote = 65537 :=
    serializedBytes_letters 65535
  have bound : maxVaultPlaintextBytes = 65536 := by decide
  obtain ⟨result, enrolled⟩ := @Reference.enrollment_resolves longNote (by
    rw [size, bound])
  refine ⟨result, enrolled, ?_⟩
  intro usable
  have created := createDecoyVaultSetup_ok enrolled
  have within := (usable.readable (Reference.platform_lawful [])
    stringCodec_lawful created rfl).2
  have read : serializedBytes stringCodec longNote ≤
      maxVaultPlaintextBytes := within
  rw [size, bound] at read
  omega

end VaultCore
