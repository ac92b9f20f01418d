import VaultCore.Demo.SoundPage
import VaultCore.Emergency.RoutedUnlock

/-!
# The vault that a page creates

A creation that resolves leaves a sound page: its password and its phrase open
the stored record to the new vault key, which the session holds, and the blob
is the first payload, sealed under it.
-/

namespace VaultCore

section Creation

variable {Value : Type} {app : DemoApp Value} {random : EnrollmentRandomness}
  {input : CreateDemoVaultInput} {page started : DemoPage}
  {recoveryPhrase : JsString} {record : VaultSetupWithDecoy}

/-- The handle that the session of a new vault holds. -/
def demoVaultKey (random : EnrollmentRandomness) : CryptoKey :=
  (createUserVaultKey random.vaultKey).restored

/-- What a creation that resolves has done to the page. -/
structure CreatedVault (app : DemoApp Value) (random : EnrollmentRandomness)
    (input : CreateDemoVaultInput) (page : DemoPage)
    (recoveryPhrase : JsString) (record : VaultSetupWithDecoy)
    (started : DemoPage) : Prop where
  phrase : recoveryPhrase = createRecoveryPhrase app.platform
    input.recoveryWordCount random.entropy
  password : createPasswordEnvelope app.platform random.passwordIv
    (createUserVaultKey random.vaultKey) input.vaultPassword
    (vaultScope demoUserId) app.vaultProfile random.passwordSalt.val none =
      .ok record.passwordEnvelope
  recovery : createRecoveryEnvelope app.platform random.recoveryIv
    (createUserVaultKey random.vaultKey) recoveryPhrase
    (vaultScope demoUserId) app.vaultProfile (some input.recoveryWordCount)
    random.recoverySalt.val none = .ok record.recoveryEnvelope
  blob : encryptVaultPayload app.platform app.codec random.payloadIv
    app.emptyPayload (createUserVaultKey random.vaultKey)
    (vaultScope demoUserId) app.vaultProfile = .ok record.encryptedBlob
  passkey : record.passkeyPrfEnvelope = none
  decoy : record.decoy = none
  stored : started.storage.record = some record
  session : ∃ vaultKey, unlockWithPasswordEnvelope app.platform
      input.vaultPassword record.passwordEnvelope (vaultScope demoUserId)
      app.vaultProfile = .ok vaultKey ∧
    Unlocked page.session none vaultKey .primary started.session
  pending : started.pendingRotation = page.pendingRotation

theorem saveVaultRecord_ok {finish : DemoPage}
    (saved : saveVaultRecord app record page = (.ok (), finish)) :
    ∃ parsed, vaultSetupWithDecoySchema app.platform record = some parsed ∧
      finish = { page with
        storage := { page.storage with record := some parsed } } := by
  cases parsing : parseRecord (vaultSetupWithDecoySchema app.platform)
      record with
  | error error =>
      simp only [saveVaultRecord, Sync.within, DemoStorage.saveVaultRecord,
        parsing] at saved
      cases saved
  | ok parsed =>
      have accepted := parseRecord_ok_iff.mp parsing
      refine ⟨parsed, accepted, ?_⟩
      cases full : page.storage.setThrows with
      | true =>
          rw [saveVaultRecord_full accepted full] at saved
          cases saved
      | false =>
          rw [saveVaultRecord_writable accepted full] at saved
          exact (congrArg Prod.snd saved).symm

theorem createPasswordEnvelope_literal {platform : Platform} {iv : Iv}
    {vaultKey : CryptoKey} {password : JsString} {scope : VaultScope}
    {profile : VaultCryptoProfile} {salt : Bytes} {supplied : Option Bytes}
    {envelope : PasswordEnvelope}
    (created : createPasswordEnvelope platform iv vaultKey password scope
      profile salt supplied = .ok envelope) :
    envelope.encryptedVaultKey.aad.order = .literal :=
  wrapUserVaultKeyWithDerivedKeys_literal
    (createPasswordEnvelope_ok created).1

theorem createRecoveryEnvelope_literal {platform : Platform} {iv : Iv}
    {vaultKey : CryptoKey} {phrase : JsString} {scope : VaultScope}
    {profile : VaultCryptoProfile} {salt : Bytes} {supplied : Option Bytes}
    {phraseLength : Option RecoveryPhraseWordCount}
    {envelope : RecoveryPhraseEnvelope}
    (created : createRecoveryEnvelope platform iv vaultKey phrase scope
      profile phraseLength salt supplied = .ok envelope) :
    envelope.encryptedVaultKey.aad.order = .literal :=
  wrapUserVaultKeyWithDerivedKeys_literal
    (createRecoveryEnvelope_ok created).2.1

/-- A record of new envelopes comes out of the schema as it is. -/
theorem createdRecord_literal {passwordEnvelope : PasswordEnvelope}
    {recoveryEnvelope : RecoveryPhraseEnvelope}
    {encryptedBlob : EncryptedVaultPayload} {parsed : VaultSetupWithDecoy}
    (password : createPasswordEnvelope app.platform random.passwordIv
      (createUserVaultKey random.vaultKey) input.vaultPassword
      (vaultScope demoUserId) app.vaultProfile random.passwordSalt.val none =
        .ok passwordEnvelope)
    (recovery : createRecoveryEnvelope app.platform random.recoveryIv
      (createUserVaultKey random.vaultKey) recoveryPhrase
      (vaultScope demoUserId) app.vaultProfile (some input.recoveryWordCount)
      random.recoverySalt.val none = .ok recoveryEnvelope)
    (blob : encryptVaultPayload app.platform app.codec random.payloadIv
      app.emptyPayload (createUserVaultKey random.vaultKey)
      (vaultScope demoUserId) app.vaultProfile = .ok encryptedBlob)
    (accepted : vaultSetupWithDecoySchema app.platform
      { encryptedBlob, passwordEnvelope, recoveryEnvelope
        passkeyPrfEnvelope := none
        decoy := none } = some parsed) :
    parsed =
      { encryptedBlob, passwordEnvelope, recoveryEnvelope
        passkeyPrfEnvelope := none
        decoy := none } := by
  apply vaultSetupWithDecoySchema_literal _ _ _ rfl rfl accepted
  · exact encryptVaultPayload_literal blob
  · exact createPasswordEnvelope_literal password
  · exact createRecoveryEnvelope_literal recovery

theorem createDemoVault_ok
    (created : (createDemoVault app random input).runAlone page =
      (.ok (recoveryPhrase, record), started)) :
    CreatedVault app random input page recoveryPhrase record started := by
  simp only [createDemoVault, Async.runAlone_bind, Async.runAlone_lift,
    Async.runAlone_awaitOutcome, Async.runAlone_await, Async.runAlone_pure]
    at created
  obtain ⟨vaultKey, _, keyed, rest⟩ := Sync.bind_eq_ok_iff.mp created
  cases keyed
  obtain ⟨password, _, creating, rest⟩ := Sync.bind_eq_ok_iff.mp rest
  obtain ⟨passwordCreated, rfl⟩ := Prod.mk.inj creating
  obtain ⟨recovery, _, creating, rest⟩ := Sync.bind_eq_ok_iff.mp rest
  obtain ⟨recoveryCreated, rfl⟩ := Prod.mk.inj creating
  obtain ⟨blob, _, encrypting, rest⟩ := Sync.bind_eq_ok_iff.mp rest
  obtain ⟨encrypted, rfl⟩ := Prod.mk.inj encrypting
  obtain ⟨parsed, _, parsing, rest⟩ := Sync.bind_eq_ok_iff.mp rest
  obtain ⟨accepted, rfl⟩ := Prod.mk.inj parsing
  obtain ⟨_, saved, saving, rest⟩ := Sync.bind_eq_ok_iff.mp rest
  obtain ⟨sessionKey, _, unlocking, rest⟩ := Sync.bind_eq_ok_iff.mp rest
  obtain ⟨unlocked, rfl⟩ := Prod.mk.inj unlocking
  obtain ⟨lease, finish, installing, returned⟩ := Sync.bind_eq_ok_iff.mp rest
  cases returned
  rw [Async.runAlone_within demoSession_settled] at installing
  obtain ⟨unlock, rfl⟩ := Prod.mk.inj installing
  obtain ⟨stored, restored, rfl⟩ := saveVaultRecord_ok saving
  -- the schema runs twice over the record, and leaves it as it is
  obtain rfl := createdRecord_literal passwordCreated recoveryCreated
    encrypted (parseRecord_ok_iff.mp accepted)
  obtain rfl := createdRecord_literal passwordCreated recoveryCreated
    encrypted restored
  have session := unlockVaultSession_unlocked (Prod.ext unlock rfl)
  exact
    { phrase := rfl
      password := passwordCreated
      recovery := recoveryCreated
      blob := encrypted
      passkey := rfl
      decoy := rfl
      stored := rfl
      session := ⟨sessionKey, unlocked, session⟩
      pending := rfl }

variable {offered : Offered Value}

/-- An unlock outside the emergency mode leaves only its key. -/
theorem Unlocked.primaryOnly {session finish : SessionState}
    {vaultKey : CryptoKey}
    (unlocked : Unlocked session none vaultKey .primary finish)
    (unpinned : session.emergencyModePinned = false)
    (normal : session.sessionMode = .normal) :
    PrimaryOnly vaultKey finish.toSessionCore := by
  have fields := SessionCore.installed_none session.toSessionCore vaultKey
    .primary
  rw [← unlocked.core] at fields
  constructor
  case key =>
    intro held same
    rw [fields.vaultKey] at same
    exact (Option.some.inj same).symm
  case role =>
    rw [fields.role]
    decide
  case unpinned =>
    rw [fields.pin, unpinned]
    rfl
  case normal =>
    rw [fields.mode]
    exact normal

namespace CreatedVault

variable
  (vault : CreatedVault app random input page recoveryPhrase record started)

include vault

theorem password_opens (crypto : app.platform.Lawful) :
    unlockWithPasswordEnvelope app.platform input.vaultPassword
      record.passwordEnvelope (vaultScope demoUserId) app.vaultProfile =
        .ok (demoVaultKey random) :=
  createPasswordEnvelope_opens crypto
    (createUserVaultKey_isUserVaultKey random.vaultKey) (.inl rfl)
    vault.password

theorem phrase_opens (crypto : app.platform.Lawful) :
    unlockWithRecoveryEnvelope app.platform recoveryPhrase
      record.recoveryEnvelope (vaultScope demoUserId) app.vaultProfile none =
        .ok (demoVaultKey random) :=
  createRecoveryEnvelope_opens crypto
    (createUserVaultKey_isUserVaultKey random.vaultKey) (.inl rfl)
    vault.recovery

theorem blob_sealed :
    encryptVaultPayload app.platform app.codec random.payloadIv
      app.emptyPayload (demoVaultKey random) (vaultScope demoUserId)
      app.vaultProfile = .ok record.encryptedBlob :=
  (encryptField_restored rfl).trans vault.blob

theorem soundRecord (crypto : app.platform.Lawful)
    (vaultKey : offered.vaultKey = demoVaultKey random)
    (password : offered.passwords input.vaultPassword)
    (phrase : offered.phrases recoveryPhrase)
    (payload : offered.payloads app.emptyPayload)
    (passwordIdeal : SealedForOneKey app.platform
      record.passwordEnvelope.encryptedVaultKey)
    (recoveryIdeal : SealedForOneKey app.platform
      record.recoveryEnvelope.encryptedVaultKey) :
    SoundRecord app offered record := by
  have passwordOpens := vault.password_opens crypto
  have phraseOpens := vault.phrase_opens crypto
  have blob := vault.blob_sealed
  rw [← vaultKey] at passwordOpens phraseOpens blob
  exact
    { password := ⟨⟨_, password, passwordOpens⟩, passwordIdeal,
        createPasswordEnvelope_literal vault.password⟩
      recovery := ⟨⟨_, phrase, phraseOpens⟩, recoveryIdeal,
        createRecoveryEnvelope_literal vault.recovery⟩
      blob := ⟨_, _, payload, blob⟩
      passkey := vault.passkey
      decoy := vault.decoy }

theorem sound (ideal : IdealDemo app offered)
    (vaultKey : offered.vaultKey = demoVaultKey random)
    (whole : SoundRecord app offered record)
    (unpinned : page.session.emergencyModePinned = false)
    (normal : page.session.sessionMode = .normal)
    (nothingPending : page.pendingRotation = none) :
    SoundPage app offered started := by
  constructor
  case session =>
    obtain ⟨installed, opened, session⟩ := vault.session
    have same : installed = offered.vaultKey := by
      rw [vaultKey]
      exact Except.ok.inj
        (opened.symm.trans (vault.password_opens ideal.crypto))
    rw [← same]
    exact session.primaryOnly unpinned normal
  case record =>
    intro stored kept
    rw [vault.stored] at kept
    obtain rfl := Option.some.inj kept
    exact whole
  case pending =>
    intro pending present
    rw [vault.pending, nothingPending] at present
    cases present
  case kept =>
    intro absent
    rw [vault.stored] at absent
    cases absent

end CreatedVault

/-- A page that nothing stands in the way of creates its vault. -/
theorem createDemoVault_resolves (crypto : app.platform.Lawful)
    (generates : app.platform.GeneratesMnemonics)
    (user : app.platform.isUuid demoUserId = true)
    (within : serializedBytes app.codec app.emptyPayload ≤
      maxVaultPlaintextBytes + 1)
    (quiet : page.session.Quiet)
    (allowed : page.session.mutationAllowed none = .ok ())
    (writable : page.storage.setThrows = false) :
    ∃ record started, (createDemoVault app random input).runAlone page =
      (.ok (createRecoveryPhrase app.platform input.recoveryWordCount
        random.entropy, record), started) := by
  have usable := createRecoveryPhrase_usable generates
    input.recoveryWordCount random.entropy
  obtain ⟨password, passwordCreated, passwordAccepted⟩ :=
    @createPasswordEnvelope_schema app.platform random.passwordIv
      (createUserVaultKey random.vaultKey) (vaultScope demoUserId)
      app.vaultProfile crypto user user rfl input.vaultPassword
      random.passwordSalt
  obtain ⟨recovery, recoveryCreated, recoveryAccepted⟩ :=
    @createRecoveryEnvelope_schema app.platform random.recoveryIv
      (createUserVaultKey random.vaultKey) (vaultScope demoUserId)
      app.vaultProfile crypto user user rfl _ _ usable
      (some input.recoveryWordCount) random.recoverySalt
  have encryptable : ∃ blob, encryptVaultPayload app.platform app.codec
      random.payloadIv app.emptyPayload (createUserVaultKey random.vaultKey)
      (vaultScope demoUserId) app.vaultProfile = .ok blob :=
    encryptField_of_aesGcm rfl
  obtain ⟨blob, encrypted⟩ := encryptable
  have blobAccepted : encryptedPayloadSchema app.platform blob = some blob :=
    encryptedPayloadSchema_encryptField crypto encrypted rfl user user within
  obtain ⟨record, record_eq⟩ : ∃ record : VaultSetupWithDecoy, record =
      { encryptedBlob := blob, passwordEnvelope := password
        recoveryEnvelope := recovery, passkeyPrfEnvelope := none
        decoy := none } := ⟨_, rfl⟩
  have accepted : vaultSetupWithDecoySchema app.platform record =
      some record := by
    rw [record_eq]
    simp only [vaultSetupWithDecoySchema, blobAccepted, passwordAccepted,
      recoveryAccepted, nullablePasskeyPrfEnvelopeSchema]
    rfl
  have saved := saveVaultRecord_writable accepted writable
  have opened := createPasswordEnvelope_opens crypto
    (createUserVaultKey_isUserVaultKey random.vaultKey) (.inl rfl)
    passwordCreated
  obtain ⟨lease, finish, installed⟩ := @unlockVaultSession_quiet page.session
    none (createUserVaultKey random.vaultKey).restored .primary quiet allowed
    rfl
  have unlocked : ((unlockVaultSession
      (createUserVaultKey random.vaultKey).restored (some .primary)
      none).within demoSession).runAlone { page with
        storage := { page.storage with record := some record } } =
      (.ok lease, { page with
        storage := { page.storage with record := some record }
        session := finish }) := by
    rw [Async.runAlone_within demoSession_settled]
    simp only [demoSession, installed]
  refine ⟨record, { page with
    storage := { page.storage with record := some record }
    session := finish }, ?_⟩
  simp only [createDemoVault, Async.runAlone_bind, Async.runAlone_lift,
    Async.runAlone_awaitOutcome, Async.runAlone_await, Async.runAlone_pure,
    Sync.bind_apply, Sync.ofExcept_apply, passwordCreated, recoveryCreated,
    encrypted, ← record_eq, parseRecord_ok_iff.mpr accepted, saved, opened,
    unlocked]
  rfl

end Creation

end VaultCore
