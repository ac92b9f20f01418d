import VaultCore.Demo.SoundPage

/-!
# The handlers keep the page sound

Each handler reads a record, awaits and writes a record that is sound for
itself, so it does not matter what other handlers wrote in between.
-/

namespace VaultCore

section Handlers

variable {Value : Type} {app : DemoApp Value} {offered : Offered Value}

/-! ## Unlocking, loading and saving -/

theorem SoundPassword.unlocked {envelope : PasswordEnvelope}
    (ideal : SoundPassword app offered envelope)
    {password : JsString} {vaultKey : CryptoKey}
    (opened : unlockWithPasswordEnvelope app.platform password envelope
      (vaultScope demoUserId) app.vaultProfile = .ok vaultKey) :
    vaultKey = offered.vaultKey := by
  obtain ⟨known, -, opens⟩ := ideal.opens
  exact @unlocked_unique app.platform _ _ _ _ (.password known envelope)
    (.password password envelope) ideal.ideal rfl opens opened

theorem SoundRecovery.unlocked {envelope : RecoveryPhraseEnvelope}
    {phrases : JsString → Prop}
    (ideal : SoundRecovery app offered.vaultKey phrases envelope)
    {phrase : JsString} {vaultKey : CryptoKey}
    (opened : unlockWithRecoveryEnvelope app.platform phrase envelope
      (vaultScope demoUserId) app.vaultProfile none = .ok vaultKey) :
    vaultKey = offered.vaultKey := by
  obtain ⟨known, -, opens⟩ := ideal.opens
  exact @unlocked_unique app.platform _ _ _ _ (.recovery known none envelope)
    (.recovery phrase none envelope) ideal.ideal rfl opens opened

theorem demoPasswordUnlock_effects {record : VaultSetupWithDecoy}
    (whole : SoundRecord app offered record) (vaultPassword : JsString)
    {state : SessionState}
    (only : PrimaryOnly offered.vaultKey state.toSessionCore) :
    Effects none (primaryPowers offered.vaultKey)
      (unlockVaultWithPasswordRouting app.platform
        (demoPasswordUnlock app record vaultPassword)) state := by
  have target : (demoPasswordUnlock app record vaultPassword).target
      state.toSessionCore = .primary := by
    simp only [EmergencyUnlockPasswordInput.target, demoPasswordUnlock,
      only.not_emergency, resolveVaultUnlockTarget, Bool.or_self,
      Bool.false_eq_true, if_false]
  have tokenless : (demoPasswordUnlock app record vaultPassword).operation =
      none := rfl
  apply unlockVaultWithPasswordRouting_effects tokenless
  intro envelope vaultKey selected opened
  rw [target] at selected ⊢
  obtain rfl := Except.ok.inj selected
  exact ⟨whole.password.unlocked opened, rfl⟩

theorem keeps_unlockDemoVault (ideal : IdealDemo app offered)
    (vaultPassword : JsString) :
    KeepsPage app offered (SavedPayload app offered)
      (unlockDemoVault app vaultPassword) := by
  apply Async.Upholds.await
  apply keeps_rateLimit
  apply Async.Upholds.bind keeps_requireRecord
  intro record whole
  apply Async.Upholds.bind
  · apply Async.Upholds.await
    exact keeps_session fun state only =>
      demoPasswordUnlock_effects whole vaultPassword only
  · intro _ _
    exact keeps_decryptUnderSessionKey ideal whole

theorem keeps_unlockVaultSession :
    KeepsPage app offered (fun _ => True)
      ((unlockVaultSession offered.vaultKey (some .primary) none).within
        demoSession) :=
  keeps_session fun _ _ => unlockVaultSession_effects ⟨rfl, rfl⟩

theorem keeps_unlockDemoVaultWithRecoveryPhrase
    (ideal : IdealDemo app offered) (recoveryPhrase : JsString) :
    KeepsPage app offered (SavedPayload app offered)
      (unlockDemoVaultWithRecoveryPhrase app recoveryPhrase) := by
  apply Async.Upholds.await
  apply keeps_rateLimit
  apply Async.Upholds.bind keeps_requireRecord
  intro record whole
  apply Async.Upholds.bind (keeps_parsedRecovery whole)
  rintro envelope rfl
  have unlocks : KeepsPage app offered
      (fun vaultKey => vaultKey = offered.vaultKey)
      (Async.awaitOutcome (unlockWithRecoveryEnvelope app.platform
        recoveryPhrase record.recoveryEnvelope (vaultScope demoUserId)
        app.vaultProfile none)) :=
    .awaitOutcome fun vaultKey => whole.recovery.unlocked
  apply Async.Upholds.bind unlocks
  rintro vaultKey rfl
  apply Async.Upholds.bind .get
  intro page sound
  apply Async.Upholds.bind (.awaitOutcome fun value =>
    decryptVaultPayloadForSession_saved ideal sound.session whole)
  intro payload holds
  apply Async.Upholds.bind keeps_unlockVaultSession.await
  intro _ _
  exact .pure holds

/-- No record has a passkey, so the unlock goes no further. -/
theorem keeps_unlockDemoVaultWithPasskey
    (metadataCredentialId : Option JsString)
    (authenticateDemoPasskey : JsString → Except VaultError Bytes) :
    KeepsPage app offered (SavedPayload app offered)
      (unlockDemoVaultWithPasskey app metadataCredentialId
        authenticateDemoPasskey) := by
  apply Async.Upholds.await
  apply keeps_rateLimit
  apply Async.Upholds.bind keeps_loadVaultRecord
  intro stored found
  have absent : (stored.filter fun record =>
      record.passkeyPrfEnvelope.isSome) = none := by
    cases stored with
    | none => rfl
    | some record =>
        have whole := found record rfl
        rw [Option.filter_some, whole.passkey]
        rfl
  rw [absent]
  exact .throw _

theorem keeps_getSessionVaultKey :
    KeepsPage app offered (fun _ => True) (Async.lift getSessionVaultKey) :=
  Async.Upholds.lift fun _ sound => ⟨sound, fun _ _ => trivial⟩

theorem keeps_loadDecryptedDemoPayload (ideal : IdealDemo app offered) :
    KeepsPage app offered (fun loaded => ∀ value, loaded = some value →
        SavedPayload app offered value)
      (loadDecryptedDemoPayload app) := by
  apply Async.Upholds.bind keeps_loadVaultRecord
  intro stored found
  cases stored with
  | none =>
      apply Async.Upholds.pure
      intro value impossible
      cases impossible
  | some record =>
      apply Async.Upholds.bind keeps_getSessionVaultKey
      intro held _
      cases held with
      | none =>
          apply Async.Upholds.pure
          intro value impossible
          cases impossible
      | some vaultKey =>
          apply Async.Upholds.bind
            (keeps_decryptUnderSessionKey ideal (found record rfl))
          intro payload holds
          apply Async.Upholds.pure
          rintro value ⟨⟩
          exact holds

theorem keeps_saveDemoPayload {iv : Iv} {payload : Value}
    (listed : offered.payloads payload) :
    KeepsPage app offered (fun _ => True)
      (saveDemoPayload app iv payload) := by
  apply keeps_recordAndKey
  intro record whole
  apply Async.Upholds.bind (.awaitOutcome fun blob encryption => encryption)
  intro blob encryption
  apply Async.Upholds.bind .get
  intro page sound
  have written : withSavedBlob page.session.toSessionCore record blob =
      { record with encryptedBlob := blob } := by
    rw [withSavedBlob, sound.session.not_emergency]
  rw [written]
  apply Async.Upholds.bind_pure
  · exact keeps_saveVaultRecord
      { whole with blob := ⟨iv, payload, listed, encryption⟩ }
  · intro _ _
    trivial

/-! ## Changing the envelopes -/

/-- Every envelope that the rotation resolves with opens under one key. -/
def RenewsIdeally (platform : Platform) (random : RotationRandomness)
    (rotation : VaultKeyRotation) : Prop :=
  ∀ renewed, rotation.renew platform random.iv random.salt random.entropy =
    .ok (some renewed) → SealedForOneKey platform renewed.encryptedVaultKey

/-- A rotation of the page renews an envelope of the vault key. -/
theorem renewed_sound (ideal : IdealDemo app offered)
    {random : RotationRandomness} {rotation : VaultKeyRotation}
    {renewed : SecretEnvelope}
    (ideally : RenewsIdeally app.platform random rotation)
    (vaultKey : rotation.vaultKey = offered.vaultKey)
    (scope : rotation.scope = vaultScope demoUserId)
    (profile : rotation.profile = app.vaultProfile)
    (resolved : rotation.renew app.platform random.iv random.salt
      random.entropy = .ok (some renewed)) :
    renewed.unlock app.platform (vaultScope demoUserId) app.vaultProfile =
        .ok offered.vaultKey ∧
      SealedForOneKey app.platform renewed.encryptedVaultKey ∧
      renewed.encryptedVaultKey.aad.order = .literal := by
  have probe : app.platform.IdealProbe rotation.vaultKey.material := by
    rw [vaultKey]
    exact ideal.probe
  have renews := (rotation_sound ideal.crypto ideal.stable probe
    resolved).renews
  rw [vaultKey, scope, profile] at renews
  refine ⟨?_, ideally renewed resolved, ?_⟩
  · rw [renews.opens, ideal.handle]
  · rw [renews.aad]
    rfl

theorem keeps_changeDemoVaultPassword (ideal : IdealDemo app offered)
    {random : RotationRandomness} {input : ChangeDemoVaultPasswordInput}
    (listed : offered.passwords input.newPassword)
    (ideally : ∀ envelope, RenewsIdeally app.platform random
      (.rotateVaultPassword
        (demoPasswordRotation app input offered.vaultKey envelope))) :
    KeepsPage app offered (fun _ => True)
      (changeDemoVaultPassword app random input) := by
  apply Async.Upholds.await
  apply keeps_rateLimit
  apply keeps_recordAndKey
  intro record whole
  apply Async.Upholds.bind (keeps_parsedPassword whole)
  rintro envelope rfl
  apply Async.Upholds.bind (.awaitOutcome fun result rotated => rotated)
  intro result rotated
  obtain ⟨opens, sealed, literal⟩ := renewed_sound ideal
    (ideally record.passwordEnvelope) rfl rfl rfl (by
      rw [VaultKeyRotation.renew, rotated, Outcome.ok_bind]
      rfl)
  exact keeps_saveVaultRecord
    { whole with password := ⟨⟨_, listed, opens⟩, sealed, literal⟩ }

theorem keeps_upgradeDemoPasswordEnvelope (ideal : IdealDemo app offered)
    {random : RotationRandomness} {currentPassword : JsString}
    (listed : offered.passwords currentPassword)
    (ideally : ∀ envelope, RenewsIdeally app.platform random
      (.maybeUpgradePasswordEnvelopeAfterUnlock
        (demoPasswordUpgrade app currentPassword offered.vaultKey
          envelope))) :
    KeepsPage app offered (fun _ => True)
      (upgradeDemoPasswordEnvelope app random currentPassword) := by
  apply Async.Upholds.await
  apply keeps_rateLimit
  apply keeps_recordAndKey
  intro record whole
  apply Async.Upholds.bind (keeps_parsedPassword whole)
  rintro envelope rfl
  apply Async.Upholds.bind (.awaitOutcome fun result upgraded => upgraded)
  intro result upgraded
  cases renewed : result.upgradedEnvelope with
  | none => exact .pure trivial
  | some upgradedEnvelope =>
      obtain ⟨opens, sealed, literal⟩ := renewed_sound ideal
        (ideally record.passwordEnvelope) rfl rfl rfl (by
          rw [VaultKeyRotation.renew, upgraded, Outcome.ok_bind, renewed]
          rfl)
      apply Async.Upholds.bind_pure
      · exact keeps_saveVaultRecord
          { whole with password := ⟨⟨_, listed, opens⟩, sealed, literal⟩ }
      · intro _ _
        trivial

theorem keeps_upgradeDemoRecoveryEnvelope (ideal : IdealDemo app offered)
    {random : RotationRandomness} {input : UpgradeDemoRecoveryEnvelopeInput}
    (listed : offered.phrases input.recoveryPhrase)
    (ideally : ∀ envelope, RenewsIdeally app.platform random
      (.maybeUpgradeRecoveryEnvelopeAfterUnlock
        (demoRecoveryUpgrade app input offered.vaultKey envelope))) :
    KeepsPage app offered (fun _ => True)
      (upgradeDemoRecoveryEnvelope app random input) := by
  apply Async.Upholds.await
  apply keeps_rateLimit
  apply keeps_recordAndKey
  intro record whole
  apply Async.Upholds.bind (keeps_parsedRecovery whole)
  rintro envelope rfl
  apply Async.Upholds.bind (.awaitOutcome fun result upgraded => upgraded)
  intro result upgraded
  cases renewed : result.upgradedEnvelope with
  | none => exact .pure trivial
  | some upgradedEnvelope =>
      obtain ⟨opens, sealed, literal⟩ := renewed_sound ideal
        (ideally record.recoveryEnvelope) rfl rfl rfl (by
          rw [VaultKeyRotation.renew, upgraded, Outcome.ok_bind, renewed]
          rfl)
      have recovery : SoundRecovery app offered.vaultKey offered.phrases
          upgradedEnvelope :=
        ⟨⟨_, listed, unlockWithRecoveryEnvelope_uncounted opens⟩, sealed,
          literal⟩
      apply Async.Upholds.bind_pure
      · exact keeps_saveVaultRecord { whole with recovery }
      · intro _ _
        trivial

/-- What a rotation of the phrase resolves with. -/
def SoundRotatedPhrase (app : DemoApp Value) (offered : Offered Value)
    (result : RotateRecoveryPhraseResult) : Prop :=
  SoundRecovery app offered.vaultKey
    (fun phrase => phrase = result.recoveryPhrase) result.envelope

theorem keeps_generateDemoRecoveryRotation (ideal : IdealDemo app offered)
    {random : RotationRandomness} {input : GenerateDemoRecoveryRotationInput}
    (ideally : ∀ envelope, RenewsIdeally app.platform random
      (.rotateRecoveryPhrase
        (demoRecoveryRotation app input offered.vaultKey envelope))) :
    KeepsPage app offered (SoundRotatedPhrase app offered)
      (generateDemoRecoveryRotation app random input) := by
  apply Async.Upholds.await
  apply keeps_rateLimit
  apply keeps_recordAndKey
  intro record whole
  apply Async.Upholds.bind (keeps_parsedPassword whole)
  rintro envelope rfl
  apply Async.Upholds.awaitOutcome
  intro result rotated
  obtain ⟨opens, sealed, literal⟩ := renewed_sound ideal
    (ideally record.passwordEnvelope) rfl rfl rfl (by
      rw [VaultKeyRotation.renew, rotated, Outcome.ok_bind]
      rfl)
  exact ⟨⟨_, rfl, unlockWithRecoveryEnvelope_uncounted opens⟩, sealed,
    literal⟩

theorem keeps_handleGenerate (ideal : IdealDemo app offered)
    {random : RotationRandomness} {input : GenerateDemoRecoveryRotationInput}
    (ideally : ∀ envelope, RenewsIdeally app.platform random
      (.rotateRecoveryPhrase
        (demoRecoveryRotation app input offered.vaultKey envelope))) :
    KeepsPage app offered (fun _ => True)
      (handleGenerate app random input) := by
  apply Async.Upholds.bind
    (keeps_generateDemoRecoveryRotation ideal ideally).await
  intro result rotated
  apply Async.Upholds.lift
  intro page sound
  refine ⟨⟨sound.session, sound.record, ?_, sound.kept⟩, fun _ _ => trivial⟩
  intro pending same
  obtain rfl := Option.some.inj same
  exact rotated

theorem assertRecoveryPhraseConfirmation_ok {platform : Platform}
    {originalPhrase confirmationPhrase : JsString}
    (confirmed : assertRecoveryPhraseConfirmation platform originalPhrase
      confirmationPhrase = .ok ()) :
    normalizeRecoveryPhrase platform originalPhrase =
      normalizeRecoveryPhrase platform confirmationPhrase := by
  by_contra different
  rw [assertRecoveryPhraseConfirmation, if_pos different] at confirmed
  cases confirmed

theorem keeps_commitDemoRecoveryRotation {envelope : RecoveryPhraseEnvelope}
    (recovery : SoundRecovery app offered.vaultKey offered.phrases
      envelope) :
    KeepsPage app offered (fun _ => True)
      (commitDemoRecoveryRotation app envelope) := by
  apply Async.Upholds.bind keeps_requireRecord
  intro record whole
  exact keeps_saveVaultRecord { whole with recovery }

/-- Only a phrase that has been typed again is stored. -/
theorem keeps_handleCommit {confirmPhrase : JsString}
    (listed : offered.phrases confirmPhrase) :
    KeepsPage app offered (fun _ => True)
      (handleCommit app confirmPhrase) := by
  apply Async.Upholds.bind .get
  intro page sound
  cases shown : page.pendingRotation.filter fun pending =>
      !pending.pendingPhrase.isEmpty with
  | none => exact .pure trivial
  | some pending =>
      obtain ⟨opens, sealed, literal⟩ :=
        sound.pending pending (Option.filter_eq_some_iff.mp shown).1
      obtain ⟨_, rfl, opens⟩ := opens
      apply Async.Upholds.bind (.ofExcept fun _ confirmed => confirmed)
      intro _ confirmed
      rw [unlockWithRecoveryEnvelope_congr
        (assertRecoveryPhraseConfirmation_ok confirmed)] at opens
      apply Async.Upholds.bind
      · apply Async.Upholds.await
        exact keeps_commitDemoRecoveryRotation
          ⟨⟨confirmPhrase, listed, opens⟩, sealed, literal⟩
      · intro _ _
        apply Async.Upholds.lift
        intro later laterSound
        refine ⟨⟨laterSound.session, laterSound.record, ?_, laterSound.kept⟩,
          fun _ _ => trivial⟩
        intro pending impossible
        cases impossible

/-! ## Passkeys, deletion and the lock -/

/-- A session key cannot be wrapped for a passkey. -/
theorem createPasskeyPrfEnvelope_hidden {platform : Platform} {iv : Iv}
    {vaultKey : CryptoKey} {prfOutput : Bytes} {scope : VaultScope}
    {profile : VaultCryptoProfile} {envelope : PasskeyPrfEnvelope}
    (hidden : vaultKey.extractable = false) :
    createPasskeyPrfEnvelope platform iv vaultKey prfOutput scope profile
      none ≠ .ok envelope := by
  intro created
  unfold createPasskeyPrfEnvelope at created
  split at created
  · cases created
  · obtain ⟨_, -, rest⟩ := Outcome.bind_eq_ok_iff.mp created
    obtain ⟨_, wrapped, -⟩ := Outcome.bind_eq_ok_iff.mp rest
    obtain ⟨wrappingKey, -, rest⟩ := Outcome.bind_eq_ok_iff.mp wrapped
    obtain ⟨inner, materialized, -⟩ := Outcome.bind_eq_ok_iff.mp rest
    have refused : ∃ error, subtleWrapKey platform vaultKey wrappingKey =
        .error error := by
      unfold subtleWrapKey
      cases wrappingKey.algorithm with
      | aesGcm => exact ⟨_, rfl⟩
      | aesKw =>
          rw [hidden]
          exact ⟨_, rfl⟩
    obtain ⟨error, failed⟩ := refused
    rw [materializeInnerVaultKeyBlob, failed] at materialized
    cases materialized

theorem keeps_linkDemoPasskeyPrf (ideal : IdealDemo app offered) {iv : Iv}
    {registerDemoPasskey : Except VaultError DemoRegistration} :
    KeepsPage app offered (fun _ => True)
      (linkDemoPasskeyPrf app iv registerDemoPasskey) := by
  have hidden : offered.vaultKey.extractable = false := by
    rw [← ideal.handle]
    rfl
  apply keeps_recordAndKey
  intro record whole
  apply Async.Upholds.bind (.awaitOutcome fun _ _ => trivial)
  intro registration _
  apply Async.Upholds.bind (.awaitOutcome fun _ created => created)
  intro envelope created
  exact (createPasskeyPrfEnvelope_hidden hidden created).elim

theorem keeps_clearPasskeyCredentialId :
    KeepsPage app offered (fun _ => True)
      (Async.lift (DemoStorage.clearPasskeyCredentialId.within
        demoStorage)) := by
  apply keeps_storage
  intro storage
  unfold DemoStorage.clearPasskeyCredentialId
  cases storage.removeThrows <;> rfl

theorem keeps_unlinkDemoPasskeyPrf :
    KeepsPage app offered (fun _ => True)
      (Async.lift (unlinkDemoPasskeyPrf app)) := by
  apply Async.Upholds.lift_bind keeps_requireRecord
  intro record whole
  have unlinked : SoundRecord app offered
      { record with passkeyPrfEnvelope := none } :=
    { whole with passkey := rfl }
  apply Async.Upholds.lift_bind (keeps_saveVaultRecord unlinked)
  intro _ _
  exact keeps_clearPasskeyCredentialId

theorem keeps_purgeDemoVault (deletion : offered.deletion) :
    KeepsPage app offered (fun _ => True) (Async.lift purgeDemoVault) := by
  have clears : KeepsPage app offered (fun _ => True)
      (Async.lift (DemoStorage.clearVaultRecord.within demoStorage)) := by
    apply Async.Upholds.lift
    intro page sound
    refine ⟨sound.with_record ?_ fun _ => deletion, fun _ _ => trivial⟩
    intro record kept
    simp only [demoStorage, DemoStorage.clearVaultRecord] at kept
    cases blocked : page.storage.removeThrows with
    | true =>
        simp only [blocked, if_true] at kept
        exact sound.record record kept
    | false =>
        simp only [blocked, Bool.false_eq_true, if_false] at kept
        cases kept
  apply Async.Upholds.lift_bind clears
  intro _ _
  exact keeps_clearPasskeyCredentialId

theorem keeps_assertAllowed :
    KeepsPage app offered (fun _ => True)
      (Async.lift ((assertVaultSessionMutationAllowed none).within
        demoSession)) :=
  keeps_session_code fun _ only => only

theorem keeps_deleteDemoVault (deletion : offered.deletion)
    (currentPassword : JsString) :
    KeepsPage app offered (fun _ => True)
      (deleteDemoVault app currentPassword) := by
  apply Async.Upholds.await
  apply keeps_rateLimit
  apply Async.Upholds.bind keeps_requireRecord
  intro record whole
  apply Async.Upholds.bind (keeps_parsedPassword whole)
  rintro envelope rfl
  apply Async.Upholds.await
  apply Async.Upholds.bind keeps_assertAllowed
  intro _ _
  apply Async.Upholds.bind (.awaitOutcome fun _ _ => trivial)
  intro _ _
  apply Async.Upholds.await
  apply Async.Upholds.bind keeps_assertAllowed
  intro _ _
  apply Async.Upholds.bind (keeps_purgeDemoVault deletion)
  intro _ _
  apply Async.Upholds.bind (.awaitOutcome fun _ _ => trivial)
  intro _ _
  apply keeps_session_code
  intro state only
  have effect : StateEffect none (primaryPowers offered.vaultKey) state _ :=
    lockAndReset_effect state
  exact only.step effect

theorem keeps_lockVaultSession :
    KeepsPage app offered (fun _ => True)
      (Async.lift (lockVaultSession.within demoSession)) := by
  apply keeps_session_code
  intro state only
  rw [lockVaultSession_core]
  exact only.locked

theorem keeps_touchVaultSession :
    KeepsPage app offered (fun _ => True)
      (Async.lift ((touchVaultSession none).within demoSession)) := by
  apply keeps_session_code
  intro state only
  rw [touchVaultSession_core]
  exact only

theorem keeps_hydrateDemoEmergencyFromServer :
    KeepsPage app offered (fun _ => True)
      (Async.lift (hydrateDemoEmergencyFromServer.within demoSession)) := by
  apply keeps_session_code
  intro state only
  have locked := lockVaultSession_core state
  simp only [hydrateDemoEmergencyFromServer, Sync.bind_apply]
  cases ran : lockVaultSession state with
  | mk outcome middle =>
      rw [ran] at locked
      have afterLock : PrimaryOnly offered.vaultKey middle.toSessionCore := by
        rw [locked]
        exact only.locked
      cases outcome with
      | error error => exact afterLock
      | ok _ =>
          have effect : StateEffect none (primaryPowers offered.vaultKey)
              middle (clearEmergencyModePin none middle).2 :=
            clearEmergencyModePin_effect middle fun _ => trivial
          exact afterLock.step effect

end Handlers

end VaultCore
