import VaultCore.Rotation.Password
import VaultCore.Rotation.Recovery
import VaultCore.Session.InnerKeyCache

/-!
# Re-extracting an opened envelope

Rotation, upgrade and caching read the inner blob of an envelope a second
time, under the record the envelope is stored with and not under the context
that opened it.  Everything after that second reading succeeds, so each of
these operations succeeds exactly when the second reading does.
-/

namespace VaultCore

section

variable {platform : Platform} {stored : EncryptedVaultPayload}
  {material : Bytes32} {scope : VaultScope} {profile : VaultCryptoProfile}
  {key vaultKey : CryptoKey}

/-- What opening an envelope tells about its inner blob: the blob restores the
key, and no other blob is ever extracted from the envelope as it is stored. -/
structure Extractable (platform : Platform) (stored : EncryptedVaultPayload)
    (keys : DerivedKeys) (inner : Bytes) (key : CryptoKey) : Prop where
  restored : restoreInnerVaultKey platform inner keys.wrappingKey false =
    .ok key
  only : ∀ other,
    extractInnerVaultKeyBlob platform stored keys.encryptionKey = .ok other →
      other = inner

/-- A second handle of the same vault key. -/
structure SameVaultKey (vaultKey key : CryptoKey) : Prop where
  algorithm : vaultKey.algorithm = .aesGcm
  material : vaultKey.material = key.material

/-- An opened envelope is extractable, and it is extracted as it is stored
exactly when its ciphertext was authenticated under its stored record. -/
theorem extractable_of_unlocked {aadBytes : Bytes}
    (unlocked : unlockVaultKeyEnvelopeWithAadRouting stored scope profile
      (fun candidate => unwrapUserVaultKeyWithDerivedKeys platform candidate
        (derivedKeys material)) = .ok key)
    (authentic : AuthenticatedAs platform stored
      (derivedKeys material).encryptionKey aadBytes) :
    ∃ inner, Extractable platform stored (derivedKeys material) inner key ∧
      (extractInnerVaultKeyBlob platform stored
        (derivedKeys material).encryptionKey = .ok inner ↔
          aadBytes ∈ aadByteCandidates stored.aad) := by
  obtain ⟨candidate, unwrapped, readdressed, -⟩ :=
    unlockVaultKeyEnvelopeWithAadRouting_sound unlocked
  obtain ⟨inner, extracted, restored⟩ :=
    unwrapUserVaultKeyWithDerivedKeys_ok_iff.mp unwrapped
  obtain ⟨text, decrypted, decoded⟩ := Outcome.bind_eq_ok_iff.mp extracted
  have candidateAuthentic : AuthenticatedAs platform candidate
      (derivedKeys material).encryptionKey aadBytes := by
    unfold AuthenticatedAs
    rw [readdressed.iv, readdressed.ciphertext]
    exact authentic
  obtain ⟨sameText, decryptsIff⟩ := decryptField_iff_of_authenticated
    readdressed.iv.symm readdressed.ciphertext.symm candidateAuthentic
    decrypted
  refine ⟨inner, ⟨restored, ?_⟩, ?_⟩
  · intro other otherExtracted
    obtain ⟨otherText, otherDecrypted, otherDecoded⟩ :=
      Outcome.bind_eq_ok_iff.mp otherExtracted
    rw [sameText otherText otherDecrypted, decoded] at otherDecoded
    cases otherDecoded
    rfl
  · rw [← decryptsIff]
    constructor
    · intro again
      obtain ⟨otherText, otherDecrypted, -⟩ :=
        Outcome.bind_eq_ok_iff.mp again
      rw [otherDecrypted, sameText otherText otherDecrypted]
    · intro again
      rw [extractInnerVaultKeyBlob, again, Outcome.ok_bind, decoded]

/-- The wrapping of a restored key, sealed under derived keys, is opened by
them again. -/
theorem encryptInnerVaultKeyBlob_opens (crypto : platform.Lawful) (iv : Iv)
    (newMaterial : Bytes32) {inner : Bytes} {wrappingKey : CryptoKey}
    (restored : restoreInnerVaultKey platform inner wrappingKey false =
      .ok key) (scope : VaultScope) (profile : VaultCryptoProfile) :
    ∃ payload,
      encryptInnerVaultKeyBlob platform iv
        (platform.aesKwWrap (derivedKeys newMaterial).wrappingKey.material
          key.material.val)
        (derivedKeys newMaterial).encryptionKey scope profile = .ok payload ∧
      unlockVaultKeyEnvelopeWithAadRouting payload scope profile
        (fun candidate => unwrapUserVaultKeyWithDerivedKeys platform candidate
          (derivedKeys newMaterial)) = .ok key := by
  obtain ⟨algorithm, handle, -⟩ := restoreInnerVaultKey_ok restored
  have length := restoreInnerVaultKey_length crypto restored
  have encryptable : ∃ payload, encryptInnerVaultKeyBlob platform iv
      (platform.aesKwWrap (derivedKeys newMaterial).wrappingKey.material
        key.material.val)
      (derivedKeys newMaterial).encryptionKey scope profile = .ok payload :=
    encryptField_of_aesGcm rfl
  obtain ⟨payload, encrypted⟩ := encryptable
  refine ⟨payload, encrypted, ?_⟩
  have canonical : payload.aad.scope = (scope.userId, scope.resourceId,
      .vaultKey, .text profile.aadContextEnvelope) := by
    rw [(encryptField_ok encrypted).2]
    rfl
  rw [unlockVaultKeyEnvelopeWithAadRouting_canonical canonical,
    unwrapUserVaultKeyWithDerivedKeys_ok_iff]
  refine ⟨_, extractInnerVaultKeyBlob_encrypted crypto encrypted
    (length_wrap_le crypto key.material) rfl rfl rfl, ?_⟩
  rw [restoreInnerVaultKey_wrap crypto rfl length false, ← algorithm, ← handle]

/-- Re-wrapping an envelope succeeds exactly when its blob is extracted again,
and what it gives opens to the same key. -/
theorem rewrapEncryptedVaultKeyForDerivedKeys_iff (crypto : platform.Lawful)
    {inner : Bytes} (iv : Iv) (newMaterial : Bytes32)
    (extractable : Extractable platform stored (derivedKeys material) inner
      key) (same : SameVaultKey vaultKey key) :
    (∃ payload,
      rewrapEncryptedVaultKeyForDerivedKeys platform iv stored
        (derivedKeys material) (derivedKeys newMaterial) vaultKey scope
        profile = .ok payload ∧
      unlockVaultKeyEnvelopeWithAadRouting payload scope profile
        (fun candidate => unwrapUserVaultKeyWithDerivedKeys platform candidate
          (derivedKeys newMaterial)) = .ok key) ↔
      extractInnerVaultKeyBlob platform stored
        (derivedKeys material).encryptionKey = .ok inner := by
  have rewrapped : rewrapInnerVaultKeyMaterialForWrappingKeys platform inner
      (derivedKeys material).wrappingKey (derivedKeys newMaterial).wrappingKey
      vaultKey = .ok (platform.aesKwWrap
        (derivedKeys newMaterial).wrappingKey.material key.material.val) :=
    rewrapInnerVaultKeyMaterialForWrappingKeys_eq crypto extractable.restored
      same.algorithm same.material rfl
  constructor
  · rintro ⟨payload, success, -⟩
    obtain ⟨other, extracted, -⟩ := Outcome.bind_eq_ok_iff.mp success
    rw [extracted, extractable.only other extracted]
  · intro extracted
    obtain ⟨payload, encrypted, opens⟩ := encryptInnerVaultKeyBlob_opens
      crypto iv newMaterial extractable.restored scope profile
    refine ⟨payload, ?_, opens⟩
    simp only [rewrapEncryptedVaultKeyForDerivedKeys, extracted, rewrapped,
      Outcome.ok_bind, encrypted]

theorem SameVaultKey.authorized (crypto : platform.Lawful)
    {inner : Bytes} {keys : DerivedKeys}
    (same : SameVaultKey vaultKey key)
    (extractable : Extractable platform stored keys inner key)
    (message : String) :
    assertSameVaultKey platform vaultKey key message = .ok () :=
  assertSameVaultKey_of_material crypto same.algorithm
    (restoreInnerVaultKey_ok extractable.restored).1 same.material

theorem rewrapPasswordEnvelope_iff (crypto : platform.Lawful) {inner : Bytes}
    (iv : Iv) (salt : Argon2idSalt) {oldPassword : JsString}
    (newPassword : JsString) {envelope : PasswordEnvelope}
    (message : String)
    (unlocked : unlockWithPasswordEnvelope platform oldPassword envelope scope
      profile = .ok key)
    (derived : deriveVaultPasswordKeyPairFromMetadata platform oldPassword
      envelope.kdfMetadata = .ok (derivedKeys material))
    (extractable : Extractable platform envelope.encryptedVaultKey
      (derivedKeys material) inner key)
    (same : SameVaultKey vaultKey key) :
    (∃ result,
      rewrapPasswordEnvelope platform iv salt vaultKey oldPassword newPassword
        envelope scope profile message = .ok result ∧
      unlockWithPasswordEnvelope platform newPassword result scope profile =
        .ok key) ↔
      extractInnerVaultKeyBlob platform envelope.encryptedVaultKey
        (derivedKeys material).encryptionKey = .ok inner := by
  obtain ⟨newMaterial, metadata, newDerived, kdf, again⟩ :=
    @deriveVaultPasswordKey_random platform newPassword salt
  rw [← rewrapEncryptedVaultKeyForDerivedKeys_iff crypto iv newMaterial
    extractable same]
  simp only [rewrapPasswordEnvelope, unlocked, derived, newDerived,
    same.authorized crypto extractable message, Outcome.ok_bind]
  constructor
  · rintro ⟨result, success, opens⟩
    obtain ⟨payload, rewrapped, built⟩ := Outcome.bind_eq_ok_iff.mp success
    cases built
    refine ⟨payload, rewrapped, ?_⟩
    rwa [unlockWithPasswordEnvelope_eq kdf again] at opens
  · rintro ⟨payload, rewrapped, opens⟩
    refine ⟨{ encryptedVaultKey := payload, kdfMetadata := metadata }, ?_, ?_⟩
    · rw [rewrapped, Outcome.ok_bind]
      rfl
    · rw [unlockWithPasswordEnvelope_eq kdf again]
      exact opens

theorem maybeUpgradeRecoveryEnvelopeAfterUnlock_iff
    (crypto : platform.Lawful) {inner : Bytes} (iv : Iv) (salt : Argon2idSalt)
    {options : MaybeUpgradeRecoveryEnvelopeOptions}
    (recommended : isEnvelopeKdfUpgradeRecommended options.envelope.kdfMetadata
      = true)
    (unlocked : unlockWithRecoveryEnvelope platform options.recoveryPhrase
      options.envelope options.scope options.profile options.expectedWordCount
        = .ok key)
    (derived : deriveRecoveryPhraseKeyFromMetadata platform
      options.recoveryPhrase options.envelope.kdfMetadata =
        .ok (derivedKeys material))
    (extractable : Extractable platform options.envelope.encryptedVaultKey
      (derivedKeys material) inner key)
    (same : SameVaultKey options.vaultKey key) :
    (∃ result upgraded,
      maybeUpgradeRecoveryEnvelopeAfterUnlock platform iv salt options =
        .ok result ∧ result.upgradedEnvelope = some upgraded ∧
      unlockWithRecoveryEnvelope platform options.recoveryPhrase upgraded
        options.scope options.profile options.expectedWordCount = .ok key) ↔
      extractInnerVaultKeyBlob platform options.envelope.encryptedVaultKey
        (derivedKeys material).encryptionKey = .ok inner := by
  obtain ⟨counted, -, valid, -⟩ := unlockWithRecoveryEnvelope_ok unlocked
  obtain ⟨newMaterial, metadata, newDerived, kdf, -, -, again⟩ :=
    deriveRecoveryPhraseKey_valid valid salt
  rw [← rewrapEncryptedVaultKeyForDerivedKeys_iff crypto iv newMaterial
    extractable same]
  simp only [maybeUpgradeRecoveryEnvelopeAfterUnlock, recommended, unlocked,
    derived, newDerived, same.authorized crypto extractable, Bool.not_true,
    Bool.false_eq_true, if_false, Outcome.ok_bind]
  constructor
  · rintro ⟨result, upgraded, success, holds, opens⟩
    obtain ⟨payload, rewrapped, built⟩ := Outcome.bind_eq_ok_iff.mp success
    cases built
    cases holds
    refine ⟨payload, rewrapped, ?_⟩
    rwa [unlockWithRecoveryEnvelope_eq counted kdf again] at opens
  · rintro ⟨payload, rewrapped, opens⟩
    rw [rewrapped, Outcome.ok_bind]
    refine ⟨_, _, rfl, rfl, ?_⟩
    rw [unlockWithRecoveryEnvelope_eq counted kdf again]
    exact opens

theorem assertNewRecoveryPhrase_ok {phrase : JsString}
    {wordCount : RecoveryPhraseWordCount} {confirmation : Option JsString}
    (accepted : assertNewRecoveryPhrase platform phrase wordCount confirmation
      = .ok ()) :
    validateRecoveryPhraseFormat platform phrase = true ∧
      getRecoveryPhraseWordCount platform phrase = some wordCount := by
  unfold assertNewRecoveryPhrase at accepted
  split at accepted
  · cases accepted
  · rename_i valid
    simp only at accepted
    split at accepted
    · cases accepted
    · rename_i counted
      exact ⟨by simpa using valid, not_not.mp counted⟩

theorem assertExpectedWordCount_normalized
    (stable : platform.LowerCaseStable) {phrase : JsString}
    {wordCount : RecoveryPhraseWordCount}
    (valid : validateRecoveryPhraseFormat platform phrase = true)
    (counted : getRecoveryPhraseWordCount platform phrase = some wordCount) :
    assertExpectedWordCount platform phrase (some wordCount) = .ok () := by
  rw [← validateRecoveryPhraseFormat_normalize stable] at valid
  apply (assertExpectedWordCount_ok_iff stable valid).mpr
  rintro expected ⟨⟩
  exact counted

theorem wrapUserVaultKeyWithDerivedKeys_some (crypto : platform.Lawful)
    {inner : Bytes} (iv : Iv) {keys : DerivedKeys}
    (restored : restoreInnerVaultKey platform inner keys.wrappingKey false =
      .ok key)
    (same : SameVaultKey vaultKey key) :
    wrapUserVaultKeyWithDerivedKeys platform iv vaultKey keys scope profile
      (some inner) =
        encryptInnerVaultKeyBlob platform iv inner keys.encryptionKey scope
          profile := by
  have matching := assertInnerVaultKeyBlobMatchesVaultKey_ok crypto restored
    same.algorithm same.material
  simp only [wrapUserVaultKeyWithDerivedKeys, materializeInnerVaultKeyBlob,
    matching, Outcome.ok_bind]
  rfl

theorem rotateRecoveryPhrase_iff (crypto : platform.Lawful)
    (stable : platform.LowerCaseStable) {inner : Bytes} (iv : Iv)
    (salt : Argon2idSalt) (entropy : Bytes)
    {options : RotateRecoveryPhraseOptions}
    (unlocked : unlockWithAuthorization platform options.authorization
      options.scope options.profile = .ok key)
    (authorized : authorizationKeys platform options.authorization =
      .ok (stored, derivedKeys material))
    (extractable : Extractable platform stored (derivedKeys material) inner
      key)
    (same : SameVaultKey options.vaultKey key)
    (accepted : assertNewRecoveryPhrase platform
      (normalizeRecoveryPhrase platform (options.newRecoveryPhrase.getD
        (createRecoveryPhrase platform
          (options.wordCount.getD .twentyFour) entropy)))
      (options.wordCount.getD .twentyFour) options.confirmNewRecoveryPhrase =
        .ok ()) :
    (∃ result,
      rotateRecoveryPhrase platform iv salt entropy options = .ok result ∧
      unlockWithRecoveryEnvelope platform result.recoveryPhrase
        result.envelope options.scope options.profile
        (parseRecoveryPhraseWordCount result.envelope.publicMetadata) =
          .ok key) ↔
      extractInnerVaultKeyBlob platform stored
        (derivedKeys material).encryptionKey = .ok inner := by
  set phrase := normalizeRecoveryPhrase platform
    (options.newRecoveryPhrase.getD (createRecoveryPhrase platform
      (options.wordCount.getD .twentyFour) entropy)) with phrase_eq
  obtain ⟨valid, counted⟩ := assertNewRecoveryPhrase_ok accepted
  have usable : validateRecoveryPhraseFormat platform
      (normalizeRecoveryPhrase platform phrase) = true := by
    rw [validateRecoveryPhraseFormat_normalize stable]
    exact valid
  obtain ⟨newMaterial, metadata, newDerived, kdf, -, saltDecoded, again⟩ :=
    deriveRecoveryPhraseKey_valid usable salt
  have wrapped := rewrapInnerVaultKeyMaterialForWrappingKeys_eq crypto
    extractable.restored same.algorithm same.material
    (rfl : (derivedKeys newMaterial).wrappingKey.algorithm = .aesKw)
  have length := restoreInnerVaultKey_length crypto extractable.restored
  have restoredAgain := restoreInnerVaultKey_wrap crypto
    (rfl : (derivedKeys newMaterial).wrappingKey.algorithm = .aesKw) length
    false
  have sealedAsIs : wrapUserVaultKeyWithDerivedKeys platform iv
      options.vaultKey (derivedKeys newMaterial) options.scope options.profile
      (some _) = _ :=
    wrapUserVaultKeyWithDerivedKeys_some crypto iv restoredAgain
      ⟨same.algorithm, same.material⟩
  obtain ⟨payload, encrypted, opens⟩ := encryptInnerVaultKeyBlob_opens crypto
    iv newMaterial extractable.restored options.scope options.profile
  simp only [rotateRecoveryPhrase, assertVaultRotationAuthorized, unlocked,
    same.authorized crypto extractable, ← phrase_eq, accepted, newDerived,
    saltDecoded, authorized, Outcome.ok_bind]
  constructor
  · rintro ⟨result, success, -⟩
    obtain ⟨other, extracted, -⟩ := Outcome.bind_eq_ok_iff.mp success
    rw [extracted, extractable.only other extracted]
  · intro extracted
    simp only [extracted, wrapped, createRecoveryEnvelope, newDerived,
      sealedAsIs, encrypted, Outcome.ok_bind]
    refine ⟨_, rfl, ?_⟩
    simp only [Option.map_some, parse_phraseLengthMetadata]
    rw [unlockWithRecoveryEnvelope_eq
      (assertExpectedWordCount_normalized stable valid counted) kdf again]
    exact opens

end

end VaultCore
