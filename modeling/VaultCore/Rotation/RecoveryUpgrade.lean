import VaultCore.Rotation.Soundness

/-!
# The phrase length an upgrade records

An upgraded recovery envelope records how many words its phrase has, and an
unlock that reads the record enforces it.  The length is the one the caller
expects, else the one the metadata of the stored envelope names, else the one
counted.  The first has been compared with the phrase and the last is taken
from it, but the one in the metadata is copied as it stands.
-/

namespace VaultCore

/-- The length of a phrase as a member of metadata. -/
def phraseLengthValue (platform : Platform) (phrase : JsString) : JsValue :=
  .number (.finite (phraseWords platform phrase).length)

/-- The upgraded envelope is opened by its phrase under the length it records,
which is the length of the phrase, and is not upgraded again. -/
structure UpgradeUsable (platform : Platform)
    (options : MaybeUpgradeRecoveryEnvelopeOptions)
    (upgraded : RecoveryPhraseEnvelope) : Prop where
  opens : unlockWithRecoveryEnvelope platform options.recoveryPhrase upgraded
    options.scope options.profile
    (parseRecoveryPhraseWordCount upgraded.publicMetadata) =
      .ok options.vaultKey.restored
  recorded : presentMember upgraded.publicMetadata (js "phraseLength") =
    some (phraseLengthValue platform options.recoveryPhrase)
  settled : ∀ iv salt expectedWordCount,
    maybeUpgradeRecoveryEnvelopeAfterUnlock platform iv salt
      { options with
        envelope := upgraded
        expectedWordCount := expectedWordCount } =
      .ok { upgradedEnvelope := none, upgradeRecommended := false }

/-- The caller expects a length, or the metadata names none or the right
one. -/
def MetadataLengthRight (platform : Platform)
    (options : MaybeUpgradeRecoveryEnvelopeOptions) : Prop :=
  options.expectedWordCount = none →
    ∀ value, presentMember options.envelope.publicMetadata
        (js "phraseLength") = some value →
      value = phraseLengthValue platform options.recoveryPhrase

section

variable {platform : Platform} {phrase : JsString} {iv : Iv}
  {salt : Argon2idSalt} {options : MaybeUpgradeRecoveryEnvelopeOptions}
  {result : MaybeUpgradeRecoveryEnvelopeResult}
  {upgraded : RecoveryPhraseEnvelope}

theorem phraseLengthValue_eq {wordCount : RecoveryPhraseWordCount}
    (counted : getRecoveryPhraseWordCount platform phrase = some wordCount) :
    phraseLengthValue platform phrase = wordCount.value := by
  have length := getRecoveryPhraseWordCount_eq_some_iff.mp counted
  rw [phraseLengthValue, length, RecoveryPhraseWordCount.value]

/-- The length an upgrade records. -/
def recordedPhraseLength (platform : Platform)
    (options : MaybeUpgradeRecoveryEnvelopeOptions) : JsValue :=
  (((options.expectedWordCount.map RecoveryPhraseWordCount.value).or
    (presentMember options.envelope.publicMetadata (js "phraseLength"))).or
    ((getRecoveryPhraseWordCount platform options.recoveryPhrase).map
      RecoveryPhraseWordCount.value)).getD
    RecoveryPhraseWordCount.twentyFour.value

theorem maybeUpgradeRecoveryEnvelopeAfterUnlock_records
    (success : maybeUpgradeRecoveryEnvelopeAfterUnlock platform iv salt
      options = .ok result)
    (renewed : result.upgradedEnvelope = some upgraded) :
    upgraded.publicMetadata =
      some (phraseLengthMetadata (recordedPhraseLength platform options)) := by
  rw [maybeUpgradeRecoveryEnvelopeAfterUnlock] at success
  split at success
  · obtain rfl := Except.ok.inj success
    cases renewed
  · obtain ⟨_, -, rest⟩ := Outcome.bind_eq_ok_iff.mp success
    obtain ⟨_, -, rest⟩ := Outcome.bind_eq_ok_iff.mp rest
    obtain ⟨_, -, rest⟩ := Outcome.bind_eq_ok_iff.mp rest
    obtain ⟨_, -, rest⟩ := Outcome.bind_eq_ok_iff.mp rest
    obtain ⟨_, -, built⟩ := Outcome.bind_eq_ok_iff.mp rest
    obtain rfl := Except.ok.inj built
    obtain rfl := Option.some.inj renewed
    rfl

theorem presentMember_phraseLengthMetadata (value : JsValue) :
    presentMember (some (phraseLengthMetadata value)) (js "phraseLength") =
      if value.isNull then none else some value := by
  have found : (phraseLengthMetadata value).lookup (js "phraseLength") =
      some value := by
    simp [phraseLengthMetadata]
  simp only [presentMember, Option.bind_some, found, Option.filter]
  by_cases null : value.isNull = true
  · simp [null]
  · simp [null]

/-- The recorded length is right exactly when the metadata does not name a
wrong one. -/
theorem recordedPhraseLength_eq_iff {wordCount : RecoveryPhraseWordCount}
    (counted : getRecoveryPhraseWordCount platform options.recoveryPhrase =
      some wordCount)
    (expected : ∀ other, options.expectedWordCount = some other →
      getRecoveryPhraseWordCount platform options.recoveryPhrase =
        some other) :
    recordedPhraseLength platform options =
        phraseLengthValue platform options.recoveryPhrase ↔
      MetadataLengthRight platform options := by
  unfold recordedPhraseLength MetadataLengthRight
  cases given : options.expectedWordCount with
  | some other =>
      simp [phraseLengthValue_eq (expected other given)]
  | none =>
      cases named : presentMember options.envelope.publicMetadata
          (js "phraseLength") with
      | some value => simp
      | none => simp [counted, phraseLengthValue_eq counted]

end

/-- An upgraded envelope stays usable exactly when its length does not come
from metadata that names a wrong one. -/
theorem recovery_upgrade_usable_iff {platform : Platform}
    (crypto : platform.Lawful) (stable : platform.LowerCaseStable) {iv : Iv}
    {salt : Argon2idSalt} {options : MaybeUpgradeRecoveryEnvelopeOptions}
    (probe : platform.IdealProbe options.vaultKey.material)
    {result : MaybeUpgradeRecoveryEnvelopeResult}
    {upgraded : RecoveryPhraseEnvelope}
    (success : maybeUpgradeRecoveryEnvelopeAfterUnlock platform iv salt
      options = .ok result)
    (renewed : result.upgradedEnvelope = some upgraded) :
    UpgradeUsable platform options upgraded ↔
      MetadataLengthRight platform options := by
  obtain ⟨⟨key, unlocked, -⟩, renews⟩ :=
    maybeUpgradeRecoveryEnvelopeAfterUnlock_sound crypto probe success renewed
  obtain ⟨counted, -, valid, -⟩ := unlockWithRecoveryEnvelope_ok unlocked
  have expected := (assertExpectedWordCount_ok_iff stable valid).mp counted
  obtain ⟨wordCount, count⟩ := getRecoveryPhraseWordCount_of_valid
    (validateRecoveryPhraseFormat_normalize stable options.recoveryPhrase ▸
      valid)
  have metadata :=
    maybeUpgradeRecoveryEnvelopeAfterUnlock_records success renewed
  rw [← recordedPhraseLength_eq_iff count expected]
  constructor
  · intro usable
    have recorded := usable.recorded
    rw [metadata, presentMember_phraseLengthMetadata] at recorded
    split_ifs at recorded
    exact Option.some.inj recorded
  · intro right
    rw [right, phraseLengthValue_eq count] at metadata
    have opens : unlockWithRecoveryEnvelope platform options.recoveryPhrase
        upgraded options.scope options.profile options.expectedWordCount =
          .ok options.vaultKey.restored := renews.opens
    obtain ⟨-, kdf, -, material, derived, routed⟩ :=
      unlockWithRecoveryEnvelope_ok opens
    have recounted : assertExpectedWordCount platform options.recoveryPhrase
        (some wordCount) = .ok () := by
      apply (assertExpectedWordCount_ok_iff stable valid).mpr
      intro other same
      rw [count, same]
    constructor
    case opens =>
      rw [metadata, parse_phraseLengthMetadata,
        unlockWithRecoveryEnvelope_eq recounted kdf derived]
      exact routed
    case recorded =>
      rw [metadata, presentMember_phraseLengthMetadata,
        phraseLengthValue_eq count]
      rfl
    case settled =>
      intro iv salt expectedWordCount
      have upToDate : isEnvelopeKdfUpgradeRecommended upgraded.kdfMetadata =
          false := renews.upToDate
      simp only [maybeUpgradeRecoveryEnvelopeAfterUnlock, upToDate,
        Bool.not_false, if_true]

namespace Reference

/-- The platform on which the key of one recovery envelope was sealed. -/
def recoveryPlatform : Platform :=
  (envelopePlatform (stringToBytes recoveryPhrase)).toPlatform

/-- An upgrade of an envelope with an old key derivation, which the caller
expects no length of. -/
def recoveryUpgrade (publicMetadata : Option JsMembers) :
    MaybeUpgradeRecoveryEnvelopeOptions :=
  { vaultKey := openedVaultKey
    recoveryPhrase := recoveryPhrase
    envelope :=
      { encryptedVaultKey := createdEnvelope (stringToBytes recoveryPhrase)
        kdfMetadata := { kdfMetadata with version := .kdfV1 }
        publicMetadata }
    scope := referenceScope
    profile := referenceProfile }

theorem recoveryPlatform_lawful : recoveryPlatform.Lawful :=
  platform_lawful _

theorem recoveryPlatform_lowerCaseStable :
    recoveryPlatform.LowerCaseStable :=
  platform_lowerCaseStable _

theorem recoveryPlatform_idealProbe :
    recoveryPlatform.IdealProbe openedVaultKey.material := by
  have long : (material 7).val.length = 32 := List.length_replicate
  exact envelopeLedger_idealProbe long

theorem deriveFromLegacyMetadata (passwordBytes : Bytes) :
    deriveArgon2idKeyPairFromMetadata recoveryPlatform passwordBytes
      { kdfMetadata with version := .kdfV1 } = .ok (keysOf passwordBytes) :=
  @deriveFromMetadata (envelopeLedger (stringToBytes recoveryPhrase)
    (material 7)) passwordBytes

theorem recoveryUpgrade_resolves (publicMetadata : Option JsMembers) :
    ∃ result upgraded,
      maybeUpgradeRecoveryEnvelopeAfterUnlock recoveryPlatform referenceIv
        salt (recoveryUpgrade publicMetadata) = .ok result ∧
      result.upgradedEnvelope = some upgraded := by
  have unwrapped : unwrapUserVaultKeyWithDerivedKeys recoveryPlatform
      (recoveryUpgrade publicMetadata).envelope.encryptedVaultKey
      (keysOf (stringToBytes recoveryPhrase)) = .ok openedVaultKey := by
    apply unwrap_vaultKeyPayload
    · decide
    · rfl
    · rfl
    · rfl
  obtain ⟨inner, extracted, restored⟩ :=
    unwrapUserVaultKeyWithDerivedKeys_ok_iff.mp unwrapped
  have extractable : Extractable recoveryPlatform
      (recoveryUpgrade publicMetadata).envelope.encryptedVaultKey
      (keysOf (stringToBytes recoveryPhrase)) inner openedVaultKey := by
    refine ⟨restored, ?_⟩
    intro other otherExtracted
    exact Except.ok.inj (otherExtracted.symm.trans extracted)
  have usable : UsableRecoveryPhrase recoveryPlatform .twelve recoveryPhrase :=
    createRecoveryPhrase_usable (platform_generatesMnemonics _) .twelve []
  have derived : deriveRecoveryPhraseKeyFromMetadata recoveryPlatform
      recoveryPhrase (recoveryUpgrade publicMetadata).envelope.kdfMetadata =
        .ok (keysOf (stringToBytes recoveryPhrase)) := by
    simp only [deriveRecoveryPhraseKeyFromMetadata, usable.normalized,
      usable.valid, Bool.not_true, Bool.false_eq_true, if_false]
    exact deriveFromLegacyMetadata _
  have unlocked : unlockWithRecoveryEnvelope recoveryPlatform recoveryPhrase
      (recoveryUpgrade publicMetadata).envelope referenceScope
      referenceProfile none = .ok openedVaultKey := by
    rw [unlockWithRecoveryEnvelope_eq rfl rfl derived,
      unlockVaultKeyEnvelopeWithAadRouting_canonical rfl]
    exact unwrapped
  have recommended : isEnvelopeKdfUpgradeRecommended
      (recoveryUpgrade publicMetadata).envelope.kdfMetadata = true := by
    simp [recoveryUpgrade, isEnvelopeKdfUpgradeRecommended,
      isRecommendedArgon2idMetadata]
  obtain ⟨result, upgraded, success, renewed, -⟩ :=
    (maybeUpgradeRecoveryEnvelopeAfterUnlock_iff recoveryPlatform_lawful
      referenceIv salt recommended unlocked derived extractable
      ⟨rfl, rfl⟩).mpr extracted
  exact ⟨result, upgraded, success, renewed⟩

theorem recoveryUpgrade_accepted (publicMetadata : Option JsMembers) :
    recoveryPhraseEnvelopeSchema recoveryPlatform
        (recoveryUpgrade publicMetadata).envelope =
      some (recoveryUpgrade publicMetadata).envelope := by
  have payload : encryptedPayloadSchema recoveryPlatform
      (createdEnvelope (stringToBytes recoveryPhrase)) =
        some (createdEnvelope (stringToBytes recoveryPhrase)) := by
    decide +kernel
  have metadata : argon2idKdfMetadataSchema
      { kdfMetadata with version := .kdfV1 } =
        some { kdfMetadata with version := .kdfV1 } := by
    decide +kernel
  simp only [recoveryUpgrade, recoveryPhraseEnvelopeSchema, payload, metadata]
  rfl

/-- Metadata that names twenty-four words. -/
def wrongLength : JsMembers :=
  phraseLengthMetadata RecoveryPhraseWordCount.twentyFour.value

theorem phraseLengthValue_recoveryPhrase :
    phraseLengthValue recoveryPlatform recoveryPhrase =
      RecoveryPhraseWordCount.twelve.value := by
  have usable : UsableRecoveryPhrase recoveryPlatform .twelve recoveryPhrase :=
    createRecoveryPhrase_usable (platform_generatesMnemonics _) .twelve []
  exact phraseLengthValue_eq usable.counted

end Reference

/-- An envelope without metadata. -/
theorem recovery_upgrade_usable_iff_unnamed :
    ∃ result upgraded,
      maybeUpgradeRecoveryEnvelopeAfterUnlock Reference.recoveryPlatform
        referenceIv Reference.salt (Reference.recoveryUpgrade none) =
          .ok result ∧
      result.upgradedEnvelope = some upgraded ∧
      (UpgradeUsable Reference.recoveryPlatform
          (Reference.recoveryUpgrade none) upgraded ↔
        MetadataLengthRight Reference.recoveryPlatform
          (Reference.recoveryUpgrade none)) := by
  obtain ⟨result, upgraded, success, renewed⟩ :=
    Reference.recoveryUpgrade_resolves none
  exact ⟨result, upgraded, success, renewed, recovery_upgrade_usable_iff
    Reference.recoveryPlatform_lawful
    Reference.recoveryPlatform_lowerCaseStable
    Reference.recoveryPlatform_idealProbe success renewed⟩

/-- Twelve words under metadata that names twenty-four: the upgrade resolves,
and the owner cannot unlock with the length it records. -/
theorem wrong_length_locks_out :
    ∃ result upgraded,
      recoveryPhraseEnvelopeSchema Reference.recoveryPlatform
          (Reference.recoveryUpgrade (some Reference.wrongLength)).envelope =
        some (Reference.recoveryUpgrade
          (some Reference.wrongLength)).envelope ∧
      maybeUpgradeRecoveryEnvelopeAfterUnlock Reference.recoveryPlatform
        referenceIv Reference.salt
        (Reference.recoveryUpgrade (some Reference.wrongLength)) =
          .ok result ∧
      result.upgradedEnvelope = some upgraded ∧
      parseRecoveryPhraseWordCount upgraded.publicMetadata =
        some .twentyFour ∧
      unlockWithRecoveryEnvelope Reference.recoveryPlatform
          Reference.recoveryPhrase upgraded referenceScope referenceProfile
          (parseRecoveryPhraseWordCount upgraded.publicMetadata) =
        .error (.error ("This vault uses a 24-word recovery phrase. " ++
          "You entered 12 words.")) ∧
      ¬ UpgradeUsable Reference.recoveryPlatform
        (Reference.recoveryUpgrade (some Reference.wrongLength)) upgraded := by
  obtain ⟨result, upgraded, success, renewed⟩ :=
    Reference.recoveryUpgrade_resolves (some Reference.wrongLength)
  have metadata : upgraded.publicMetadata = some Reference.wrongLength :=
    maybeUpgradeRecoveryEnvelopeAfterUnlock_records success renewed
  have named : parseRecoveryPhraseWordCount upgraded.publicMetadata =
      some .twentyFour := by
    rw [metadata]
    exact parse_phraseLengthMetadata .twentyFour
  refine ⟨result, upgraded, Reference.recoveryUpgrade_accepted _, success,
    renewed, named, ?_, ?_⟩
  · rw [named]
    rfl
  · intro usable
    have recorded := usable.recorded
    rw [metadata] at recorded
    have same := Option.some.inj recorded
    rw [Reference.recoveryUpgrade,
      Reference.phraseLengthValue_recoveryPhrase] at same
    cases same

end VaultCore
