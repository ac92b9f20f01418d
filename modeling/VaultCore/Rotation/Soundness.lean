import VaultCore.Envelopes.RoundTrip
import VaultCore.Rotation.EnvelopeReuse

/-!
# Rotations and upgrades are sound

A rotation compares the key in memory with the one its authorization opens,
takes the inner blob out of the stored envelope and compares again before the
blob is wrapped anew.  Whatever the stored envelope looked like, an envelope
that comes out wraps the key in memory under the new secret.
-/

namespace VaultCore

/-- A call that may replace an envelope. -/
inductive VaultKeyRotation where
  | rotateVaultPassword (options : RotateVaultPasswordOptions)
  | rotateRecoveryPhrase (options : RotateRecoveryPhraseOptions)
  | maybeUpgradePasswordEnvelopeAfterUnlock
      (options : MaybeUpgradePasswordEnvelopeOptions)
  | maybeUpgradeRecoveryEnvelopeAfterUnlock
      (options : MaybeUpgradeRecoveryEnvelopeOptions)

namespace VaultKeyRotation

def vaultKey : VaultKeyRotation → CryptoKey
  | .rotateVaultPassword options => options.vaultKey
  | .rotateRecoveryPhrase options => options.vaultKey
  | .maybeUpgradePasswordEnvelopeAfterUnlock options => options.vaultKey
  | .maybeUpgradeRecoveryEnvelopeAfterUnlock options => options.vaultKey

/-- The scope that the rotation seals for. -/
def scope : VaultKeyRotation → VaultScope
  | .rotateVaultPassword options => options.scope
  | .rotateRecoveryPhrase options => options.scope
  | .maybeUpgradePasswordEnvelopeAfterUnlock options => options.scope
  | .maybeUpgradeRecoveryEnvelopeAfterUnlock options => options.scope

def profile : VaultKeyRotation → VaultCryptoProfile
  | .rotateVaultPassword options => options.profile
  | .rotateRecoveryPhrase options => options.profile
  | .maybeUpgradePasswordEnvelopeAfterUnlock options => options.profile
  | .maybeUpgradeRecoveryEnvelopeAfterUnlock options => options.profile

/-- The envelope that authorizes the call, with its secret. -/
def source : VaultKeyRotation → SecretEnvelope
  | .rotateVaultPassword options =>
      .password options.currentPassword options.currentEnvelope
  | .rotateRecoveryPhrase options => options.authorization.source
  | .maybeUpgradePasswordEnvelopeAfterUnlock options =>
      .password options.vaultPassword options.envelope
  | .maybeUpgradeRecoveryEnvelopeAfterUnlock options =>
      .recovery options.recoveryPhrase options.expectedWordCount
        options.envelope

/-- The new envelope a call resolves with, with the secret it is for. -/
def renew (platform : Platform) (iv : Iv) (salt : Argon2idSalt)
    (entropy : Bytes) :
    VaultKeyRotation → Except VaultError (Option SecretEnvelope)
  | .rotateVaultPassword options => do
      let result ← VaultCore.rotateVaultPassword platform iv salt options
      return some (.password options.newPassword result.envelope)
  | .rotateRecoveryPhrase options => do
      let result ← VaultCore.rotateRecoveryPhrase platform iv salt entropy
        options
      return some (.recovery result.recoveryPhrase
        (some (options.wordCount.getD .twentyFour)) result.envelope)
  | .maybeUpgradePasswordEnvelopeAfterUnlock options => do
      let result ← VaultCore.maybeUpgradePasswordEnvelopeAfterUnlock platform
        iv salt options
      return result.upgradedEnvelope.map (.password options.vaultPassword)
  | .maybeUpgradeRecoveryEnvelopeAfterUnlock options => do
      let result ← VaultCore.maybeUpgradeRecoveryEnvelopeAfterUnlock platform
        iv salt options
      return result.upgradedEnvelope.map
        (.recovery options.recoveryPhrase options.expectedWordCount)

/-- What is promised of a phrase that a call hands out. -/
def PhraseUsable (platform : Platform) (rotation : VaultKeyRotation)
    (renewed : SecretEnvelope) : Prop :=
  match rotation, renewed with
  | .rotateRecoveryPhrase options, .recovery recoveryPhrase _ _ =>
      UsableRecoveryPhrase platform (options.wordCount.getD .twentyFour)
        recoveryPhrase
  | _, _ => True

end VaultKeyRotation

/-- The key derivation of the envelope is up to date. -/
def SecretEnvelope.UpToDate : SecretEnvelope → Prop
  | .password _ envelope =>
      isEnvelopeKdfUpgradeRecommended envelope.kdfMetadata = false
  | .recovery _ _ envelope =>
      isEnvelopeKdfUpgradeRecommended envelope.kdfMetadata = false
  | .passkeyPrf _ _ => True

/-- The envelope is opened by its secret to the vault key, in a handle that
cannot be exported, and needs no further upgrade. -/
structure Renews (platform : Platform) (scope : VaultScope)
    (profile : VaultCryptoProfile) (vaultKey : CryptoKey)
    (renewed : SecretEnvelope) : Prop where
  opens : renewed.unlock platform scope profile = .ok vaultKey.restored
  aad : renewed.encryptedVaultKey.aad =
    aadWithContext (scope.withField .vaultKey) profile
  upToDate : renewed.UpToDate

/-- What a rotation has checked, and what it leaves. -/
structure SoundRotation (platform : Platform) (rotation : VaultKeyRotation)
    (renewed : SecretEnvelope) : Prop where
  authorized : ∃ key, rotation.source.unlock platform rotation.scope
    rotation.profile = .ok key ∧ SameVaultKey rotation.vaultKey key
  renews : Renews platform rotation.scope rotation.profile rotation.vaultKey
    renewed
  readable : ∀ payload, decryptField platform payload
    rotation.vaultKey.restored = decryptField platform payload
      rotation.vaultKey
  phrase : rotation.PhraseUsable platform renewed

section Comparison

variable {platform : Platform} {a b vaultKey key : CryptoKey}
  {scope : VaultScope} {profile : VaultCryptoProfile} {message : String}

/-- A comparison with a handle that cannot be exported encrypts under the
other one. -/
theorem algorithm_of_userVaultKeysEqual
    (equal : userVaultKeysEqual platform a b = .ok true)
    (hidden : b.extractable = false) : a.algorithm = .aesGcm := by
  have probed : userVaultKeysEqualViaEncrypt platform a b = .ok true := by
    unfold userVaultKeysEqual at equal
    rw [exportUserVaultKey_eq, exportUserVaultKey_eq, hidden] at equal
    cases exportable : a.extractable with
    | false =>
        rw [exportable] at equal
        exact equal
    | true =>
        rw [exportable] at equal
        exact equal
  obtain ⟨ciphertext, encrypted, -⟩ := Outcome.bind_eq_ok_iff.mp probed
  unfold subtleEncrypt at encrypted
  cases algorithm : a.algorithm with
  | aesGcm => rfl
  | aesKw =>
      rw [algorithm] at encrypted
      cases encrypted

theorem assertSameVaultKey_ok
    (asserted : assertSameVaultKey platform vaultKey key message = .ok ()) :
    userVaultKeysEqual platform vaultKey key = .ok true := by
  obtain ⟨equal, compared, verdict⟩ := Outcome.bind_eq_ok_iff.mp asserted
  cases equal with
  | true => exact compared
  | false => cases verdict

theorem SecretEnvelope.unlock_hidden {source : SecretEnvelope}
    (unlocked : source.unlock platform scope profile = .ok key) :
    key.extractable = false := by
  obtain ⟨material, -, opened⟩ := SecretEnvelope.unlock_ok unlocked
  obtain ⟨candidate, unwrapped, -, -⟩ :=
    unlockVaultKeyEnvelopeWithAadRouting_sound opened
  obtain ⟨inner, -, restored⟩ :=
    unwrapUserVaultKeyWithDerivedKeys_ok_iff.mp unwrapped
  exact (restoreInnerVaultKey_ok restored).2.1

theorem sameVaultKey_of_asserted {source : SecretEnvelope}
    (probe : platform.IdealProbe vaultKey.material)
    (unlocked : source.unlock platform scope profile = .ok key)
    (asserted : assertSameVaultKey platform vaultKey key message = .ok ()) :
    SameVaultKey vaultKey key := by
  have equal := assertSameVaultKey_ok asserted
  have hidden := SecretEnvelope.unlock_hidden unlocked
  exact
    { algorithm := algorithm_of_userVaultKeysEqual equal hidden
      material := material_eq_of_userVaultKeysEqual (.inl probe) equal }

theorem decryptField_restored (algorithm : vaultKey.algorithm = .aesGcm)
    (payload : EncryptedVaultPayload) :
    decryptField platform payload vaultKey.restored =
      decryptField platform payload vaultKey := by
  have same : ∀ iv aad ciphertext,
      subtleDecrypt platform vaultKey.restored iv aad ciphertext =
        subtleDecrypt platform vaultKey iv aad ciphertext := by
    intro iv aad ciphertext
    simp only [subtleDecrypt, CryptoKey.restored, algorithm]
  simp only [decryptField, same]

end Comparison

section Rewrap

variable {platform : Platform} {vaultKey : CryptoKey} {scope : VaultScope}
  {profile : VaultCryptoProfile} {newMaterial : Bytes32}

/-- A blob that was re-wrapped restores the vault key, and its new form wraps
the vault key. -/
theorem rewrapInnerVaultKeyMaterialForWrappingKeys_ok
    (probe : platform.IdealProbe vaultKey.material) {inner rewrapped : Bytes}
    {oldWrappingKey newWrappingKey : CryptoKey}
    (wrapping : newWrappingKey.algorithm = .aesKw)
    (success : rewrapInnerVaultKeyMaterialForWrappingKeys platform inner
      oldWrappingKey newWrappingKey vaultKey = .ok rewrapped) :
    restoreInnerVaultKey platform inner oldWrappingKey false =
        .ok vaultKey.restored ∧
      rewrapped = platform.aesKwWrap newWrappingKey.material
        vaultKey.material.val := by
  obtain ⟨uvkForRewrap, restored, rest⟩ := Outcome.bind_eq_ok_iff.mp success
  obtain ⟨equal, compared, verdict⟩ := Outcome.bind_eq_ok_iff.mp rest
  cases equal with
  | false => cases verdict
  | true =>
      have material := material_eq_of_userVaultKeysEqual (.inr probe) compared
      obtain ⟨algorithm, exportable, again⟩ := restoreInnerVaultKey_ok restored
      constructor
      · rw [again false, CryptoKey.restored, ← material, ← algorithm]
      · simp only [if_true, subtleWrapKey, wrapping, exportable, material]
          at verdict
        exact (Except.ok.inj verdict).symm

/-- The wrapping of the vault key, sealed under derived keys, is opened by
them and carries the canonical record. -/
theorem encryptInnerVaultKeyBlob_renews (crypto : platform.Lawful) {iv : Iv}
    {inner : Bytes} {wrappingKey : CryptoKey} {payload : EncryptedVaultPayload}
    (restored : restoreInnerVaultKey platform inner wrappingKey false =
      .ok vaultKey.restored)
    (encrypted : encryptInnerVaultKeyBlob platform iv
      (platform.aesKwWrap (derivedKeys newMaterial).wrappingKey.material
        vaultKey.material.val)
      (derivedKeys newMaterial).encryptionKey scope profile = .ok payload) :
    unlockVaultKeyEnvelopeWithAadRouting payload scope profile
        (fun candidate => unwrapUserVaultKeyWithDerivedKeys platform candidate
          (derivedKeys newMaterial)) = .ok vaultKey.restored ∧
      payload.aad = aadWithContext (scope.withField .vaultKey) profile := by
  obtain ⟨other, otherEncrypted, opens⟩ := encryptInnerVaultKeyBlob_opens
    crypto iv newMaterial restored scope profile
  have same : payload = other :=
    Except.ok.inj (encrypted.symm.trans otherEncrypted)
  constructor
  · rw [same]
    exact opens
  · rw [(encryptField_ok encrypted).2]

theorem rewrapEncryptedVaultKeyForDerivedKeys_renews
    (crypto : platform.Lawful) (probe : platform.IdealProbe vaultKey.material)
    {iv : Iv} {stored payload : EncryptedVaultPayload}
    {oldDerivedKeys : DerivedKeys}
    (rewrapped : rewrapEncryptedVaultKeyForDerivedKeys platform iv stored
      oldDerivedKeys (derivedKeys newMaterial) vaultKey scope profile =
        .ok payload) :
    unlockVaultKeyEnvelopeWithAadRouting payload scope profile
        (fun candidate => unwrapUserVaultKeyWithDerivedKeys platform candidate
          (derivedKeys newMaterial)) = .ok vaultKey.restored ∧
      payload.aad = aadWithContext (scope.withField .vaultKey) profile := by
  obtain ⟨inner, -, rest⟩ := Outcome.bind_eq_ok_iff.mp rewrapped
  obtain ⟨blob, wrapped, encrypted⟩ := Outcome.bind_eq_ok_iff.mp rest
  obtain ⟨restored, rfl⟩ := rewrapInnerVaultKeyMaterialForWrappingKeys_ok probe
    rfl wrapped
  exact encryptInnerVaultKeyBlob_renews crypto restored encrypted

theorem serializeArgon2idMetadata_upToDate {salt : Bytes}
    {metadata : Argon2idKdfMetadata}
    (serialized : serializeArgon2idMetadata salt = .ok metadata) :
    isEnvelopeKdfUpgradeRecommended metadata = false := by
  obtain ⟨_, safeSalt, -⟩ := Outcome.bind_eq_ok_iff.mp serialized
  rw [serializeArgon2idMetadata_eq safeSalt] at serialized
  cases serialized
  rfl

theorem deriveVaultPasswordKey_upToDate {vaultPassword : JsString}
    {salt : Bytes} {keys : DerivedKeys} {metadata : Argon2idKdfMetadata}
    (derived : deriveVaultPasswordKey platform vaultPassword salt =
      .ok (keys, metadata)) :
    isEnvelopeKdfUpgradeRecommended metadata = false := by
  obtain ⟨pair, -, rest⟩ := Outcome.bind_eq_ok_iff.mp derived
  obtain ⟨written, serialized, built⟩ := Outcome.bind_eq_ok_iff.mp rest
  cases built
  exact serializeArgon2idMetadata_upToDate serialized

theorem deriveRecoveryPhraseKey_upToDate {phrase : JsString} {salt : Bytes}
    {keys : DerivedKeys} {metadata : Argon2idKdfMetadata}
    (derived : deriveRecoveryPhraseKey platform phrase salt =
      .ok (keys, metadata)) :
    isEnvelopeKdfUpgradeRecommended metadata = false := by
  simp only [deriveRecoveryPhraseKey] at derived
  split at derived
  · cases derived
  · obtain ⟨pair, -, rest⟩ := Outcome.bind_eq_ok_iff.mp derived
    obtain ⟨written, serialized, built⟩ := Outcome.bind_eq_ok_iff.mp rest
    cases built
    exact serializeArgon2idMetadata_upToDate serialized

end Rewrap

section Calls

variable {platform : Platform} {iv : Iv} {salt : Argon2idSalt}

/-- Both calls that re-wrap a password envelope. -/
theorem rewrapPasswordEnvelope_sound (crypto : platform.Lawful)
    {vaultKey : CryptoKey} (probe : platform.IdealProbe vaultKey.material)
    {oldPassword newPassword : JsString}
    {envelope renewed : PasswordEnvelope} {scope : VaultScope}
    {profile : VaultCryptoProfile} {message : String}
    (success : rewrapPasswordEnvelope platform iv salt vaultKey oldPassword
      newPassword envelope scope profile message = .ok renewed) :
    (∃ key, unlockWithPasswordEnvelope platform oldPassword envelope scope
        profile = .ok key ∧ SameVaultKey vaultKey key) ∧
      Renews platform scope profile vaultKey
        (.password newPassword renewed) := by
  obtain ⟨key, unlocked, rest⟩ := Outcome.bind_eq_ok_iff.mp success
  obtain ⟨_, asserted, rest⟩ := Outcome.bind_eq_ok_iff.mp rest
  obtain ⟨oldDerivedKeys, -, rest⟩ := Outcome.bind_eq_ok_iff.mp rest
  obtain ⟨newMaterial, metadata, newDerived, kdf, again⟩ :=
    @deriveVaultPasswordKey_random platform newPassword salt
  rw [newDerived, Outcome.ok_bind] at rest
  obtain ⟨payload, rewrapped, built⟩ := Outcome.bind_eq_ok_iff.mp rest
  obtain rfl := Except.ok.inj built
  obtain ⟨opens, aad⟩ :=
    rewrapEncryptedVaultKeyForDerivedKeys_renews crypto probe rewrapped
  constructor
  · have opened : (SecretEnvelope.password oldPassword envelope).unlock
        platform scope profile = .ok key := unlocked
    exact ⟨key, unlocked, sameVaultKey_of_asserted probe opened asserted⟩
  · constructor
    case opens =>
      rw [SecretEnvelope.unlock, unlockWithPasswordEnvelope_eq kdf again]
      exact opens
    case aad => exact aad
    case upToDate => exact deriveVaultPasswordKey_upToDate newDerived

theorem SecretEnvelope.unlock_of_authorization
    {authorization : VaultRotationAuthorization} {scope : VaultScope}
    {profile : VaultCryptoProfile} {key : CryptoKey}
    (unlocked : unlockWithAuthorization platform authorization scope profile =
      .ok key) :
    authorization.source.unlock platform scope profile = .ok key := by
  cases authorization with
  | password currentPassword passwordEnvelope => exact unlocked
  | passkeyPrf prfOutput passkeyEnvelope =>
      simp only [unlockWithAuthorization] at unlocked
      split at unlocked
      · cases unlocked
      · exact unlocked

theorem rotateRecoveryPhrase_sound (crypto : platform.Lawful)
    (stable : platform.LowerCaseStable)
    {options : RotateRecoveryPhraseOptions}
    (probe : platform.IdealProbe options.vaultKey.material) {entropy : Bytes}
    {result : RotateRecoveryPhraseResult}
    (success : rotateRecoveryPhrase platform iv salt entropy options =
      .ok result) :
    (∃ key, options.authorization.source.unlock platform options.scope
        options.profile = .ok key ∧ SameVaultKey options.vaultKey key) ∧
      Renews platform options.scope options.profile options.vaultKey
        (.recovery result.recoveryPhrase
          (some (options.wordCount.getD .twentyFour)) result.envelope) ∧
      UsableRecoveryPhrase platform (options.wordCount.getD .twentyFour)
        result.recoveryPhrase := by
  obtain ⟨_, authorization, rest⟩ := Outcome.bind_eq_ok_iff.mp success
  obtain ⟨key, unlocked, asserted⟩ := Outcome.bind_eq_ok_iff.mp authorization
  have opened := SecretEnvelope.unlock_of_authorization unlocked
  obtain ⟨_, accepted, rest⟩ := Outcome.bind_eq_ok_iff.mp rest
  set phrase := normalizeRecoveryPhrase platform
    (options.newRecoveryPhrase.getD (createRecoveryPhrase platform
      (options.wordCount.getD .twentyFour) entropy)) with phrase_eq
  obtain ⟨valid, counted⟩ := assertNewRecoveryPhrase_ok accepted
  have usable : validateRecoveryPhraseFormat platform
      (normalizeRecoveryPhrase platform phrase) = true := by
    rw [validateRecoveryPhraseFormat_normalize stable]
    exact valid
  obtain ⟨newMaterial, metadata, newDerived, kdf, -, saltDecoded, again⟩ :=
    deriveRecoveryPhraseKey_valid usable salt
  simp only [newDerived, saltDecoded, Outcome.ok_bind] at rest
  obtain ⟨⟨stored, oldKeys⟩, -, rest⟩ := Outcome.bind_eq_ok_iff.mp rest
  obtain ⟨inner, -, rest⟩ := Outcome.bind_eq_ok_iff.mp rest
  obtain ⟨blob, rewrapped, rest⟩ := Outcome.bind_eq_ok_iff.mp rest
  obtain ⟨restored, rfl⟩ := rewrapInnerVaultKeyMaterialForWrappingKeys_ok probe
    rfl rewrapped
  obtain ⟨envelope, created, built⟩ := Outcome.bind_eq_ok_iff.mp rest
  obtain rfl := Except.ok.inj built
  simp only [createRecoveryEnvelope, newDerived, Outcome.ok_bind] at created
  obtain ⟨payload, wrapped, built⟩ := Outcome.bind_eq_ok_iff.mp created
  obtain rfl := Except.ok.inj built
  obtain ⟨_, materialized, encrypted⟩ := Outcome.bind_eq_ok_iff.mp wrapped
  obtain ⟨_, -, same⟩ := Outcome.bind_eq_ok_iff.mp materialized
  obtain rfl := Except.ok.inj same
  obtain ⟨opens, aad⟩ := encryptInnerVaultKeyBlob_renews crypto restored
    encrypted
  refine ⟨⟨key, opened, sameVaultKey_of_asserted probe opened asserted⟩, ?_,
    ?_⟩
  · constructor
    case opens =>
      rw [SecretEnvelope.unlock, unlockWithRecoveryEnvelope_eq
        (assertExpectedWordCount_normalized stable valid counted) kdf again]
      exact opens
    case aad => exact aad
    case upToDate => exact deriveRecoveryPhraseKey_upToDate newDerived
  · exact
      { normalized := normalizeRecoveryPhrase_idempotent stable _
        valid := valid
        counted := counted }

theorem maybeUpgradeRecoveryEnvelopeAfterUnlock_sound
    (crypto : platform.Lawful)
    {options : MaybeUpgradeRecoveryEnvelopeOptions}
    (probe : platform.IdealProbe options.vaultKey.material)
    {result : MaybeUpgradeRecoveryEnvelopeResult}
    {upgraded : RecoveryPhraseEnvelope}
    (success : maybeUpgradeRecoveryEnvelopeAfterUnlock platform iv salt
      options = .ok result) (renewed : result.upgradedEnvelope = some upgraded) :
    (∃ key, unlockWithRecoveryEnvelope platform options.recoveryPhrase
        options.envelope options.scope options.profile
        options.expectedWordCount = .ok key ∧
        SameVaultKey options.vaultKey key) ∧
      Renews platform options.scope options.profile options.vaultKey
        (.recovery options.recoveryPhrase options.expectedWordCount
          upgraded) := by
  rw [maybeUpgradeRecoveryEnvelopeAfterUnlock] at success
  split at success
  · obtain rfl := Except.ok.inj success
    cases renewed
  · obtain ⟨key, unlocked, rest⟩ := Outcome.bind_eq_ok_iff.mp success
    obtain ⟨_, asserted, rest⟩ := Outcome.bind_eq_ok_iff.mp rest
    obtain ⟨oldDerivedKeys, -, rest⟩ := Outcome.bind_eq_ok_iff.mp rest
    obtain ⟨counted, -, valid, -⟩ := unlockWithRecoveryEnvelope_ok unlocked
    obtain ⟨newMaterial, metadata, newDerived, kdf, -, -, again⟩ :=
      deriveRecoveryPhraseKey_valid valid salt
    rw [newDerived, Outcome.ok_bind] at rest
    obtain ⟨payload, rewrapped, built⟩ := Outcome.bind_eq_ok_iff.mp rest
    obtain rfl := Except.ok.inj built
    obtain rfl := Option.some.inj renewed
    obtain ⟨opens, aad⟩ :=
      rewrapEncryptedVaultKeyForDerivedKeys_renews crypto probe rewrapped
    have opened : (SecretEnvelope.recovery options.recoveryPhrase
        options.expectedWordCount options.envelope).unlock platform
        options.scope options.profile = .ok key := unlocked
    constructor
    · exact ⟨key, unlocked, sameVaultKey_of_asserted probe opened asserted⟩
    · constructor
      case opens =>
        rw [SecretEnvelope.unlock,
          unlockWithRecoveryEnvelope_eq counted kdf again]
        exact opens
      case aad => exact aad
      case upToDate => exact deriveRecoveryPhraseKey_upToDate newDerived

end Calls

section Rotations

variable {platform : Platform} {iv : Iv} {salt : Argon2idSalt}
  {entropy : Bytes} {rotation : VaultKeyRotation} {renewed : SecretEnvelope}

/-- An envelope that a rotation or an upgrade resolves with was authorized by
the key in memory, and its secret opens it to that key. -/
theorem rotation_sound (crypto : platform.Lawful)
    (stable : platform.LowerCaseStable)
    (ideal : platform.IdealProbe rotation.vaultKey.material)
    (resolved : rotation.renew platform iv salt entropy = .ok (some renewed)) :
    SoundRotation platform rotation renewed := by
  suffices sound : (∃ key, rotation.source.unlock platform rotation.scope
        rotation.profile = .ok key ∧ SameVaultKey rotation.vaultKey key) ∧
      Renews platform rotation.scope rotation.profile rotation.vaultKey
        renewed ∧ rotation.PhraseUsable platform renewed by
    obtain ⟨authorized, renews, phrase⟩ := sound
    have algorithm : rotation.vaultKey.algorithm = .aesGcm := by
      obtain ⟨_, _, same⟩ := authorized
      exact same.algorithm
    exact ⟨authorized, renews, decryptField_restored algorithm, phrase⟩
  cases rotation with
  | rotateVaultPassword options =>
      obtain ⟨result, success, built⟩ := Outcome.bind_eq_ok_iff.mp resolved
      obtain rfl := Option.some.inj (Except.ok.inj built)
      rw [rotateVaultPassword] at success
      split at success
      · cases success
      · obtain ⟨envelope, rewrapped, built⟩ :=
          Outcome.bind_eq_ok_iff.mp success
        obtain rfl := Except.ok.inj built
        obtain ⟨authorized, renews⟩ :=
          rewrapPasswordEnvelope_sound crypto ideal rewrapped
        exact ⟨authorized, renews, trivial⟩
  | rotateRecoveryPhrase options =>
      obtain ⟨result, success, built⟩ := Outcome.bind_eq_ok_iff.mp resolved
      obtain rfl := Option.some.inj (Except.ok.inj built)
      exact rotateRecoveryPhrase_sound crypto stable ideal success
  | maybeUpgradePasswordEnvelopeAfterUnlock options =>
      obtain ⟨result, success, built⟩ := Outcome.bind_eq_ok_iff.mp resolved
      rw [maybeUpgradePasswordEnvelopeAfterUnlock] at success
      split at success
      · obtain rfl := Except.ok.inj success
        cases built
      · obtain ⟨envelope, rewrapped, returned⟩ :=
          Outcome.bind_eq_ok_iff.mp success
        obtain rfl := Except.ok.inj returned
        obtain rfl := Option.some.inj (Except.ok.inj built)
        obtain ⟨authorized, renews⟩ :=
          rewrapPasswordEnvelope_sound crypto ideal rewrapped
        exact ⟨authorized, renews, trivial⟩
  | maybeUpgradeRecoveryEnvelopeAfterUnlock options =>
      obtain ⟨result, success, built⟩ := Outcome.bind_eq_ok_iff.mp resolved
      obtain ⟨upgraded, found, same⟩ :=
        Option.map_eq_some_iff.mp (Except.ok.inj built)
      obtain rfl := same
      obtain ⟨authorized, renews⟩ :=
        maybeUpgradeRecoveryEnvelopeAfterUnlock_sound crypto ideal success
          found
      exact ⟨authorized, renews, trivial⟩

end Rotations

namespace Reference

/-- The platform on which the key of one password envelope was sealed. -/
def rotationPlatform : Platform :=
  (envelopePlatform (stringToBytes unlockSecret)).toPlatform

def storedEnvelope : PasswordEnvelope :=
  { encryptedVaultKey := createdEnvelope (stringToBytes unlockSecret)
    kdfMetadata := kdfMetadata }

/-- A generated phrase, authorized by the password. -/
def phraseRotation : RotateRecoveryPhraseOptions :=
  { vaultKey := openedVaultKey
    authorization := .password unlockSecret storedEnvelope
    scope := referenceScope
    profile := referenceProfile
    wordCount := some .twelve }

theorem rotationPlatform_lawful : rotationPlatform.Lawful :=
  platform_lawful _

theorem rotationPlatform_lowerCaseStable : rotationPlatform.LowerCaseStable :=
  platform_lowerCaseStable _

theorem rotationPlatform_idealProbe :
    rotationPlatform.IdealProbe openedVaultKey.material := by
  have long : (material 7).val.length = 32 := List.length_replicate
  exact envelopeLedger_idealProbe long

theorem unwrap_storedEnvelope :
    unwrapUserVaultKeyWithDerivedKeys rotationPlatform
      storedEnvelope.encryptedVaultKey unlockKeys = .ok openedVaultKey := by
  apply unwrap_vaultKeyPayload
  · decide
  · rfl
  · rfl
  · rfl

theorem unlock_storedEnvelope :
    unlockWithPasswordEnvelope rotationPlatform unlockSecret storedEnvelope
      referenceScope referenceProfile = .ok openedVaultKey := by
  have derived : deriveVaultPasswordKeyPairFromMetadata rotationPlatform
      unlockSecret storedEnvelope.kdfMetadata =
        .ok (derivedKeys (derive (stringToBytes unlockSecret))) :=
    deriveFromMetadata _
  rw [unlockWithPasswordEnvelope_eq rfl derived,
    unlockVaultKeyEnvelopeWithAadRouting_canonical rfl]
  exact unwrap_storedEnvelope

theorem phraseRotation_resolves :
    ∃ result, VaultCore.rotateRecoveryPhrase rotationPlatform referenceIv salt
      [] phraseRotation = .ok result := by
  obtain ⟨inner, extracted, restored⟩ :=
    unwrapUserVaultKeyWithDerivedKeys_ok_iff.mp unwrap_storedEnvelope
  have extractable : Extractable rotationPlatform
      storedEnvelope.encryptedVaultKey unlockKeys inner openedVaultKey := by
    refine ⟨restored, ?_⟩
    intro other otherExtracted
    exact Except.ok.inj (otherExtracted.symm.trans extracted)
  have derived : phraseRotation.authorization.source.keys rotationPlatform =
      .ok unlockKeys := deriveFromMetadata _
  have usable : UsableRecoveryPhrase rotationPlatform .twelve
      (createRecoveryPhrase rotationPlatform .twelve []) :=
    createRecoveryPhrase_usable (platform_generatesMnemonics _) .twelve []
  have accepted : assertNewRecoveryPhrase rotationPlatform
      (normalizeRecoveryPhrase rotationPlatform
        (phraseRotation.newRecoveryPhrase.getD
          (createRecoveryPhrase rotationPlatform
            (phraseRotation.wordCount.getD .twentyFour) [])))
      (phraseRotation.wordCount.getD .twentyFour)
      phraseRotation.confirmNewRecoveryPhrase = .ok () := by
    simp only [phraseRotation, Option.getD_none, Option.getD_some,
      assertNewRecoveryPhrase, usable.normalized, usable.valid,
      usable.counted, Bool.not_true, Bool.false_eq_true, if_false, ne_eq,
      not_true_eq_false]
  have same : SameVaultKey phraseRotation.vaultKey openedVaultKey :=
    ⟨rfl, rfl⟩
  have authorized : unlockWithAuthorization rotationPlatform
      phraseRotation.authorization phraseRotation.scope phraseRotation.profile =
        .ok openedVaultKey := unlock_storedEnvelope
  have rotates := rotateRecoveryPhrase_iff rotationPlatform_lawful
    rotationPlatform_lowerCaseStable referenceIv salt [] authorized
    (authorizationKeys_of_source derived) extractable same accepted
  obtain ⟨result, success, -⟩ := rotates.mpr extracted
  exact ⟨result, success⟩

end Reference

open Reference in
theorem rotation_sound_phraseRotation :
    ∃ renewed,
      (VaultKeyRotation.rotateRecoveryPhrase phraseRotation).renew
        rotationPlatform referenceIv salt [] = .ok (some renewed) ∧
      SoundRotation rotationPlatform (.rotateRecoveryPhrase phraseRotation)
        renewed := by
  obtain ⟨result, success⟩ := phraseRotation_resolves
  have resolved : (VaultKeyRotation.rotateRecoveryPhrase phraseRotation).renew
      rotationPlatform referenceIv salt [] =
        .ok (some (.recovery result.recoveryPhrase (some .twelve)
          result.envelope)) := by
    rw [VaultKeyRotation.renew, success, Outcome.ok_bind]
    rfl
  refine ⟨_, resolved, ?_⟩
  exact rotation_sound rotationPlatform_lawful rotationPlatform_lowerCaseStable
    rotationPlatform_idealProbe resolved

end VaultCore
