import VaultCore.Crypto.PortableVaultBrokerEnvelope
import VaultCore.Envelopes.DomainSeparation

/-!
# Creating and unlocking envelopes

Every kind of envelope is opened by the inputs of its own key derivation and
by nothing else, and then restores the vault key it was created for.
-/

namespace VaultCore

/-- The ciphertext of the record opens under a single key. -/
def SealedForOneKey (platform : Platform) (payload : EncryptedVaultPayload) :
    Prop :=
  ∃ key, IdealSealing platform payload key

/-- The unlock succeeds exactly under the condition, and then restores the
vault key. -/
structure OpensExactlyWhen (unlocked : Except VaultError CryptoKey)
    (condition : Prop) (vaultKey : CryptoKey) : Prop where
  opens_iff : (∃ key, unlocked = .ok key) ↔ condition
  restores : ∀ key, unlocked = .ok key → key = vaultKey.restored

/-- Argon2id does not map the two inputs to one key. -/
def Platform.SeparatesPasswords (platform : Platform) (first second : Bytes) :
    Prop :=
  ∀ salt params,
    platform.argon2id first salt params =
      platform.argon2id second salt params → first = second

/-- HKDF does not map the two portable unlock keys to one encryption key. -/
def BrokerPlatform.SeparatesUnlockKeys (platform : BrokerPlatform)
    (first second : Bytes) : Prop :=
  platform.hkdfSha256 first hkdfSalt encryptionInfo =
    platform.hkdfSha256 second hkdfSalt encryptionInfo → first = second

/-- A mnemonic that validates has no unpaired surrogate. -/
def Platform.WellFormedMnemonics (platform : Platform) : Prop :=
  ∀ text, platform.validateMnemonic text = true →
    ∃ chars, text = Utf16.ofChars chars

section Wrapped

variable {platform : Platform} {vaultKey : CryptoKey} {iv : Iv}
  {scope : VaultScope} {profile : VaultCryptoProfile}
  {supplied : Option Bytes} {payload : EncryptedVaultPayload}
  {keys otherKeys : DerivedKeys}

theorem wrapUserVaultKeyWithDerivedKeys_scope
    (wrapped : wrapUserVaultKeyWithDerivedKeys platform iv vaultKey keys scope
      profile supplied = .ok payload) :
    payload.aad.scope = (scope.userId, scope.resourceId, .vaultKey,
      .text profile.aadContextEnvelope) := by
  obtain ⟨inner, -, encrypted⟩ := Outcome.bind_eq_ok_iff.mp wrapped
  rw [(encryptField_ok encrypted).2]
  rfl

theorem wrapUserVaultKeyWithDerivedKeys_literal
    (wrapped : wrapUserVaultKeyWithDerivedKeys platform iv vaultKey keys scope
      profile supplied = .ok payload) : payload.aad.order = .literal := by
  obtain ⟨inner, -, encrypted⟩ := Outcome.bind_eq_ok_iff.mp wrapped
  exact encryptField_literal rfl encrypted

/-- Two key pairs that open one ideal ciphertext share the encryption key. -/
theorem encryptionKey_of_unwrapped {key otherKey : CryptoKey}
    (ideal : SealedForOneKey platform payload)
    (unwrapped : unwrapUserVaultKeyWithDerivedKeys platform payload keys =
      .ok key)
    (otherUnwrapped : unwrapUserVaultKeyWithDerivedKeys platform payload
      otherKeys = .ok otherKey) :
    otherKeys.encryptionKey.material = keys.encryptionKey.material := by
  obtain ⟨sealingKey, ideal⟩ := ideal
  have opener : ∀ {opening : DerivedKeys} {opened : CryptoKey},
      unwrapUserVaultKeyWithDerivedKeys platform payload opening =
        .ok opened →
      opening.encryptionKey.material = sealingKey.material := by
    intro opening opened success
    obtain ⟨inner, extracted, -⟩ :=
      unwrapUserVaultKeyWithDerivedKeys_ok_iff.mp success
    obtain ⟨text, decrypted, -⟩ := Outcome.bind_eq_ok_iff.mp extracted
    exact (decryptField_binds ideal ⟨rfl, rfl⟩ decrypted).1
  rw [opener otherUnwrapped, opener unwrapped]

/-- A wrapped vault key is opened by the keys that share its encryption key,
when these are the keys it was wrapped under. -/
theorem wrapped_opens_exactly_when (crypto : platform.Lawful)
    (user : IsUserVaultKey vaultKey)
    (probe : platform.IdealProbe vaultKey.material)
    (wrapping : keys.wrappingKey.algorithm = .aesKw)
    (wrapped : wrapUserVaultKeyWithDerivedKeys platform iv vaultKey keys scope
      profile supplied = .ok payload)
    (ideal : SealedForOneKey platform payload)
    (determined : otherKeys.encryptionKey.material =
      keys.encryptionKey.material → otherKeys = keys) :
    OpensExactlyWhen
      (unwrapUserVaultKeyWithDerivedKeys platform payload otherKeys)
      (otherKeys = keys) vaultKey := by
  have opens := unwrap_wrapUserVaultKeyWithDerivedKeys crypto user
    (.inr probe) wrapping wrapped rfl rfl rfl
  refine ⟨⟨?_, ?_⟩, ?_⟩
  · rintro ⟨key, unwrapped⟩
    exact determined (encryptionKey_of_unwrapped ideal opens unwrapped)
  · rintro rfl
    exact ⟨_, opens⟩
  · intro key unwrapped
    have same := determined (encryptionKey_of_unwrapped ideal opens unwrapped)
    rw [same, opens] at unwrapped
    exact (Except.ok.inj unwrapped).symm

theorem derivedKeys_injective {first second : Bytes32}
    (same : (derivedKeys first).encryptionKey.material =
      (derivedKeys second).encryptionKey.material) : first = second := by
  have bytes : first.material.val = second.material.val :=
    congrArg Subtype.val same
  exact Subtype.ext bytes

theorem derivedKeys_eq_iff {first second : Bytes32} :
    derivedKeys first = derivedKeys second ↔ first = second := by
  constructor
  · intro same
    exact derivedKeys_injective
      (congrArg (fun keys => keys.encryptionKey.material) same)
  · rintro rfl
    rfl

end Wrapped

theorem OpensExactlyWhen.congr {unlocked opened : Except VaultError CryptoKey}
    {condition other : Prop} {vaultKey : CryptoKey}
    (exactly : OpensExactlyWhen unlocked condition vaultKey)
    (same : ∀ key, opened = .ok key ↔ unlocked = .ok key)
    (equivalent : condition ↔ other) :
    OpensExactlyWhen opened other vaultKey := by
  refine ⟨?_, ?_⟩
  · rw [← equivalent, ← exactly.opens_iff]
    exact exists_congr same
  · intro key success
    exact exactly.restores key ((same key).mp success)

theorem OpensExactlyWhen.never {unlocked : Except VaultError CryptoKey}
    {condition : Prop} {vaultKey : CryptoKey}
    (refused : ∀ key, unlocked ≠ .ok key) (fails : ¬ condition) :
    OpensExactlyWhen unlocked condition vaultKey := by
  refine ⟨⟨?_, ?_⟩, ?_⟩
  · rintro ⟨key, success⟩
    exact absurd success (refused key)
  · intro holds
    exact absurd holds fails
  · intro key success
    exact absurd success (refused key)

section Kinds

variable {platform : Platform} {vaultKey : CryptoKey} {iv : Iv}
  {scope : VaultScope} {profile : VaultCryptoProfile} {salt : Bytes}
  {supplied : Option Bytes}

/-- The keys of a password with the parameters of new envelopes. -/
def passwordKeys (platform : Platform) (password : JsString) (salt : Bytes) :
    DerivedKeys :=
  derivedKeys (platform.argon2id (vaultPasswordBytes platform password) salt
    recommendedArgon2idParams)

/-- The keys of a phrase with the parameters of new envelopes. -/
def phraseKeys (platform : Platform) (phrase : JsString) (salt : Bytes) :
    DerivedKeys :=
  derivedKeys (platform.argon2id
    (stringToBytes (normalizeRecoveryPhrase platform phrase)) salt
    recommendedArgon2idParams)

/-- A created password envelope is wrapped under the keys of its password, and
unlocking it unwraps it under the keys of the given one. -/
theorem createPasswordEnvelope_ok {secret : JsString}
    {envelope : PasswordEnvelope}
    (created : createPasswordEnvelope platform iv vaultKey secret scope
      profile salt supplied = .ok envelope) :
    wrapUserVaultKeyWithDerivedKeys platform iv vaultKey
        (passwordKeys platform secret salt) scope profile supplied =
          .ok envelope.encryptedVaultKey ∧
      ∀ other,
        unlockWithPasswordEnvelope platform other envelope scope profile =
          unwrapUserVaultKeyWithDerivedKeys platform
            envelope.encryptedVaultKey (passwordKeys platform other salt) := by
  obtain ⟨⟨keys, metadata⟩, derived, rest⟩ :=
    Outcome.bind_eq_ok_iff.mp created
  obtain ⟨payload, wrapped, built⟩ := Outcome.bind_eq_ok_iff.mp rest
  cases built
  obtain ⟨rfl, usable⟩ := deriveVaultPasswordKey_ok derived
  refine ⟨wrapped, ?_⟩
  intro other
  have otherDerived : deriveVaultPasswordKeyPairFromMetadata platform other
      metadata = .ok (passwordKeys platform other salt) :=
    usable.derives (vaultPasswordBytes platform other)
  have kdf : ({ encryptedVaultKey := payload, kdfMetadata := metadata } :
      PasswordEnvelope).kdfMetadata.kdf = argon2idName := usable.kdf
  rw [unlockWithPasswordEnvelope_eq kdf otherDerived]
  exact unlockVaultKeyEnvelopeWithAadRouting_canonical
    (wrapUserVaultKeyWithDerivedKeys_scope wrapped)

/-- A created recovery envelope is wrapped under the keys of its valid phrase,
and a valid phrase unwraps it under its own keys. -/
theorem createRecoveryEnvelope_ok {phrase : JsString}
    {envelope : RecoveryPhraseEnvelope}
    {phraseLength : Option RecoveryPhraseWordCount}
    (created : createRecoveryEnvelope platform iv vaultKey phrase scope
      profile phraseLength salt supplied = .ok envelope) :
    validateRecoveryPhraseFormat platform
        (normalizeRecoveryPhrase platform phrase) = true ∧
      wrapUserVaultKeyWithDerivedKeys platform iv vaultKey
        (phraseKeys platform phrase salt) scope profile supplied =
          .ok envelope.encryptedVaultKey ∧
      ∀ other,
        validateRecoveryPhraseFormat platform
            (normalizeRecoveryPhrase platform other) = true →
          unlockWithRecoveryEnvelope platform other envelope scope profile
              none =
            unwrapUserVaultKeyWithDerivedKeys platform
              envelope.encryptedVaultKey (phraseKeys platform other salt) := by
  obtain ⟨⟨keys, metadata⟩, derived, rest⟩ :=
    Outcome.bind_eq_ok_iff.mp created
  obtain ⟨payload, wrapped, built⟩ := Outcome.bind_eq_ok_iff.mp rest
  cases built
  obtain ⟨valid, rfl, usable⟩ := deriveRecoveryPhraseKey_ok derived
  refine ⟨valid, wrapped, ?_⟩
  intro other otherValid
  have otherDerived := (deriveRecoveryPhraseKeyFromMetadata_ok_iff usable).mpr
    ⟨otherValid, rfl⟩
  have counted : assertExpectedWordCount platform other none = .ok () := rfl
  have kdf : metadata.kdf = argon2idName := usable.kdf
  rw [unlockWithRecoveryEnvelope_eq counted kdf otherDerived]
  exact unlockVaultKeyEnvelopeWithAadRouting_canonical
    (wrapUserVaultKeyWithDerivedKeys_scope wrapped)

theorem createPasswordEnvelope_opens (crypto : platform.Lawful)
    (user : IsUserVaultKey vaultKey)
    (probe : supplied = none ∨ platform.IdealProbe vaultKey.material)
    {secret : JsString} {envelope : PasswordEnvelope}
    (created : createPasswordEnvelope platform iv vaultKey secret scope
      profile salt supplied = .ok envelope) :
    unlockWithPasswordEnvelope platform secret envelope scope profile =
      .ok vaultKey.restored := by
  obtain ⟨wrapped, unlocks⟩ := createPasswordEnvelope_ok created
  rw [unlocks]
  exact unwrap_wrapUserVaultKeyWithDerivedKeys crypto user probe rfl wrapped
    rfl rfl rfl

theorem createRecoveryEnvelope_opens (crypto : platform.Lawful)
    (user : IsUserVaultKey vaultKey)
    (probe : supplied = none ∨ platform.IdealProbe vaultKey.material)
    {phrase : JsString} {envelope : RecoveryPhraseEnvelope}
    {phraseLength : Option RecoveryPhraseWordCount}
    (created : createRecoveryEnvelope platform iv vaultKey phrase scope
      profile phraseLength salt supplied = .ok envelope) :
    unlockWithRecoveryEnvelope platform phrase envelope scope profile none =
      .ok vaultKey.restored := by
  obtain ⟨valid, wrapped, unlocks⟩ := createRecoveryEnvelope_ok created
  rw [unlocks phrase valid]
  exact unwrap_wrapUserVaultKeyWithDerivedKeys crypto user probe rfl wrapped
    rfl rfl rfl

theorem password_opens_exactly_when (crypto : platform.Lawful)
    (user : IsUserVaultKey vaultKey)
    (probe : platform.IdealProbe vaultKey.material)
    {secret other : JsString} {envelope : PasswordEnvelope}
    (created : createPasswordEnvelope platform iv vaultKey secret scope
      profile salt supplied = .ok envelope)
    (ideal : SealedForOneKey platform envelope.encryptedVaultKey)
    (separates : platform.SeparatesPasswords
      (vaultPasswordBytes platform secret)
      (vaultPasswordBytes platform other)) :
    OpensExactlyWhen
      (unlockWithPasswordEnvelope platform other envelope scope profile)
      (vaultPasswordBytes platform secret = vaultPasswordBytes platform other)
      vaultKey := by
  obtain ⟨wrapped, unlocks⟩ := createPasswordEnvelope_ok created
  refine (wrapped_opens_exactly_when crypto user probe rfl wrapped ideal
    ?_).congr (fun key => by rw [unlocks]) ?_
  · intro same
    exact derivedKeys_eq_iff.mpr (derivedKeys_injective same)
  · rw [passwordKeys, passwordKeys, derivedKeys_eq_iff]
    constructor
    · intro same
      exact separates salt _ same.symm
    · intro same
      rw [same]

theorem stringToBytes_mnemonic (mnemonics : platform.WellFormedMnemonics)
    {first second : JsString}
    (firstValid : platform.validateMnemonic first = true)
    (secondValid : platform.validateMnemonic second = true)
    (same : stringToBytes first = stringToBytes second) : first = second := by
  obtain ⟨firstChars, rfl⟩ := mnemonics first firstValid
  obtain ⟨secondChars, rfl⟩ := mnemonics second secondValid
  rw [Utf8.encode_ofChars_injective same]

theorem validateMnemonic_of_format (stable : platform.LowerCaseStable)
    {phrase : JsString}
    (valid : validateRecoveryPhraseFormat platform
      (normalizeRecoveryPhrase platform phrase) = true) :
    platform.validateMnemonic (normalizeRecoveryPhrase platform phrase) =
      true := by
  simp only [validateRecoveryPhraseFormat,
    normalizeRecoveryPhrase_idempotent stable] at valid
  split_ifs at valid
  exact valid

theorem recovery_opens_exactly_when (crypto : platform.Lawful)
    (stable : platform.LowerCaseStable)
    (mnemonics : platform.WellFormedMnemonics)
    (user : IsUserVaultKey vaultKey)
    (probe : platform.IdealProbe vaultKey.material)
    {phrase other : JsString} {envelope : RecoveryPhraseEnvelope}
    {phraseLength : Option RecoveryPhraseWordCount}
    (created : createRecoveryEnvelope platform iv vaultKey phrase scope
      profile phraseLength salt supplied = .ok envelope)
    (ideal : SealedForOneKey platform envelope.encryptedVaultKey)
    (separates : platform.SeparatesPasswords
      (stringToBytes (normalizeRecoveryPhrase platform phrase))
      (stringToBytes (normalizeRecoveryPhrase platform other))) :
    OpensExactlyWhen
      (unlockWithRecoveryEnvelope platform other envelope scope profile none)
      (normalizeRecoveryPhrase platform phrase =
          normalizeRecoveryPhrase platform other ∧
        validateRecoveryPhraseFormat platform
          (normalizeRecoveryPhrase platform phrase) = true ∧
        validateRecoveryPhraseFormat platform
          (normalizeRecoveryPhrase platform other) = true) vaultKey := by
  obtain ⟨valid, wrapped, unlocks⟩ := createRecoveryEnvelope_ok created
  by_cases otherValid : validateRecoveryPhraseFormat platform
      (normalizeRecoveryPhrase platform other) = true
  · refine (wrapped_opens_exactly_when crypto user probe rfl wrapped ideal
      ?_).congr (fun key => by rw [unlocks other otherValid]) ?_
    · intro same
      exact derivedKeys_eq_iff.mpr (derivedKeys_injective same)
    · rw [phraseKeys, phraseKeys, derivedKeys_eq_iff]
      constructor
      · intro same
        refine ⟨?_, valid, otherValid⟩
        exact stringToBytes_mnemonic mnemonics
          (validateMnemonic_of_format stable valid)
          (validateMnemonic_of_format stable otherValid)
          (separates salt _ same.symm)
      · rintro ⟨same, -, -⟩
        rw [same]
  · apply OpensExactlyWhen.never
    · intro key unlocked
      exact otherValid (unlockWithRecoveryEnvelope_ok unlocked).2.2.1
    · exact fun inputs => otherValid inputs.2.2

/-- A created passkey envelope is wrapped under the key pair of its output. -/
theorem createPasskeyPrfEnvelope_ok {prfOutput : Bytes}
    {envelope : PasskeyPrfEnvelope}
    (created : createPasskeyPrfEnvelope platform iv vaultKey prfOutput scope
      profile supplied = .ok envelope) :
    ∃ long, wrapUserVaultKeyWithDerivedKeys platform iv vaultKey
      (prfKeys prfOutput long) scope profile supplied =
        .ok envelope.encryptedVaultKey := by
  unfold createPasskeyPrfEnvelope at created
  split at created
  · cases created
  · rename_i notShort
    have long : 32 ≤ prfOutput.length := not_lt.mp notShort
    obtain ⟨gcm, kw⟩ := importPrfAesKey_prfKeys long
    simp only [gcm, wrapUserVaultKeyWithPrfOutput, kw, Outcome.ok_bind]
      at created
    obtain ⟨payload, wrapped, built⟩ := Outcome.bind_eq_ok_iff.mp created
    cases built
    exact ⟨long, wrapped⟩

/-- Unlocking a created passkey envelope unwraps it under the key pair of the
given output. -/
theorem unlockWithPasskeyPrfEnvelope_wrapped {keys : DerivedKeys}
    {other : Bytes} {envelope : PasskeyPrfEnvelope} {prfRequired : Bool}
    {key : CryptoKey} (otherLong : 32 ≤ other.length)
    (wrapped : wrapUserVaultKeyWithDerivedKeys platform iv vaultKey keys scope
      profile supplied = .ok envelope.encryptedVaultKey) :
    unlockWithPasskeyPrfEnvelope platform envelope (some other) scope profile
        prfRequired = .ok key ↔
      unwrapUserVaultKeyWithDerivedKeys platform envelope.encryptedVaultKey
        (prfKeys other otherLong) = .ok key := by
  rw [unlockWithPasskeyPrfEnvelope_ok_iff,
    unwrapVaultKeyFromPasskey_eq otherLong,
    unlockVaultKeyEnvelopeWithAadRouting_canonical
      (wrapUserVaultKeyWithDerivedKeys_scope wrapped)]

theorem createPasskeyPrfEnvelope_opens (crypto : platform.Lawful)
    (user : IsUserVaultKey vaultKey)
    (probe : supplied = none ∨ platform.IdealProbe vaultKey.material)
    {prfOutput : Bytes} {envelope : PasskeyPrfEnvelope}
    (created : createPasskeyPrfEnvelope platform iv vaultKey prfOutput scope
      profile supplied = .ok envelope) (prfRequired : Bool) :
    unlockWithPasskeyPrfEnvelope platform envelope (some prfOutput) scope
      profile prfRequired = .ok vaultKey.restored := by
  obtain ⟨long, wrapped⟩ := createPasskeyPrfEnvelope_ok created
  apply (unlockWithPasskeyPrfEnvelope_wrapped long wrapped).mpr
  exact unwrap_wrapUserVaultKeyWithDerivedKeys crypto user probe rfl wrapped
    rfl rfl rfl

theorem passkey_opens_exactly_when (crypto : platform.Lawful)
    (user : IsUserVaultKey vaultKey)
    (probe : platform.IdealProbe vaultKey.material)
    {prfOutput other : Bytes} {envelope : PasskeyPrfEnvelope}
    (created : createPasskeyPrfEnvelope platform iv vaultKey prfOutput scope
      profile supplied = .ok envelope)
    (ideal : SealedForOneKey platform envelope.encryptedVaultKey)
    (prfRequired : Bool) :
    OpensExactlyWhen
      (unlockWithPasskeyPrfEnvelope platform envelope (some other) scope
        profile prfRequired)
      (32 ≤ prfOutput.length ∧ 32 ≤ other.length ∧
        prfOutput.take 32 = other.take 32) vaultKey := by
  obtain ⟨long, wrapped⟩ := createPasskeyPrfEnvelope_ok created
  by_cases otherLong : 32 ≤ other.length
  · have exactly := @wrapped_opens_exactly_when platform vaultKey iv scope
      profile supplied envelope.encryptedVaultKey (prfKeys prfOutput long)
      (prfKeys other otherLong) crypto user probe rfl wrapped ideal
      (fun same => congrArg derivedKeys (derivedKeys_injective same))
    apply exactly.congr
    · intro key
      exact unlockWithPasskeyPrfEnvelope_wrapped otherLong wrapped
    · rw [prfKeys, prfKeys, derivedKeys_eq_iff, Subtype.mk.injEq]
      constructor
      · intro same
        exact ⟨long, otherLong, same.symm⟩
      · intro inputs
        exact inputs.2.2.symm
  · apply OpensExactlyWhen.never
    · intro key success
      rw [unlockWithPasskeyPrfEnvelope_ok_iff] at success
      exact otherLong (unwrapVaultKeyFromPasskey_ok success).1
    · exact fun inputs => otherLong inputs.2.1

end Kinds

/-- What is wrapped under the keys of a portable unlock key is unlocked with
it. -/
theorem unlockPortableVaultBrokerEncryptedVaultKey_wrapped
    {platform : BrokerPlatform} (crypto : platform.toPlatform.Lawful)
    {vaultKey : CryptoKey} (user : IsUserVaultKey vaultKey)
    {iv : Iv} {scope : VaultScope} {profile : VaultCryptoProfile}
    {supplied : Option Bytes} {puk : Bytes} {keys : DerivedKeys}
    {payload : EncryptedVaultPayload}
    (probe : supplied = none ∨
      platform.toPlatform.IdealProbe vaultKey.material)
    (derived : derivePortableVaultKeys platform puk = .ok keys)
    (wrapped : wrapUserVaultKeyWithDerivedKeys platform.toPlatform iv vaultKey
      keys scope profile supplied = .ok payload) :
    unlockPortableVaultBrokerEncryptedVaultKey platform payload puk scope
      profile = .ok vaultKey.restored := by
  have asserted : assertVaultKeyAad scope payload profile = .ok () :=
    assertAad_ok_iff.mpr (wrapUserVaultKeyWithDerivedKeys_scope wrapped)
  obtain ⟨-, rfl⟩ := derivePortableVaultKeys_ok_iff.mp derived
  simp only [unlockPortableVaultBrokerEncryptedVaultKey, asserted, derived,
    Outcome.ok_bind]
  exact unwrap_wrapUserVaultKeyWithDerivedKeys crypto user probe rfl wrapped
    rfl rfl rfl

theorem broker_opens_exactly_when {platform : BrokerPlatform}
    (crypto : platform.toPlatform.Lawful) {vaultKey : CryptoKey}
    (user : IsUserVaultKey vaultKey)
    (probe : platform.toPlatform.IdealProbe vaultKey.material)
    {iv : Iv} {scope : VaultScope} {profile : VaultCryptoProfile}
    {supplied : Option Bytes} {puk other : Bytes}
    {payload : EncryptedVaultPayload}
    (created : createPortableVaultBrokerEncryptedVaultKey platform iv vaultKey
      puk scope profile supplied = .ok payload)
    (ideal : SealedForOneKey platform.toPlatform payload)
    (separates : platform.SeparatesUnlockKeys puk other) :
    OpensExactlyWhen
      (unlockPortableVaultBrokerEncryptedVaultKey platform payload other scope
        profile)
      (puk = other ∧ puk.length = portableVaultUnlockKeyBytes) vaultKey := by
  obtain ⟨keys, derived, wrapped⟩ := Outcome.bind_eq_ok_iff.mp created
  obtain ⟨long, rfl⟩ := derivePortableVaultKeys_ok_iff.mp derived
  have asserted : assertVaultKeyAad scope payload profile = .ok () :=
    assertAad_ok_iff.mpr (wrapUserVaultKeyWithDerivedKeys_scope wrapped)
  by_cases otherLong : other.length = portableVaultUnlockKeyBytes
  · have otherDerived : derivePortableVaultKeys platform other =
        .ok (portableVaultKeys platform other) :=
      derivePortableVaultKeys_ok_iff.mpr ⟨otherLong, rfl⟩
    have unlocked : unlockPortableVaultBrokerEncryptedVaultKey platform payload
        other scope profile =
          unwrapUserVaultKeyWithDerivedKeys platform.toPlatform payload
            (portableVaultKeys platform other) := by
      simp only [unlockPortableVaultBrokerEncryptedVaultKey, asserted,
        otherDerived, Outcome.ok_bind]
    have separated : (portableVaultKeys platform other).encryptionKey.material
        = (portableVaultKeys platform puk).encryptionKey.material →
          puk = other := by
      intro same
      apply separates
      have bytes : (portableVaultKeys platform other).encryptionKey.material.val
          = (portableVaultKeys platform puk).encryptionKey.material.val :=
        congrArg Subtype.val same
      exact Subtype.ext bytes.symm
    refine (wrapped_opens_exactly_when crypto user probe rfl wrapped ideal
      ?_).congr (fun key => by rw [unlocked]) ?_
    · intro same
      rw [separated same]
    · constructor
      · intro same
        exact ⟨separated (congrArg (fun keys => keys.encryptionKey.material)
          same), long⟩
      · rintro ⟨rfl, -⟩
        rfl
  · apply OpensExactlyWhen.never
    · intro key success
      obtain ⟨_, -, rest⟩ := Outcome.bind_eq_ok_iff.mp success
      obtain ⟨keys, otherDerived, -⟩ := Outcome.bind_eq_ok_iff.mp rest
      exact otherLong (derivePortableVaultKeys_ok_iff.mp otherDerived).1
    · rintro ⟨rfl, same⟩
      exact otherLong same

/-- Every envelope that is created is opened by the inputs that derive the
same keys, and by no others, to a non-extractable handle of its vault key. -/
theorem envelope_round_trip {platform : BrokerPlatform}
    (crypto : platform.toPlatform.Lawful)
    (stable : platform.toPlatform.LowerCaseStable)
    (mnemonics : platform.toPlatform.WellFormedMnemonics)
    {vaultKey : CryptoKey} (user : IsUserVaultKey vaultKey)
    (probe : platform.toPlatform.IdealProbe vaultKey.material)
    (scope : VaultScope) (profile : VaultCryptoProfile)
    (supplied : Option Bytes) :
    (∀ iv salt secret other envelope,
      createPasswordEnvelope platform.toPlatform iv vaultKey secret scope
        profile salt supplied = .ok envelope →
      SealedForOneKey platform.toPlatform envelope.encryptedVaultKey →
      platform.toPlatform.SeparatesPasswords
        (vaultPasswordBytes platform.toPlatform secret)
        (vaultPasswordBytes platform.toPlatform other) →
      OpensExactlyWhen
        (unlockWithPasswordEnvelope platform.toPlatform other envelope scope
          profile)
        (vaultPasswordBytes platform.toPlatform secret =
          vaultPasswordBytes platform.toPlatform other) vaultKey) ∧
    (∀ iv salt phrase other phraseLength envelope,
      createRecoveryEnvelope platform.toPlatform iv vaultKey phrase scope
        profile phraseLength salt supplied = .ok envelope →
      SealedForOneKey platform.toPlatform envelope.encryptedVaultKey →
      platform.toPlatform.SeparatesPasswords
        (stringToBytes (normalizeRecoveryPhrase platform.toPlatform phrase))
        (stringToBytes (normalizeRecoveryPhrase platform.toPlatform other)) →
      OpensExactlyWhen
        (unlockWithRecoveryEnvelope platform.toPlatform other envelope scope
          profile none)
        (normalizeRecoveryPhrase platform.toPlatform phrase =
            normalizeRecoveryPhrase platform.toPlatform other ∧
          validateRecoveryPhraseFormat platform.toPlatform
            (normalizeRecoveryPhrase platform.toPlatform phrase) = true ∧
          validateRecoveryPhraseFormat platform.toPlatform
            (normalizeRecoveryPhrase platform.toPlatform other) = true)
        vaultKey) ∧
    (∀ iv prfOutput other prfRequired envelope,
      createPasskeyPrfEnvelope platform.toPlatform iv vaultKey prfOutput scope
        profile supplied = .ok envelope →
      SealedForOneKey platform.toPlatform envelope.encryptedVaultKey →
      OpensExactlyWhen
        (unlockWithPasskeyPrfEnvelope platform.toPlatform envelope
          (some other) scope profile prfRequired)
        (32 ≤ prfOutput.length ∧ 32 ≤ other.length ∧
          prfOutput.take 32 = other.take 32) vaultKey) ∧
    (∀ iv puk other payload,
      createPortableVaultBrokerEncryptedVaultKey platform iv vaultKey puk
        scope profile supplied = .ok payload →
      SealedForOneKey platform.toPlatform payload →
      platform.SeparatesUnlockKeys puk other →
      OpensExactlyWhen
        (unlockPortableVaultBrokerEncryptedVaultKey platform payload other
          scope profile)
        (puk = other ∧ puk.length = portableVaultUnlockKeyBytes)
        vaultKey) := by
  refine ⟨?_, ?_, ?_, ?_⟩
  · intro iv salt secret other envelope created ideal separates
    exact password_opens_exactly_when crypto user probe created ideal
      separates
  · intro iv salt phrase other phraseLength envelope created ideal separates
    exact recovery_opens_exactly_when crypto stable mnemonics user probe
      created ideal separates
  · intro iv prfOutput other prfRequired envelope created ideal
    exact passkey_opens_exactly_when crypto user probe created ideal
      prfRequired
  · intro iv puk other payload created ideal separates
    exact broker_opens_exactly_when crypto user probe created ideal separates

namespace Reference

def brokerPlatform (ledger : List Sealing) : BrokerPlatform :=
  { platform ledger with
    hkdfSha256 := fun keyMaterial _ _ => derive keyMaterial }

def probeSealing (material : AesKeyMaterial) : Sealing :=
  { key := material
    iv := uvkEqualityIv
    aad := []
    plaintext := uvkEqualityProbe }

/-- One envelope and the probe of its vault key. -/
def envelopeLedger (secret : Bytes) (material : AesKeyMaterial) :
    List Sealing :=
  [vaultKeySealing secret material referenceScope referenceProfile,
    probeSealing material]

/-- One envelope of a scope and the probe of its vault key. -/
def scopedLedger (secret : Bytes) (material : AesKeyMaterial)
    (scope : VaultScope) (profile : VaultCryptoProfile) : List Sealing :=
  [vaultKeySealing secret material scope profile, probeSealing material]

section

variable {secret : Bytes} {material : AesKeyMaterial} {scope : VaultScope}
  {profile : VaultCryptoProfile}

private theorem plaintext_ne_probe (long : material.val.length = 32) :
    (vaultKeySealing secret material scope profile).plaintext ≠
      uvkEqualityProbe := by
  intro same
  have probe : (stringToBytes (bytesToBase64Url (wrap material.val))).length =
      uvkEqualityProbe.length := congrArg List.length same
  rw [stringToBytes, Utf8.length_encode_ascii (bytesToBase64Url_ascii _),
    length_bytesToBase64Url, wrap, List.length_append, long,
    List.length_replicate] at probe
  revert probe
  decide

private theorem probeSealing_alone (long : material.val.length = 32)
    {other : AesKeyMaterial}
    (listed : probeSealing other ∈
      scopedLedger secret material scope profile) :
    other = material := by
  rcases List.mem_cons.mp listed with envelope | probe
  · have plaintexts := congrArg Sealing.plaintext envelope
    exact absurd plaintexts.symm (plaintext_ne_probe long)
  · exact congrArg Sealing.key (List.mem_singleton.mp probe)

theorem scopedLedger_idealProbe (long : material.val.length = 32) :
    (platform (scopedLedger secret material scope profile)).IdealProbe
      material := by
  have probeListed : probeSealing material ∈
      scopedLedger secret material scope profile :=
    List.mem_cons_of_mem _ List.mem_cons_self
  refine ⟨?_, ?_⟩
  · intro other opened
    have tags := (open_sealed opened).2
    apply @probeSealing_alone secret material scope profile long
    by_contra unlisted
    have listedTag : tag (scopedLedger secret material scope profile)
        (probeSealing material) = List.replicate 16 1 := by
      rw [tag, if_pos probeListed]
    have unlistedTag : tag (scopedLedger secret material scope profile)
        (probeSealing other) = List.replicate 16 0 := by
      rw [tag, if_neg unlisted]
    have same := (listedTag.symm.trans tags).trans unlistedTag
    cases same
  · intro other opened
    exact @probeSealing_alone secret material scope profile long _
      (mem_ledger_of_open probeListed opened).2

theorem envelopeLedger_idealProbe (long : material.val.length = 32) :
    (platform (envelopeLedger secret material)).IdealProbe material :=
  @scopedLedger_idealProbe secret material referenceScope referenceProfile
    long

theorem vaultKeyPayload_sealedForOneKey (long : material.val.length = 32) :
    SealedForOneKey (platform (scopedLedger secret material scope profile))
      (vaultKeyPayload (scopedLedger secret material scope profile) secret
        material scope profile) := by
  refine ⟨(keysOf secret).encryptionKey,
    ⟨referenceIv, _, _, _, vaultKeyPayload_encrypted⟩, ?_⟩
  intro iv ciphertext otherKey otherAad plaintext _ decoded opened
  rw [vaultKeyPayload_ciphertext] at decoded
  have bytes := decodeBoundedBase64Url_bytes decoded
  have reopened : openSealed (scopedLedger secret material scope profile)
      otherKey iv otherAad (sealed (scopedLedger secret material scope profile)
        (vaultKeySealing secret material scope profile)) =
          some plaintext := by
    rw [← bytes]
    exact opened
  obtain ⟨body, member⟩ := mem_ledger_of_open List.mem_cons_self reopened
  rcases List.mem_cons.mp member with envelope | probe
  · exact ⟨congrArg Sealing.key envelope, congrArg Sealing.aad envelope⟩
  · have plaintexts : plaintext = uvkEqualityProbe :=
      congrArg Sealing.plaintext (List.mem_singleton.mp probe)
    exact absurd (body.symm.trans plaintexts) (plaintext_ne_probe long)

/-- The extractable handle a vault key is wrapped with. -/
def createdKey (material : AesKeyMaterial) : CryptoKey :=
  { algorithm := .aesGcm, material, extractable := true }

theorem wrap_createdKey {ledger : List Sealing} :
    wrapUserVaultKeyWithDerivedKeys (platform ledger) referenceIv
      (createdKey material) (keysOf secret) scope profile none =
        .ok (vaultKeyPayload ledger secret material scope profile) := rfl

theorem derive_password {ledger : List Sealing} (password : JsString) :
    deriveVaultPasswordKey (platform ledger) password salt.val =
      .ok (keysOf (stringToBytes password), kdfMetadata) := by
  have safeSalt := assertSafeArgon2idSalt_random salt
  simp only [deriveVaultPasswordKey, serializeArgon2idMetadata_eq safeSalt,
    deriveArgon2idKeyPair_eq assertSafeArgon2idParams_recommended safeSalt,
    Outcome.ok_bind]
  rfl

theorem create_passwordEnvelope {ledger : List Sealing} (password : JsString) :
    createPasswordEnvelope (platform ledger) referenceIv (createdKey material)
      password scope profile salt.val none =
        .ok
          { encryptedVaultKey := vaultKeyPayload ledger
              (stringToBytes password) material scope profile
            kdfMetadata := kdfMetadata } := by
  simp only [createPasswordEnvelope, derive_password, Outcome.ok_bind,
    wrap_createdKey]
  rfl

theorem platform_wellFormedMnemonics (ledger : List Sealing) :
    (platform ledger).WellFormedMnemonics := by
  intro text valid
  have phrases : text = phrase 128 ∨ text = phrase 256 := by
    have either : (text == phrase 128 || text == phrase 256) = true := valid
    rcases Bool.or_eq_true_iff.mp either with short | long
    · exact .inl (beq_iff_eq.mp short)
    · exact .inr (beq_iff_eq.mp long)
  have small : (text.all fun unit => decide (unit.toNat < 0x80)) = true := by
    rcases phrases with rfl | rfl
    · decide +kernel
    · decide +kernel
  have ascii : ∀ unit ∈ text, unit.toNat < 0x80 := by
    intro unit inside
    exact of_decide_eq_true (List.all_eq_true.mp small unit inside)
  exact ⟨_, (Utf8.ofChars_of_ascii ascii).symm⟩

def recoveryPhrase : JsString := phrase (strengthBits .twelve)

theorem derive_recoveryPhrase {ledger : List Sealing} :
    deriveRecoveryPhraseKey (platform ledger) recoveryPhrase salt.val =
      .ok (keysOf (stringToBytes recoveryPhrase), kdfMetadata) := by
  have safeSalt := assertSafeArgon2idSalt_random salt
  have usable : UsableRecoveryPhrase (platform ledger) .twelve
      recoveryPhrase :=
    createRecoveryPhrase_usable (platform_generatesMnemonics ledger) .twelve []
  simp only [deriveRecoveryPhraseKey, usable.normalized, usable.valid,
    serializeArgon2idMetadata_eq safeSalt,
    deriveArgon2idKeyPair_eq assertSafeArgon2idParams_recommended safeSalt,
    Bool.not_true, Bool.false_eq_true, if_false, Outcome.ok_bind]
  rfl

theorem create_recoveryEnvelope {ledger : List Sealing} :
    createRecoveryEnvelope (platform ledger) referenceIv (createdKey material)
      recoveryPhrase scope profile (some .twelve) salt.val none =
        .ok
          { encryptedVaultKey := vaultKeyPayload ledger
              (stringToBytes recoveryPhrase) material scope profile
            kdfMetadata := kdfMetadata
            publicMetadata := some (phraseLengthMetadata
              RecoveryPhraseWordCount.twelve.value) } := by
  simp only [createRecoveryEnvelope, derive_recoveryPhrase, Outcome.ok_bind,
    wrap_createdKey]
  rfl

/-- A PRF output that is longer than a key. -/
def prfOutput : Bytes := List.replicate 40 5

theorem create_passkeyEnvelope {ledger : List Sealing} :
    createPasskeyPrfEnvelope (platform ledger) referenceIv
      (createdKey material) prfOutput referenceScope referenceProfile none =
        .ok { encryptedVaultKey := vaultKeyPayload ledger prfOutput material
                referenceScope referenceProfile } := rfl

def puk : Bytes := List.replicate 32 8

theorem create_brokerEncryptedVaultKey {ledger : List Sealing} :
    createPortableVaultBrokerEncryptedVaultKey (brokerPlatform ledger)
      referenceIv (createdKey material) puk referenceScope referenceProfile
      none =
        .ok (vaultKeyPayload ledger puk material referenceScope
          referenceProfile) := rfl

end

/-- The platform on which one envelope of a vault key has been created. -/
def envelopePlatform (secret : Bytes) : BrokerPlatform :=
  brokerPlatform (envelopeLedger secret (Reference.material 7))

def createdEnvelope (secret : Bytes) : EncryptedVaultPayload :=
  vaultKeyPayload (envelopeLedger secret (Reference.material 7)) secret
    (Reference.material 7) referenceScope referenceProfile

theorem createdEnvelope_sealedForOneKey (secret : Bytes) :
    SealedForOneKey (envelopePlatform secret).toPlatform
      (createdEnvelope secret) :=
  vaultKeyPayload_sealedForOneKey List.length_replicate

/-- Passwords that differ in their first 32 bytes are told apart. -/
theorem separatesPasswords_of_derive {ledger : List Sealing}
    {first second : Bytes} (different : derive first ≠ derive second) :
    (platform ledger).SeparatesPasswords first second := by
  intro salt params same
  exact absurd same different

end Reference

/-- One envelope of each kind, with another secret and with its own. -/
theorem envelope_round_trip_reference :
    let secret := stringToBytes Reference.unlockSecret
    let phrase := stringToBytes Reference.recoveryPhrase
    OpensExactlyWhen
      (unlockWithPasswordEnvelope
        (Reference.envelopePlatform secret).toPlatform (js "other")
        { encryptedVaultKey := Reference.createdEnvelope secret
          kdfMetadata := Reference.kdfMetadata } referenceScope
        referenceProfile)
      (vaultPasswordBytes (Reference.envelopePlatform secret).toPlatform
          Reference.unlockSecret =
        vaultPasswordBytes (Reference.envelopePlatform secret).toPlatform
          (js "other"))
      (Reference.createdKey (Reference.material 7)) ∧
    OpensExactlyWhen
      (unlockWithRecoveryEnvelope
        (Reference.envelopePlatform phrase).toPlatform Reference.recoveryPhrase
        { encryptedVaultKey := Reference.createdEnvelope phrase
          kdfMetadata := Reference.kdfMetadata
          publicMetadata := some (phraseLengthMetadata
            RecoveryPhraseWordCount.twelve.value) } referenceScope
        referenceProfile none)
      (normalizeRecoveryPhrase (Reference.envelopePlatform phrase).toPlatform
            Reference.recoveryPhrase =
          normalizeRecoveryPhrase
            (Reference.envelopePlatform phrase).toPlatform
            Reference.recoveryPhrase ∧
        validateRecoveryPhraseFormat
          (Reference.envelopePlatform phrase).toPlatform
          (normalizeRecoveryPhrase
            (Reference.envelopePlatform phrase).toPlatform
            Reference.recoveryPhrase) = true ∧
        validateRecoveryPhraseFormat
          (Reference.envelopePlatform phrase).toPlatform
          (normalizeRecoveryPhrase
            (Reference.envelopePlatform phrase).toPlatform
            Reference.recoveryPhrase) = true)
      (Reference.createdKey (Reference.material 7)) ∧
    OpensExactlyWhen
      (unlockWithPasskeyPrfEnvelope
        (Reference.envelopePlatform Reference.prfOutput).toPlatform
        { encryptedVaultKey :=
            Reference.createdEnvelope Reference.prfOutput }
        (some Reference.puk) referenceScope referenceProfile true)
      (32 ≤ Reference.prfOutput.length ∧ 32 ≤ Reference.puk.length ∧
        Reference.prfOutput.take 32 = Reference.puk.take 32)
      (Reference.createdKey (Reference.material 7)) ∧
    OpensExactlyWhen
      (unlockPortableVaultBrokerEncryptedVaultKey
        (Reference.envelopePlatform Reference.puk)
        (Reference.createdEnvelope Reference.puk) Reference.puk
        referenceScope referenceProfile)
      (Reference.puk = Reference.puk ∧
        Reference.puk.length = portableVaultUnlockKeyBytes)
      (Reference.createdKey (Reference.material 7)) := by
  have roundTrip := fun secret => @envelope_round_trip
    (Reference.envelopePlatform secret) (Reference.platform_lawful _)
    (Reference.platform_lowerCaseStable _)
    (Reference.platform_wellFormedMnemonics _)
    (Reference.createdKey (Reference.material 7))
    ⟨rfl, List.length_replicate⟩
    (Reference.envelopeLedger_idealProbe List.length_replicate)
    referenceScope referenceProfile none
  refine ⟨?_, ?_, ?_, ?_⟩
  · exact (roundTrip _).1 _ _ _ _ _
      (Reference.create_passwordEnvelope Reference.unlockSecret)
      (Reference.createdEnvelope_sealedForOneKey _)
      (Reference.separatesPasswords_of_derive (by decide +kernel))
  · exact (roundTrip _).2.1 _ _ _ _ _ _ Reference.create_recoveryEnvelope
      (Reference.createdEnvelope_sealedForOneKey _) (fun _ _ _ => rfl)
  · exact (roundTrip _).2.2.1 _ _ _ _ _ Reference.create_passkeyEnvelope
      (Reference.createdEnvelope_sealedForOneKey _)
  · exact (roundTrip _).2.2.2 _ _ _ _
      Reference.create_brokerEncryptedVaultKey
      (Reference.createdEnvelope_sealedForOneKey _) (fun _ => rfl)

end VaultCore
