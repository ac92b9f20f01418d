import VaultCore.Envelopes.IndependentAuthorization
import VaultCore.Envelopes.Reference

/-!
# When independent authorization creates an envelope

The call gives an envelope only to a secret that opens the supplied envelope,
and to every such secret when its other inputs pass their checks.  The metadata
is checked as the caller passed it and again with the two members the call adds,
so metadata that only the addition would make safe is refused.
-/

namespace VaultCore

namespace PasskeyVariantIndependentAuthorization

/-- What the secret opens the supplied envelope to. -/
def opened (platform : Platform) (expectedScope : VaultScope)
    (profile : VaultCryptoProfile) :
    PasskeyVariantIndependentAuthorization → Except VaultError CryptoKey
  | .password vaultPassword envelope =>
      unlockWithPasswordEnvelope platform vaultPassword envelope expectedScope
        profile
  | .recoveryPhrase phrase envelope _ =>
      unlockWithRecoveryEnvelope platform phrase envelope expectedScope profile
        none
  | .other => .error (.typeError
      "Independent authorization must use password or recovery phrase")

/-- The schema of its method accepts the supplied envelope. -/
def SchemaValid (platform : Platform) :
    PasskeyVariantIndependentAuthorization → Prop
  | .password _ envelope =>
      ∃ parsed, passwordEnvelopeSchema platform envelope = some parsed
  | .recoveryPhrase _ envelope _ =>
      ∃ parsed, recoveryPhraseEnvelopeSchema platform envelope = some parsed
  | .other => False

/-- An expected number of words is the number of words of the phrase. -/
def CountAgrees (platform : Platform) :
    PasskeyVariantIndependentAuthorization → Prop
  | .recoveryPhrase phrase _ expectedWordCount =>
      ∀ expected, expectedWordCount = some expected →
        getRecoveryPhraseWordCount platform
          (normalizeRecoveryPhrase platform phrase) = some expected
  | _ => True

/-- The supplied envelope was sealed under the keys of the secret, for its own
record written in one of the two fixed orders. -/
def SealedInOrder (platform : Platform) (profile : VaultCryptoProfile) :
    PasskeyVariantIndependentAuthorization → Prop
  | .password vaultPassword envelope =>
      ∃ keys, deriveVaultPasswordKeyPairFromMetadata platform vaultPassword
          envelope.kdfMetadata = .ok keys ∧
        SealedInFixedOrder platform profile envelope.encryptedVaultKey
          keys.encryptionKey
  | .recoveryPhrase phrase envelope _ =>
      ∃ keys, deriveRecoveryPhraseKeyFromMetadata platform phrase
          envelope.kdfMetadata = .ok keys ∧
        SealedInFixedOrder platform profile envelope.encryptedVaultKey
          keys.encryptionKey
  | .other => False

end PasskeyVariantIndependentAuthorization

/-- The metadata is safe, as passed and with the two members added. -/
structure MetadataAccepted (platform : Platform)
    (publicMetadata : Option MetadataValue) (credentialId : JsString) :
    Prop where
  passed : ∀ metadata, publicMetadata = some metadata →
    assertSafeVaultPublicMetadata platform metadata = .ok ()
  published : assertSafeVaultPublicMetadata platform
    (.object (withFixedFields publicMetadata credentialId)) = .ok ()

section

variable {platform : Platform} {expectedScope : VaultScope}
  {profile : VaultCryptoProfile} {key : CryptoKey}
  {authorization : PasskeyVariantIndependentAuthorization}

theorem schemaParse_ok_iff {α : Type} {read : Option α} {value : α} :
    schemaParse read = .ok value ↔ read = some value := by
  cases read with
  | none => simp [schemaParse]
  | some held => simp [schemaParse]

theorem assertExpectedWordCount_ok {recoveryPhrase : JsString}
    {expectedWordCount : Option RecoveryPhraseWordCount}
    (valid : validateRecoveryPhraseFormat platform
      (normalizeRecoveryPhrase platform recoveryPhrase) = true)
    (agrees : ∀ expected, expectedWordCount = some expected →
      getRecoveryPhraseWordCount platform
        (normalizeRecoveryPhrase platform recoveryPhrase) = some expected) :
    assertExpectedWordCount platform recoveryPhrase expectedWordCount =
      .ok () := by
  cases expectedWordCount with
  | none => rfl
  | some expected =>
      have counted := agrees expected rfl
      simp [assertExpectedWordCount, assertRecoveryPhraseUnlockInput, valid,
        counted]

/-- Keys derived for the envelope as the schema reads it, when they open it,
belong to a secret that opens the supplied envelope. -/
theorem opened_of_authorized {derived : DerivedAuthorization}
    (authorized : deriveAuthorization platform authorization = .ok derived)
    (unlocked : unlockVaultKeyEnvelopeWithAadRouting derived.encryptedVaultKey
      expectedScope profile (fun candidate =>
        unwrapUserVaultKeyWithDerivedKeys platform candidate derived.keys) =
      .ok key) :
    ∃ other, authorization.opened platform expectedScope profile =
      .ok other := by
  cases authorization with
  | password password supplied =>
      obtain ⟨envelope, read, rest⟩ := Outcome.bind_eq_ok_iff.mp authorized
      obtain ⟨keys, derivation, built⟩ := Outcome.bind_eq_ok_iff.mp rest
      cases built
      obtain ⟨payload, metadata, kdf⟩ :=
        passwordEnvelopeSchema_eq_some (schemaParse_ok_iff.mp read)
      rw [metadata] at derivation
      obtain ⟨material, rfl⟩ := deriveArgon2idKeyPairFromMetadata_ok derivation
      simp only [payload] at unlocked
      obtain ⟨other, routed⟩ := routing_opens_of_inSchemaOrder unlocked
      exact ⟨other, (unlockWithPasswordEnvelope_eq kdf derivation).trans
        routed⟩
  | recoveryPhrase recoveryPhrase supplied expectedWordCount =>
      obtain ⟨envelope, read, rest⟩ := Outcome.bind_eq_ok_iff.mp authorized
      obtain ⟨_, -, rest⟩ := Outcome.bind_eq_ok_iff.mp rest
      obtain ⟨keys, derivation, built⟩ := Outcome.bind_eq_ok_iff.mp rest
      cases built
      obtain ⟨payload, metadata, kdf⟩ :=
        recoveryPhraseEnvelopeSchema_eq_some (schemaParse_ok_iff.mp read)
      rw [metadata] at derivation
      obtain ⟨-, material, rfl⟩ :=
        deriveRecoveryPhraseKeyFromMetadata_ok derivation
      simp only [payload] at unlocked
      obtain ⟨other, routed⟩ := routing_opens_of_inSchemaOrder unlocked
      exact ⟨other, (unlockWithRecoveryEnvelope_eq rfl kdf derivation).trans
        routed⟩
  | other => cases authorized

/-- A secret that opens a valid envelope sealed in a fixed order derives keys
that open it, as the schema reads it, to the same key. -/
theorem authorized_of_opened
    (valid : authorization.SchemaValid platform)
    (agrees : authorization.CountAgrees platform)
    (ordered : authorization.SealedInOrder platform profile)
    (unlocked : authorization.opened platform expectedScope profile =
      .ok key) :
    ∃ derived, deriveAuthorization platform authorization = .ok derived ∧
      unlockVaultKeyEnvelopeWithAadRouting derived.encryptedVaultKey
        expectedScope profile (fun candidate =>
          unwrapUserVaultKeyWithDerivedKeys platform candidate derived.keys) =
        .ok key := by
  cases authorization with
  | password password supplied =>
      obtain ⟨envelope, read⟩ := valid
      obtain ⟨payload, metadata, -⟩ := passwordEnvelopeSchema_eq_some read
      obtain ⟨-, material, derivation, routed⟩ :=
        unlockWithPasswordEnvelope_ok unlocked
      obtain ⟨keys, again, fixed⟩ := ordered
      rw [derivation] at again
      cases again
      refine ⟨{ keys := derivedKeys material
                encryptedVaultKey := envelope.encryptedVaultKey }, ?_, ?_⟩
      · simp only [deriveAuthorization, schemaParse, read, metadata,
          derivation, Outcome.ok_bind, Outcome.pure_eq_ok]
      · simp only [payload]
        exact routing_inSchemaOrder_opens rfl fixed routed
  | recoveryPhrase recoveryPhrase supplied expectedWordCount =>
      obtain ⟨envelope, read⟩ := valid
      obtain ⟨payload, metadata, -⟩ := recoveryPhraseEnvelopeSchema_eq_some read
      obtain ⟨-, -, format, material, derivation, routed⟩ :=
        unlockWithRecoveryEnvelope_ok unlocked
      obtain ⟨keys, again, fixed⟩ := ordered
      rw [derivation] at again
      cases again
      refine ⟨{ keys := derivedKeys material
                encryptedVaultKey := envelope.encryptedVaultKey }, ?_, ?_⟩
      · simp only [deriveAuthorization, schemaParse, read, metadata,
          assertExpectedWordCount_ok format agrees, derivation,
          Outcome.ok_bind, Outcome.pure_eq_ok]
      · simp only [payload]
        exact routing_inSchemaOrder_opens rfl fixed routed
  | other => cases valid

/-! ## The call -/

variable {iv : Iv} {input : IndependentAuthorizationInput}
  {publicMetadata : MetadataMembers}

theorem checkedPublicMetadata_ok_iff {prfOutput : Bytes} :
    checkedPublicMetadata platform input prfOutput = .ok publicMetadata ↔
      vaultPasskeyOpaqueIdSchema input.verifiedCredentialId = true ∧
      32 ≤ prfOutput.length ∧
      MetadataAccepted platform input.publicMetadata
        input.verifiedCredentialId ∧
      publicMetadata =
        withFixedFields input.publicMetadata input.verifiedCredentialId := by
  unfold checkedPublicMetadata
  constructor
  · intro checked
    split_ifs at checked with invalid short
    obtain ⟨_, passed, rest⟩ := Outcome.bind_eq_ok_iff.mp checked
    obtain ⟨_, published, built⟩ := Outcome.bind_eq_ok_iff.mp rest
    cases built
    refine ⟨by simpa using invalid, not_lt.mp short, ⟨?_, published⟩, rfl⟩
    intro metadata given
    rw [given] at passed
    exact passed
  · intro accepted
    obtain ⟨valid, long, metadata, rfl⟩ := accepted
    have passed : assertPassedMetadata platform input.publicMetadata =
        .ok () := by
      cases given : input.publicMetadata with
      | none => rfl
      | some held => exact metadata.passed held given
    simp only [valid, Bool.not_true, Bool.false_eq_true, if_false,
      if_neg (not_lt.mpr long), passed, metadata.published, Outcome.ok_bind,
      Outcome.pure_eq_ok]

/-- The state after the copy of the PRF output was made and registered. -/
def AuthorizationCall.started (prfOutput : Bytes) : AuthorizationCall :=
  (AuthorizationCall.start.allocate (prfOutput.take 32)).register 0

theorem AuthorizationCall.started_custody (prfOutput : Bytes) :
    (AuthorizationCall.started prfOutput).Custody (prfOutput.take 32) := by
  constructor
  · intro index bound
    have first : index = 0 := Nat.lt_one_iff.mp bound
    rw [first]
    exact List.mem_singleton_self 0
  · rfl

/-- A call from its start: its answer and the buffers it leaves. -/
def independentAuthorizationRun (platform : Platform) (iv : Iv)
    (input : IndependentAuthorizationInput) :
    Except VaultError IndependentAuthorizationResult × AuthorizationCall :=
  createPasskeyPrfEnvelopeAfterIndependentAuthorization platform iv input
    AuthorizationCall.start

theorem independentAuthorizationRun_refused {error : VaultError}
    (refused : checkedPublicMetadata platform input (input.prfOutput 0) =
      .error error) :
    independentAuthorizationRun platform iv input =
      (.error error, AuthorizationCall.start) := by
  have reads : (get : Stateful AuthorizationCall VaultError AuthorizationCall)
      AuthorizationCall.start =
        (.ok AuthorizationCall.start, AuthorizationCall.start) := rfl
  have fails : (Stateful.liftExcept (checkedPublicMetadata platform input
      (input.prfOutput AuthorizationCall.start.awaited)))
        AuthorizationCall.start = (.error error, AuthorizationCall.start) :=
    congrArg (fun checked => (checked, AuthorizationCall.start)) refused
  unfold independentAuthorizationRun
    createPasskeyPrfEnvelopeAfterIndependentAuthorization
  rw [Stateful.bind_apply_ok reads, Stateful.bind_apply_error fails]

theorem independentAuthorizationRun_checked
    (checked : checkedPublicMetadata platform input (input.prfOutput 0) =
      .ok publicMetadata) :
    independentAuthorizationRun platform iv input =
      Stateful.tryFinally
        (authorizeAndRewrap platform iv input publicMetadata 0)
        AuthorizationCall.zeroSensitive
        (AuthorizationCall.started (input.prfOutput 0)) := by
  have reads : (get : Stateful AuthorizationCall VaultError AuthorizationCall)
      AuthorizationCall.start =
        (.ok AuthorizationCall.start, AuthorizationCall.start) := rfl
  have passes : (Stateful.liftExcept (checkedPublicMetadata platform input
      (input.prfOutput AuthorizationCall.start.awaited)))
        AuthorizationCall.start =
          (.ok publicMetadata, AuthorizationCall.start) :=
    congrArg (fun answer => (answer, AuthorizationCall.start)) checked
  unfold independentAuthorizationRun
    createPasskeyPrfEnvelopeAfterIndependentAuthorization
  rw [Stateful.bind_apply_ok reads, Stateful.bind_apply_ok passes]
  rfl

/-- What a call guarantees: who it gives an envelope, what the envelope opens
with, and what it leaves in its buffers. -/
structure IndependentlyAuthorized (platform : Platform)
    (input : IndependentAuthorizationInput)
    (run : Except VaultError IndependentAuthorizationResult ×
      AuthorizationCall) : Prop where
  necessary : ∀ result, run.1 = .ok result →
    ∃ key, input.authorization.opened platform input.expectedScope
      input.profile = .ok key
  sufficient : vaultPasskeyOpaqueIdSchema input.verifiedCredentialId = true →
    32 ≤ (input.prfOutput 0).length →
    MetadataAccepted platform input.publicMetadata
      input.verifiedCredentialId →
    input.authorization.SchemaValid platform →
    input.authorization.CountAgrees platform →
    input.authorization.SealedInOrder platform input.profile →
    ∀ key, input.authorization.opened platform input.expectedScope
        input.profile = .ok key →
      ∃ envelope, run.1 = .ok { vaultKey := key, envelope }
  reopens : ∀ result, run.1 = .ok result →
    result.vaultKey.extractable = false ∧
      ∀ prfRequired, unlockWithPasskeyPrfEnvelope platform
        result.envelope.toPasskeyPrfEnvelope
        (some ((input.prfOutput 0).take 32)) input.expectedScope input.profile
        prfRequired = .ok result.vaultKey
  published : ∀ result, run.1 = .ok result →
    result.envelope.publicMetadata.lookup (js "credentialId") =
        some (.string input.verifiedCredentialId) ∧
      result.envelope.publicMetadata.lookup (js "prfRequired") =
        some (.boolean true)
  zeroed : ∀ bytes ∈ run.2.buffers, ∀ byte ∈ bytes, byte = 0

/-- The result of a call whose checks passed. -/
theorem result_of_checked (crypto : platform.Lawful)
    {result : IndependentAuthorizationResult}
    (long : 32 ≤ (input.prfOutput 0).length)
    (answered : (authorizeAndRewrap platform iv input publicMetadata 0
      (AuthorizationCall.started (input.prfOutput 0))).1 = .ok result) :
    (∃ key, input.authorization.opened platform input.expectedScope
      input.profile = .ok key) ∧
    result.vaultKey.extractable = false ∧
    (∀ prfRequired, unlockWithPasskeyPrfEnvelope platform
      result.envelope.toPasskeyPrfEnvelope
      (some ((input.prfOutput 0).take 32)) input.expectedScope input.profile
      prfRequired = .ok result.vaultKey) ∧
    result.envelope.publicMetadata = publicMetadata := by
  have snapshotLong : 32 ≤ ((input.prfOutput 0).take 32).length := by
    rw [List.length_take]
    omega
  obtain ⟨derived, key, authorized, unlocked⟩ := authorizeAndRewrap_ok answered
  obtain ⟨envelope, built, handle, opens⟩ := authorizeAndRewrap_eq crypto
    (AuthorizationCall.started_custody _) snapshotLong authorized unlocked
  rw [built] at answered
  cases answered
  exact ⟨opened_of_authorized authorized unlocked, handle, opens, rfl⟩

theorem independent_authorization_exact (crypto : platform.Lawful) (iv : Iv)
    (input : IndependentAuthorizationInput) :
    IndependentlyAuthorized platform input
      (independentAuthorizationRun platform iv input) := by
  cases checked : checkedPublicMetadata platform input (input.prfOutput 0) with
  | error error =>
      rw [independentAuthorizationRun_refused checked]
      constructor
      case sufficient =>
        intro identifier long metadata
        have accepted := checkedPublicMetadata_ok_iff.mpr
          ⟨identifier, long, metadata, rfl⟩
        rw [checked] at accepted
        cases accepted
      case zeroed =>
        intro bytes member
        cases member
      all_goals
        intro result impossible
        cases impossible
  | ok publicMetadata =>
      obtain ⟨-, long, -, fixed⟩ := checkedPublicMetadata_ok_iff.mp checked
      rw [independentAuthorizationRun_checked checked]
      constructor
      case necessary =>
        intro result answered
        exact (result_of_checked crypto long answered).1
      case sufficient =>
        intro _ _ _ valid agrees ordered key opened
        have snapshotLong : 32 ≤ ((input.prfOutput 0).take 32).length := by
          rw [List.length_take]
          omega
        obtain ⟨derived, authorized, unlocked⟩ :=
          authorized_of_opened valid agrees ordered opened
        obtain ⟨envelope, built, -⟩ := authorizeAndRewrap_eq crypto
          (AuthorizationCall.started_custody _) snapshotLong authorized
          unlocked
        exact ⟨_, built⟩
      case reopens =>
        intro result answered
        obtain ⟨-, handle, opens, -⟩ := result_of_checked crypto long answered
        exact ⟨handle, opens⟩
      case published =>
        intro result answered
        obtain ⟨-, -, -, members⟩ := result_of_checked crypto long answered
        rw [members, fixed]
        exact withFixedFields_lookup _ _
      case zeroed =>
        exact AuthorizationCall.Custody.zeroSensitive
          (authorizeAndRewrap_custody _
            (AuthorizationCall.started_custody _))

end

namespace Reference

/-- A call authorized by the password of a contextless envelope, whose caller
overwrites its PRF array at once. -/
def authorizingInput (publicMetadata : Option MetadataValue) :
    IndependentAuthorizationInput :=
  { authorization := .password unlockSecret
      { encryptedVaultKey := contextlessVaultKey, kdfMetadata := kdfMetadata }
    verifiedCredentialId := js "credential"
    prfOutput := fun awaited =>
      List.replicate 32 (if awaited = 0 then 9 else 0)
    expectedScope := referenceScope
    profile := referenceProfile
    publicMetadata }

/-- Metadata with a member that was left undefined. -/
def undefinedMember : MetadataValue :=
  .object [(js "prfRequired", .undefined)]

theorem contextlessVaultKey_sealedInOrder :
    SealedInFixedOrder idealPlatform referenceProfile contextlessVaultKey
      unlockKeys.encryptionKey := by
  refine ⟨stringToBytes (canonicalAadString sealedVaultKey.aad), ?_, ?_⟩
  · intro iv ciphertext aadBytes plaintext _ decoded opened
    rw [contextlessVaultKey_ciphertext] at decoded
    exact (sealedVaultKey_opens_once decoded opened).2
  · refine ⟨.text referenceProfile.aadContextEnvelope, ?_, .inl rfl⟩
    change _ ∈ routedContexts referenceProfile .missing
    decide +kernel

theorem authorizingInput_ready (publicMetadata : Option MetadataValue) :
    (authorizingInput publicMetadata).authorization.SchemaValid
        idealPlatform ∧
      (authorizingInput publicMetadata).authorization.CountAgrees
        idealPlatform ∧
      (authorizingInput publicMetadata).authorization.SealedInOrder
        idealPlatform referenceProfile ∧
      (authorizingInput publicMetadata).authorization.opened idealPlatform
        referenceScope referenceProfile = .ok openedVaultKey := by
  have valid : (passwordEnvelopeSchema idealPlatform
      { encryptedVaultKey := contextlessVaultKey
        kdfMetadata := kdfMetadata }).isSome = true := by
    decide +kernel
  exact ⟨Option.isSome_iff_exists.mp valid, trivial,
    ⟨unlockKeys, derive_unlockKeys, contextlessVaultKey_sealedInOrder⟩,
    unlock_contextlessVaultKey⟩

end Reference

/-- Metadata that is safe with the two members added is refused when a member
they replace is undefined. -/
theorem undefined_member_refused :
    vaultPasskeyOpaqueIdSchema (js "credential") = true ∧
    assertSafeVaultPublicMetadata Reference.idealPlatform
      (.object (withFixedFields (some Reference.undefinedMember)
        (js "credential"))) = .ok () ∧
    (Reference.authorizingInput
        (some Reference.undefinedMember)).authorization.SchemaValid
      Reference.idealPlatform ∧
    (Reference.authorizingInput
        (some Reference.undefinedMember)).authorization.CountAgrees
      Reference.idealPlatform ∧
    (Reference.authorizingInput
        (some Reference.undefinedMember)).authorization.SealedInOrder
      Reference.idealPlatform referenceProfile ∧
    (Reference.authorizingInput
        (some Reference.undefinedMember)).authorization.opened
      Reference.idealPlatform referenceScope referenceProfile =
        .ok Reference.openedVaultKey ∧
    ∀ result, (independentAuthorizationRun Reference.idealPlatform referenceIv
      (Reference.authorizingInput (some Reference.undefinedMember))).1 ≠
        .ok result := by
  obtain ⟨valid, agrees, ordered, opened⟩ :=
    Reference.authorizingInput_ready (some Reference.undefinedMember)
  refine ⟨by decide +kernel, by decide +kernel, valid, agrees, ordered, opened,
    ?_⟩
  intro result answered
  have refuses : assertSafeVaultPublicMetadata Reference.idealPlatform
      Reference.undefinedMember = .error notJsonMetadata := by
    decide +kernel
  cases checked : checkedPublicMetadata Reference.idealPlatform
      (Reference.authorizingInput (some Reference.undefinedMember))
      ((Reference.authorizingInput
        (some Reference.undefinedMember)).prfOutput 0) with
  | error error =>
      rw [independentAuthorizationRun_refused checked] at answered
      cases answered
  | ok publicMetadata =>
      obtain ⟨-, -, metadata, -⟩ := checkedPublicMetadata_ok_iff.mp checked
      have passed := metadata.passed Reference.undefinedMember rfl
      rw [refuses] at passed
      cases passed

/-- The contextless envelope authorizes a further passkey envelope. -/
theorem independent_authorization_exact_contextless :
    ∃ envelope,
      (independentAuthorizationRun Reference.idealPlatform referenceIv
        (Reference.authorizingInput none)).1 =
        .ok { vaultKey := Reference.openedVaultKey, envelope } := by
  obtain ⟨valid, agrees, ordered, opened⟩ :=
    Reference.authorizingInput_ready none
  have safe : MetadataAccepted Reference.idealPlatform none
      (js "credential") := by
    refine ⟨?_, by decide +kernel⟩
    intro metadata impossible
    cases impossible
  exact (independent_authorization_exact (Reference.platform_lawful _)
    referenceIv (Reference.authorizingInput none)).sufficient
      (by decide +kernel) (by decide) safe valid agrees ordered _ opened

end VaultCore
