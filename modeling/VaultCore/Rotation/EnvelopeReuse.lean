import VaultCore.Rotation.CacheReuse
import VaultCore.Envelopes.Reference

/-!
# Unlocking an envelope and using it again

Unlocking tries several contexts for an envelope; rotation, upgrade and
caching extract it once, under the record it is stored with.  The two agree on
exactly those envelopes whose ciphertext was sealed under their stored record.
-/

namespace VaultCore

/-- An envelope with the secret that opens it. -/
inductive SecretEnvelope where
  | password (vaultPassword : JsString) (envelope : PasswordEnvelope)
  | recovery (recoveryPhrase : JsString)
      (expectedWordCount : Option RecoveryPhraseWordCount)
      (envelope : RecoveryPhraseEnvelope)
  | passkeyPrf (prfOutput : Bytes) (envelope : PasskeyPrfEnvelope)

namespace SecretEnvelope

def encryptedVaultKey : SecretEnvelope → EncryptedVaultPayload
  | .password _ envelope => envelope.encryptedVaultKey
  | .recovery _ _ envelope => envelope.encryptedVaultKey
  | .passkeyPrf _ envelope => envelope.encryptedVaultKey

variable (platform : Platform)

def unlock (scope : VaultScope) (profile : VaultCryptoProfile) :
    SecretEnvelope → Except VaultError CryptoKey
  | .password vaultPassword envelope =>
      unlockWithPasswordEnvelope platform vaultPassword envelope scope profile
  | .recovery recoveryPhrase expectedWordCount envelope =>
      unlockWithRecoveryEnvelope platform recoveryPhrase envelope scope
        profile expectedWordCount
  | .passkeyPrf prfOutput envelope =>
      unlockWithPasskeyPrfEnvelope platform envelope (some prfOutput) scope
        profile true

/-- The keys of the secret. -/
def keys : SecretEnvelope → Except VaultError DerivedKeys
  | .password vaultPassword envelope =>
      deriveVaultPasswordKeyPairFromMetadata platform vaultPassword
        envelope.kdfMetadata
  | .recovery recoveryPhrase _ envelope =>
      deriveRecoveryPhraseKeyFromMetadata platform recoveryPhrase
        envelope.kdfMetadata
  | .passkeyPrf prfOutput _ => do
      let encryptionKey ← importPrfAesGcmKey prfOutput
      let wrappingKey ← importPrfAesKwKey prfOutput
      return { encryptionKey, wrappingKey }

/-- The ciphertext of the envelope opens under the keys of the secret for
these authenticated bytes only. -/
def SealedUnder (source : SecretEnvelope) (aadBytes : Bytes) : Prop :=
  ∀ keys, source.keys platform = .ok keys →
    AuthenticatedAs platform source.encryptedVaultKey keys.encryptionKey
      aadBytes

end SecretEnvelope

/-- An operation that uses an envelope again. -/
inductive EnvelopeReuse where
  | passwordRotation (currentPassword newPassword : JsString)
      (envelope : PasswordEnvelope)
  | recoveryRotation (authorization : VaultRotationAuthorization)
      (newRecoveryPhrase : Option JsString)
      (wordCount : Option RecoveryPhraseWordCount)
      (confirmNewRecoveryPhrase : Option JsString)
      (recoveryKit : Option RecoveryKit)
  | passwordUpgrade (vaultPassword : JsString)
      (envelope : PasswordEnvelope)
  | recoveryUpgrade (recoveryPhrase : JsString)
      (expectedWordCount : Option RecoveryPhraseWordCount)
      (envelope : RecoveryPhraseEnvelope)
  | passwordCache (session : SessionState)
      (operation : Option VaultSessionOperation) (vaultPassword : JsString)
      (envelope : PasswordEnvelope)
  | recoveryCache (session : SessionState)
      (operation : Option VaultSessionOperation) (recoveryPhrase : JsString)
      (expectedWordCount : Option RecoveryPhraseWordCount)
      (envelope : RecoveryPhraseEnvelope)
  | passkeyCache (session : SessionState)
      (operation : Option VaultSessionOperation) (prfOutput : Bytes)
      (envelope : PasskeyPrfEnvelope)

/-- The envelope that authorizes a rotation. -/
def VaultRotationAuthorization.source :
    VaultRotationAuthorization → SecretEnvelope
  | .password currentPassword passwordEnvelope =>
      .password currentPassword passwordEnvelope
  | .passkeyPrf prfOutput passkeyEnvelope =>
      .passkeyPrf prfOutput passkeyEnvelope

namespace EnvelopeReuse

def source : EnvelopeReuse → SecretEnvelope
  | .passwordRotation currentPassword _ envelope =>
      .password currentPassword envelope
  | .recoveryRotation authorization _ _ _ _ => authorization.source
  | .passwordUpgrade vaultPassword envelope =>
      .password vaultPassword envelope
  | .recoveryUpgrade recoveryPhrase expectedWordCount envelope =>
      .recovery recoveryPhrase expectedWordCount envelope
  | .passwordCache _ _ vaultPassword envelope =>
      .password vaultPassword envelope
  | .recoveryCache _ _ recoveryPhrase expectedWordCount envelope =>
      .recovery recoveryPhrase expectedWordCount envelope
  | .passkeyCache _ _ prfOutput envelope =>
      .passkeyPrf prfOutput envelope

variable (platform : Platform)

/-- The phrase a rotation changes to, in its normal form. -/
def nextRecoveryPhrase (newRecoveryPhrase : Option JsString)
    (wordCount : Option RecoveryPhraseWordCount) (entropy : Bytes) :
    JsString :=
  normalizeRecoveryPhrase platform (newRecoveryPhrase.getD
    (createRecoveryPhrase platform (wordCount.getD .twentyFour) entropy))

/-- The operation is called as it is meant to be. -/
def Admissible (entropy : Bytes) : EnvelopeReuse → Prop
  | .passwordRotation currentPassword newPassword _ =>
      platform.normalizeNfkc newPassword ≠
        platform.normalizeNfkc currentPassword
  | .recoveryRotation _ newRecoveryPhrase wordCount
      confirmNewRecoveryPhrase _ =>
      assertNewRecoveryPhrase platform
        (nextRecoveryPhrase platform newRecoveryPhrase wordCount entropy)
        (wordCount.getD .twentyFour) confirmNewRecoveryPhrase = .ok ()
  | .passwordUpgrade _ envelope =>
      isEnvelopeKdfUpgradeRecommended envelope.kdfMetadata = true
  | .recoveryUpgrade _ _ envelope =>
      isEnvelopeKdfUpgradeRecommended envelope.kdfMetadata = true
  | .passwordCache session operation _ _ =>
      session.mutationAllowed operation = .ok () ∧ session.EntryAllocated
  | .recoveryCache session operation _ _ _ =>
      session.mutationAllowed operation = .ok () ∧ session.EntryAllocated
  | .passkeyCache session operation _ _ =>
      session.mutationAllowed operation = .ok () ∧ session.EntryAllocated

/-- The operation ends well, and what it leaves opens to the key. -/
def Succeeds (iv : Iv) (salt : Argon2idSalt) (entropy : Bytes)
    (vaultKey : CryptoKey) (scope : VaultScope)
    (profile : VaultCryptoProfile) (key : CryptoKey) : EnvelopeReuse → Prop
  | .passwordRotation currentPassword newPassword currentEnvelope =>
      ∃ result,
        rotateVaultPassword platform iv salt
          { vaultKey, currentPassword, newPassword, currentEnvelope, scope
            profile } = .ok result ∧
        unlockWithPasswordEnvelope platform newPassword result.envelope scope
          profile = .ok key
  | .recoveryRotation authorization newRecoveryPhrase wordCount
      confirmNewRecoveryPhrase recoveryKit =>
      ∃ result,
        rotateRecoveryPhrase platform iv salt entropy
          { vaultKey, authorization, scope, profile, newRecoveryPhrase
            wordCount, confirmNewRecoveryPhrase, recoveryKit } = .ok result ∧
        unlockWithRecoveryEnvelope platform result.recoveryPhrase
          result.envelope scope profile
          (parseRecoveryPhraseWordCount result.envelope.publicMetadata) =
            .ok key
  | .passwordUpgrade vaultPassword envelope =>
      ∃ result upgraded,
        maybeUpgradePasswordEnvelopeAfterUnlock platform iv salt
          { vaultKey, vaultPassword, envelope, scope, profile } = .ok result ∧
        result.upgradedEnvelope = some upgraded ∧
        unlockWithPasswordEnvelope platform vaultPassword upgraded scope
          profile = .ok key
  | .recoveryUpgrade recoveryPhrase expectedWordCount envelope =>
      ∃ result upgraded,
        maybeUpgradeRecoveryEnvelopeAfterUnlock platform iv salt
          { vaultKey, recoveryPhrase, envelope, scope, profile
            expectedWordCount } = .ok result ∧
        result.upgradedEnvelope = some upgraded ∧
        unlockWithRecoveryEnvelope platform recoveryPhrase upgraded scope
          profile expectedWordCount = .ok key
  | .passwordCache session operation vaultPassword envelope =>
      CachesKey platform (cacheVaultInnerKeyMaterialAfterPasswordUnlock
        platform vaultKey envelope vaultPassword operation) session key
  | .recoveryCache session operation recoveryPhrase _ envelope =>
      CachesKey platform (cacheVaultInnerKeyMaterialAfterRecoveryUnlock
        platform vaultKey envelope recoveryPhrase operation) session key
  | .passkeyCache session operation prfOutput envelope =>
      CachesKey platform (cacheVaultInnerKeyMaterialFromPasskeyUnlock
        platform vaultKey envelope prfOutput operation) session key

end EnvelopeReuse

section

variable {platform : Platform} {scope : VaultScope}
  {profile : VaultCryptoProfile} {key vaultKey : CryptoKey}

/-- Routing opened the envelope with the keys of its secret. -/
theorem SecretEnvelope.unlock_ok {source : SecretEnvelope}
    (unlocked : source.unlock platform scope profile = .ok key) :
    ∃ material, source.keys platform = .ok (derivedKeys material) ∧
      unlockVaultKeyEnvelopeWithAadRouting source.encryptedVaultKey scope
        profile (fun candidate => unwrapUserVaultKeyWithDerivedKeys platform
          candidate (derivedKeys material)) = .ok key := by
  cases source with
  | password vaultPassword envelope =>
      exact (unlockWithPasswordEnvelope_ok unlocked).2
  | recovery recoveryPhrase expectedWordCount envelope =>
      exact (unlockWithRecoveryEnvelope_ok unlocked).2.2.2
  | passkeyPrf prfOutput envelope =>
      have withPasskey : unlockWithPasskeyPrfEnvelope platform envelope
          (some prfOutput) scope profile true = .ok key := unlocked
      obtain ⟨output, given, unwrapped⟩ :=
        unlockWithPasskeyPrfEnvelope_ok withPasskey
      cases given
      obtain ⟨-, material, gcm, kw, opened⟩ :=
        unwrapVaultKeyFromPasskey_ok unwrapped
      refine ⟨material, ?_, opened⟩
      simp only [SecretEnvelope.keys, gcm, kw, Outcome.ok_bind]
      rfl

theorem unlockWithAuthorization_of_source
    {authorization : VaultRotationAuthorization}
    (unlocked : authorization.source.unlock platform scope profile = .ok key) :
    unlockWithAuthorization platform authorization scope profile = .ok key := by
  cases authorization with
  | password currentPassword passwordEnvelope => exact unlocked
  | passkeyPrf prfOutput passkeyEnvelope =>
      have withPasskey : unlockWithPasskeyPrfEnvelope platform passkeyEnvelope
          (some prfOutput) scope profile true = .ok key := unlocked
      obtain ⟨output, given, unwrapped⟩ :=
        unlockWithPasskeyPrfEnvelope_ok withPasskey
      cases given
      obtain ⟨long, -⟩ := unwrapVaultKeyFromPasskey_ok unwrapped
      rw [unlockWithAuthorization, if_neg (not_lt.mpr long)]
      exact withPasskey

theorem authorizationKeys_of_source
    {authorization : VaultRotationAuthorization} {keys : DerivedKeys}
    (derived : authorization.source.keys platform = .ok keys) :
    authorizationKeys platform authorization =
      .ok (authorization.source.encryptedVaultKey, keys) := by
  cases authorization with
  | password currentPassword passwordEnvelope =>
      have found : deriveVaultPasswordKeyPairFromMetadata platform
          currentPassword passwordEnvelope.kdfMetadata = .ok keys := derived
      simp only [authorizationKeys, found, Outcome.ok_bind]
      rfl
  | passkeyPrf prfOutput passkeyEnvelope =>
      obtain ⟨encryptionKey, gcm, rest⟩ := Outcome.bind_eq_ok_iff.mp derived
      obtain ⟨wrappingKey, kw, built⟩ := Outcome.bind_eq_ok_iff.mp rest
      cases built
      simp only [authorizationKeys, gcm, kw, Outcome.ok_bind]
      rfl

/-- An operation that uses an opened envelope again succeeds exactly when the
envelope's blob is extracted as the envelope is stored. -/
theorem EnvelopeReuse.succeeds_iff_extracts (crypto : platform.Lawful)
    (stable : platform.LowerCaseStable) (iv : Iv) (salt : Argon2idSalt)
    (entropy : Bytes) {reuse : EnvelopeReuse} {material : Bytes32}
    {inner : Bytes}
    (unlocked : reuse.source.unlock platform scope profile = .ok key)
    (derived : reuse.source.keys platform = .ok (derivedKeys material))
    (extractable : Extractable platform reuse.source.encryptedVaultKey
      (derivedKeys material) inner key)
    (same : SameVaultKey vaultKey key)
    (admissible : reuse.Admissible platform entropy) :
    reuse.Succeeds platform iv salt entropy vaultKey scope profile key ↔
      extractInnerVaultKeyBlob platform reuse.source.encryptedVaultKey
        (derivedKeys material).encryptionKey = .ok inner := by
  cases reuse with
  | passwordRotation currentPassword newPassword envelope =>
      have different : currentPassword ≠ newPassword := by
        intro unchanged
        exact admissible (congrArg platform.normalizeNfkc unchanged.symm)
      refine Iff.trans ?_ (rewrapPasswordEnvelope_iff crypto iv salt
        newPassword "Current vault password is incorrect" unlocked derived
        extractable same)
      simp only [Succeeds, rotateVaultPassword, if_neg different]
      constructor
      · rintro ⟨result, success, opens⟩
        obtain ⟨rewrapped, ran, built⟩ := Outcome.bind_eq_ok_iff.mp success
        cases built
        exact ⟨rewrapped, ran, opens⟩
      · rintro ⟨rewrapped, ran, opens⟩
        rw [ran, Outcome.ok_bind]
        exact ⟨_, rfl, opens⟩
  | recoveryRotation authorization newRecoveryPhrase wordCount
      confirmNewRecoveryPhrase recoveryKit =>
      exact rotateRecoveryPhrase_iff crypto stable iv salt entropy
        (unlockWithAuthorization_of_source unlocked)
        (authorizationKeys_of_source derived) extractable same admissible
  | passwordUpgrade vaultPassword envelope =>
      have recommended : (!isEnvelopeKdfUpgradeRecommended
          envelope.kdfMetadata) = false := by
        rw [show isEnvelopeKdfUpgradeRecommended envelope.kdfMetadata = true
          from admissible]
        rfl
      refine Iff.trans ?_ (rewrapPasswordEnvelope_iff crypto iv salt
        vaultPassword "Vault key mismatch during envelope upgrade" unlocked
        derived extractable same)
      simp only [Succeeds, maybeUpgradePasswordEnvelopeAfterUnlock,
        recommended, Bool.false_eq_true, if_false]
      constructor
      · rintro ⟨result, upgraded, success, holds, opens⟩
        obtain ⟨rewrapped, ran, built⟩ := Outcome.bind_eq_ok_iff.mp success
        cases built
        cases holds
        exact ⟨upgraded, ran, opens⟩
      · rintro ⟨rewrapped, ran, opens⟩
        rw [ran, Outcome.ok_bind]
        exact ⟨_, _, rfl, rfl, opens⟩
  | recoveryUpgrade recoveryPhrase expectedWordCount envelope =>
      exact maybeUpgradeRecoveryEnvelopeAfterUnlock_iff crypto iv salt
        admissible unlocked derived extractable same
  | passwordCache session operation vaultPassword envelope =>
      refine Iff.trans ?_ (extractAndCache_iff crypto admissible.1
        admissible.2 extractable same)
      apply CachesKey.of_runAlone_eq
      exact cacheVaultInnerKeyMaterialAfterPasswordUnlock_runAlone
        admissible.1 (unlockWithPasswordEnvelope_ok unlocked).1 derived
  | recoveryCache session operation recoveryPhrase expectedWordCount
      envelope =>
      refine Iff.trans ?_ (extractAndCache_iff crypto admissible.1
        admissible.2 extractable same)
      apply CachesKey.of_runAlone_eq
      exact cacheVaultInnerKeyMaterialAfterRecoveryUnlock_runAlone
        admissible.1 (unlockWithRecoveryEnvelope_ok unlocked).2.1 derived
  | passkeyCache session operation prfOutput envelope =>
      refine Iff.trans ?_ (extractAndCache_iff crypto admissible.1
        admissible.2 extractable same)
      apply CachesKey.of_runAlone_eq
      obtain ⟨encryptionKey, gcm, rest⟩ := Outcome.bind_eq_ok_iff.mp derived
      obtain ⟨wrappingKey, kw, built⟩ := Outcome.bind_eq_ok_iff.mp rest
      have pair := Except.ok.inj built
      apply cacheVaultInnerKeyMaterialFromPasskeyUnlock_runAlone admissible.1
      · rw [← pair]
        exact gcm
      · rw [← pair]
        exact kw

/-- Every operation that uses an opened envelope again succeeds, and what it
leaves opens to the same key, exactly when the envelope's ciphertext was sealed
under the record the envelope is stored with. -/
theorem envelope_reuse_iff (crypto : platform.Lawful)
    (stable : platform.LowerCaseStable) (iv : Iv) (salt : Argon2idSalt)
    (entropy : Bytes) (reuse : EnvelopeReuse) {aadBytes : Bytes}
    (unlocked : reuse.source.unlock platform scope profile = .ok key)
    (authentic : reuse.source.SealedUnder platform aadBytes)
    (same : SameVaultKey vaultKey key)
    (admissible : reuse.Admissible platform entropy) :
    reuse.Succeeds platform iv salt entropy vaultKey scope profile key ↔
      aadBytes ∈ aadByteCandidates reuse.source.encryptedVaultKey.aad := by
  obtain ⟨material, derived, opened⟩ := SecretEnvelope.unlock_ok unlocked
  obtain ⟨inner, extractable, extracts⟩ :=
    extractable_of_unlocked opened (authentic _ derived)
  rw [← extracts]
  exact EnvelopeReuse.succeeds_iff_extracts crypto stable iv salt entropy
    unlocked derived extractable same admissible

end

namespace Reference

private theorem sealedUnder_canonical (stored : EncryptedVaultPayload)
    (newPassword : JsString)
    (sameCiphertext : stored.ciphertext = sealedVaultKey.ciphertext) :
    (EnvelopeReuse.passwordRotation unlockSecret newPassword
      { encryptedVaultKey := stored
        kdfMetadata := kdfMetadata }).source.SealedUnder idealPlatform
          (stringToBytes (canonicalAadString sealedVaultKey.aad)) := by
  intro keys derived iv ciphertext other plaintext _ decoded opened
  have payload : decodeBoundedBase64Url stored.ciphertext
      maxVaultCiphertextBytes = .ok ciphertext := decoded
  rw [sameCiphertext] at payload
  exact (sealedVaultKey_opens_once payload opened).2

private theorem sameVaultKey_opened : SameVaultKey openedVaultKey openedVaultKey :=
  ⟨rfl, rfl⟩

private theorem renewed_differs : idealPlatform.normalizeNfkc (js "renewed") ≠
    idealPlatform.normalizeNfkc unlockSecret := by
  decide

end Reference

open Reference in
/-- A password rotation of an envelope that is stored as it was sealed. -/
theorem envelope_reuse_iff_canonical :
    (EnvelopeReuse.passwordRotation unlockSecret (js "renewed")
      { encryptedVaultKey := sealedVaultKey
        kdfMetadata := kdfMetadata }).Succeeds idealPlatform referenceIv salt
          [] openedVaultKey referenceScope referenceProfile openedVaultKey ↔
      stringToBytes (canonicalAadString sealedVaultKey.aad) ∈
        aadByteCandidates sealedVaultKey.aad :=
  envelope_reuse_iff (platform_lawful [soleSealing])
    (platform_lowerCaseStable [soleSealing]) referenceIv salt []
    (.passwordRotation unlockSecret (js "renewed")
      { encryptedVaultKey := sealedVaultKey, kdfMetadata := kdfMetadata })
    unlock_sealedVaultKey
    (sealedUnder_canonical sealedVaultKey (js "renewed") rfl)
    sameVaultKey_opened renewed_differs

open Reference in
/-- An envelope stored without its context is unlocked, and its password
cannot be rotated. -/
theorem contextless_envelope_not_rotated :
    let reuse := EnvelopeReuse.passwordRotation unlockSecret (js "renewed")
      { encryptedVaultKey := contextlessVaultKey, kdfMetadata := kdfMetadata }
    idealPlatform.Lawful ∧ idealPlatform.LowerCaseStable ∧
      reuse.source.unlock idealPlatform referenceScope referenceProfile =
        .ok openedVaultKey ∧
      reuse.source.SealedUnder idealPlatform
        (stringToBytes (canonicalAadString sealedVaultKey.aad)) ∧
      SameVaultKey openedVaultKey openedVaultKey ∧
      reuse.Admissible idealPlatform [] ∧
      ¬ reuse.Succeeds idealPlatform referenceIv salt [] openedVaultKey
        referenceScope referenceProfile openedVaultKey := by
  intro reuse
  have crypto : idealPlatform.Lawful := platform_lawful [soleSealing]
  have stable : idealPlatform.LowerCaseStable :=
    platform_lowerCaseStable [soleSealing]
  have unlocked : reuse.source.unlock idealPlatform referenceScope
      referenceProfile = .ok openedVaultKey := unlock_contextlessVaultKey
  have authentic : reuse.source.SealedUnder idealPlatform
      (stringToBytes (canonicalAadString sealedVaultKey.aad)) :=
    sealedUnder_canonical contextlessVaultKey (js "renewed")
      contextlessVaultKey_ciphertext
  have admissible : reuse.Admissible idealPlatform [] := renewed_differs
  refine ⟨crypto, stable, unlocked, authentic, sameVaultKey_opened, admissible,
    ?_⟩
  intro succeeds
  obtain ⟨material, derived, opened⟩ := SecretEnvelope.unlock_ok unlocked
  obtain ⟨inner, extractable, extracts⟩ :=
    extractable_of_unlocked opened (authentic _ derived)
  have extracted := (EnvelopeReuse.succeeds_iff_extracts crypto stable
    referenceIv salt [] unlocked derived extractable sameVaultKey_opened
    admissible).mp succeeds
  have shared := scope_eq_of_shared_candidate (extracts.mp extracted)
    (canonical_mem_aadByteCandidates sealedVaultKey.aad)
  cases shared

end VaultCore
