import VaultCore.Envelopes.LegacyVaultKeyUnlock
import VaultCore.Validation.Schemas

/-!
# Passkey envelopes

A passkey envelope is sealed under the first 32 bytes of the passkey's PRF
output.  Every failure to open one is reported as the same error.
-/

namespace VaultCore

section

variable (platform : Platform)

/-- An envelope of the vault key under a PRF output. -/
def createPasskeyPrfEnvelope (iv : Iv) (vaultKey : CryptoKey)
    (prfOutput : Bytes) (scope : VaultScope) (profile : VaultCryptoProfile)
    (innerVaultKeyBlob : Option Bytes) : Except VaultError PasskeyPrfEnvelope :=
  if prfOutput.length < 32 then
    .error (.error "PRF output must be at least 32 bytes")
  else do
    let prfKey ← importPrfAesGcmKey prfOutput
    let encryptedVaultKey ← wrapUserVaultKeyWithPrfOutput platform iv vaultKey
      prfOutput scope profile prfKey innerVaultKeyBlob
    return { encryptedVaultKey }

/-- The vault key from under a PRF output. -/
def unwrapVaultKeyFromPasskey (encryptedVaultKey : EncryptedVaultPayload)
    (prfOutput : Bytes) (expectedScope : VaultScope)
    (profile : VaultCryptoProfile) (strictAad : Bool) :
    Except VaultError CryptoKey :=
  if prfOutput.length < 32 then
    .error (.error "PRF output must be at least 32 bytes")
  else do
    let prfKey ← importPrfAesGcmKey prfOutput
    let decrypt := fun candidate =>
      unwrapUserVaultKeyWithPrfOutput platform candidate prfOutput prfKey
    if strictAad then do
      assertVaultKeyAad expectedScope encryptedVaultKey profile
      decrypt encryptedVaultKey
    else
      unlockVaultKeyEnvelopeWithAadRouting encryptedVaultKey expectedScope
        profile decrypt

/-- Opens an envelope with the output of a ceremony, which may have none. -/
def unlockWithPasskeyPrfEnvelope (envelope : PasskeyPrfEnvelope)
    (prfOutput : Option Bytes) (expectedScope : VaultScope)
    (profile : VaultCryptoProfile) (prfRequired : Bool) :
    Except VaultError CryptoKey :=
  match prfOutput with
  | none =>
      if prfRequired then
        .error (.passkeyPrfRequiredError
          ("This passkey requires browser PRF support to unlock your " ++
            "vault. Use your vault password or recovery phrase."))
      else
        .error (.passkeyUnlockError
          ("Could not unlock your vault with this passkey. Use your vault " ++
            "password or recovery phrase."))
  | some output =>
      match unwrapVaultKeyFromPasskey platform envelope.encryptedVaultKey
          output expectedScope profile false with
      | .ok key => .ok key
      | .error _ =>
          .error (.passkeyUnlockError
            ("Could not decrypt your vault with this passkey. Use your " ++
              "vault password or recovery phrase."))

end

section

variable {platform : Platform} {prfOutput : Bytes}
  {expectedScope : VaultScope} {profile : VaultCryptoProfile}
  {key : CryptoKey}

theorem unwrapVaultKeyFromPasskey_ok {payload : EncryptedVaultPayload}
    (unwrapped : unwrapVaultKeyFromPasskey platform payload prfOutput
      expectedScope profile false = .ok key) :
    32 ≤ prfOutput.length ∧
      ∃ material,
        importPrfAesGcmKey prfOutput =
          .ok (derivedKeys material).encryptionKey ∧
        importPrfAesKwKey prfOutput =
          .ok (derivedKeys material).wrappingKey ∧
        unlockVaultKeyEnvelopeWithAadRouting payload expectedScope profile
          (fun candidate => unwrapUserVaultKeyWithDerivedKeys platform
            candidate (derivedKeys material)) = .ok key := by
  unfold unwrapVaultKeyFromPasskey at unwrapped
  split at unwrapped
  · cases unwrapped
  · rename_i long
    have bound : 32 ≤ prfOutput.length := not_lt.mp long
    obtain ⟨material, gcm, kw, same⟩ :=
      @importPrfAesKey_eq platform prfOutput bound
    simp only [gcm, Outcome.ok_bind, Bool.false_eq_true, if_false]
      at unwrapped
    exact ⟨bound, material, gcm, kw, by simpa only [same] using unwrapped⟩

theorem unwrapVaultKeyFromPasskey_eq {payload : EncryptedVaultPayload}
    (long : 32 ≤ prfOutput.length) :
    unwrapVaultKeyFromPasskey platform payload prfOutput expectedScope profile
        false =
      unlockVaultKeyEnvelopeWithAadRouting payload expectedScope profile
        (fun candidate => unwrapUserVaultKeyWithDerivedKeys platform candidate
          (prfKeys prfOutput long)) := by
  simp only [unwrapVaultKeyFromPasskey, if_neg (not_lt.mpr long),
    (importPrfAesKey_prfKeys long).1, Outcome.ok_bind, Bool.false_eq_true,
    if_false, unwrapUserVaultKeyWithPrfOutput_eq long]

theorem unlockWithPasskeyPrfEnvelope_ok_iff {envelope : PasskeyPrfEnvelope}
    {prfRequired : Bool} :
    unlockWithPasskeyPrfEnvelope platform envelope (some prfOutput)
        expectedScope profile prfRequired = .ok key ↔
      unwrapVaultKeyFromPasskey platform envelope.encryptedVaultKey prfOutput
        expectedScope profile false = .ok key := by
  unfold unlockWithPasskeyPrfEnvelope
  cases unwrapped : unwrapVaultKeyFromPasskey platform
      envelope.encryptedVaultKey prfOutput expectedScope profile false with
  | ok other => simp only [unwrapped]
  | error error =>
      simp only [unwrapped]
      constructor
      · intro impossible
        cases impossible
      · intro impossible
        cases impossible

theorem unlockWithPasskeyPrfEnvelope_ok {envelope : PasskeyPrfEnvelope}
    {prfRequired : Bool} {given : Option Bytes}
    (unlocked : unlockWithPasskeyPrfEnvelope platform envelope given
      expectedScope profile prfRequired = .ok key) :
    ∃ output, given = some output ∧
      unwrapVaultKeyFromPasskey platform envelope.encryptedVaultKey output
        expectedScope profile false = .ok key := by
  unfold unlockWithPasskeyPrfEnvelope at unlocked
  cases given with
  | none =>
      cases prfRequired <;> cases unlocked
  | some output =>
      refine ⟨output, rfl, ?_⟩
      simp only at unlocked
      split at unlocked
      · cases unlocked
        assumption
      · cases unlocked

/-- An envelope created from the wrapping of a restored key opens to that
key. -/
theorem createPasskeyPrfEnvelope_wrapped (crypto : platform.Lawful) {iv : Iv}
    {inner : Bytes} {wrappingKey : CryptoKey} (long : 32 ≤ prfOutput.length)
    (restored : restoreInnerVaultKey platform inner wrappingKey false =
      .ok key) :
    ∃ envelope,
      createPasskeyPrfEnvelope platform iv key prfOutput expectedScope profile
        (some (platform.aesKwWrap
          (prfKeys prfOutput long).wrappingKey.material key.material.val)) =
        .ok envelope ∧
      ∀ prfRequired, unlockWithPasskeyPrfEnvelope platform envelope
        (some prfOutput) expectedScope profile prfRequired = .ok key := by
  obtain ⟨algorithm, handle, -⟩ := restoreInnerVaultKey_ok restored
  obtain ⟨gcm, kw⟩ := importPrfAesKey_prfKeys long
  have length := restoreInnerVaultKey_length crypto restored
  have short := @length_wrap_le platform
    (prfKeys prfOutput long).wrappingKey crypto key.material
  have rewrapped : restoreInnerVaultKey platform
      (platform.aesKwWrap (prfKeys prfOutput long).wrappingKey.material
        key.material.val) (prfKeys prfOutput long).wrappingKey false =
      .ok key := by
    rw [restoreInnerVaultKey_wrap crypto rfl length false]
    rw [← algorithm, ← handle]
  have matching := assertInnerVaultKeyBlobMatchesVaultKey_ok crypto rewrapped
    algorithm rfl
  obtain ⟨payload, encrypted⟩ : ∃ payload,
      encryptInnerVaultKeyBlob platform iv
        (platform.aesKwWrap (prfKeys prfOutput long).wrappingKey.material
          key.material.val)
        (prfKeys prfOutput long).encryptionKey expectedScope profile =
          .ok payload := ⟨_, rfl⟩
  refine ⟨{ encryptedVaultKey := payload }, ?_, ?_⟩
  · simp only [createPasskeyPrfEnvelope, if_neg (not_lt.mpr long), gcm,
      wrapUserVaultKeyWithPrfOutput, kw, materializeInnerVaultKeyBlob,
      matching, encrypted, Outcome.ok_bind, Outcome.pure_eq_ok]
  · intro prfRequired
    rw [unlockWithPasskeyPrfEnvelope_ok_iff, unwrapVaultKeyFromPasskey_eq long]
    have scope : payload.aad.scope = (expectedScope.userId,
        expectedScope.resourceId, .vaultKey,
        .text profile.aadContextEnvelope) := by
      cases encrypted
      rfl
    rw [unlockVaultKeyEnvelopeWithAadRouting_canonical scope]
    apply unwrapUserVaultKeyWithDerivedKeys_ok_iff.mpr
    exact ⟨_, extractInnerVaultKeyBlob_encrypted crypto encrypted short rfl rfl
      rfl, rewrapped⟩

end

end VaultCore
