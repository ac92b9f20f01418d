import VaultCore.Crypto.PortableVaultBrokerEnvelope
import VaultCore.Envelopes.Reference
import VaultCore.Envelopes.PasskeyPrfCandidates

/-!
# Domain separation

A ciphertext is bound to the account, vault, field and context it was sealed
for.  Fields, payloads and the strict unlocks accept it under no other record.
The other unlocks of vault keys keep the account, the vault and the field, and
accept another stored context only for a ciphertext sealed under the canonical
one.
-/

namespace VaultCore

/-- A record written by `encryptField` whose ciphertext opens only under the
key and the authenticated bytes of its sealing. -/
structure IdealSealing (platform : Platform)
    (sealed : EncryptedVaultPayload) (key : CryptoKey) : Prop where
  written : ∃ iv plaintext scope profile,
    encryptField platform iv plaintext key scope profile = .ok sealed
  only : ∀ iv ciphertext otherKey otherAad plaintext,
    decodeBoundedBase64Url sealed.iv maxVaultIvBytes = .ok iv →
    decodeBoundedBase64Url sealed.ciphertext maxVaultCiphertextBytes =
      .ok ciphertext →
    platform.aesGcmOpen otherKey iv otherAad ciphertext = some plaintext →
    otherKey = key.material ∧
      otherAad = stringToBytes (canonicalAadString sealed.aad)

/-- The record carries the ciphertext of another record. -/
def CarriesCiphertext (moved sealed : EncryptedVaultPayload) : Prop :=
  moved.iv = sealed.iv ∧ moved.ciphertext = sealed.ciphertext

theorem carriesCiphertext_readdressed (payload : EncryptedVaultPayload)
    (aad : VaultAad) : CarriesCiphertext { payload with aad := aad } payload :=
  ⟨rfl, rfl⟩

/-- What an unlock of a moved vault key says about it. -/
structure BoundVaultKey (profile : VaultCryptoProfile)
    (expectedScope : VaultScope) (sealed moved : EncryptedVaultPayload) :
    Prop where
  user : sealed.aad.userId = expectedScope.userId ∧
    moved.aad.userId = sealed.aad.userId
  resource : sealed.aad.resourceId = expectedScope.resourceId ∧
    moved.aad.resourceId = sealed.aad.resourceId
  field : sealed.aad.field = .vaultKey ∧ moved.aad.field = sealed.aad.field
  context : moved.aad.context = sealed.aad.context ∨
    profile.legacyEnabled = true ∧
      isVaultKeyAadContextAllowed moved.aad.context profile = true ∧
      sealed.aad.context = .text profile.aadContextEnvelope

/-- What a strict unlock of a moved vault key says about it. -/
structure ExactVaultKey (profile : VaultCryptoProfile)
    (expectedScope : VaultScope) (sealed moved : EncryptedVaultPayload) :
    Prop where
  same : moved.aad.scope = sealed.aad.scope
  scope : sealed.aad.scope = (expectedScope.userId, expectedScope.resourceId,
    .vaultKey, .text profile.aadContextEnvelope)

section

variable {platform : Platform} {sealed moved : EncryptedVaultPayload}
  {key otherKey opened : CryptoKey} {expectedScope : VaultScope}
  {profile : VaultCryptoProfile}

/-- A decrypted record authenticates what its ciphertext was sealed for. -/
theorem decryptField_binds (ideal : IdealSealing platform sealed key)
    (carries : CarriesCiphertext moved sealed) {text : JsString}
    (decrypted : decryptField platform moved otherKey = .ok text) :
    otherKey.material = key.material ∧ moved.aad.scope = sealed.aad.scope := by
  obtain ⟨iv, ciphertext, aadBytes, plaintext, ivDecoded, decoded, member,
    found, -⟩ := decryptField_sound decrypted
  rw [carries.1] at ivDecoded
  rw [carries.2] at decoded
  obtain ⟨sameKey, sameBytes⟩ := ideal.only iv ciphertext otherKey.material
    aadBytes plaintext ivDecoded decoded found
  refine ⟨sameKey, ?_⟩
  rw [sameBytes] at member
  exact scope_eq_of_shared_candidate member
    (canonical_mem_aadByteCandidates sealed.aad)

theorem decryptVaultPayload_binds {Value : Type} {codec : JsonCodec Value}
    (ideal : IdealSealing platform sealed key)
    (carries : CarriesCiphertext moved sealed) {value : Value}
    (decrypted : decryptVaultPayload platform codec moved otherKey
      expectedScope profile = .ok value) :
    moved.aad.scope = sealed.aad.scope ∧
      sealed.aad.scope = (expectedScope.userId, expectedScope.resourceId,
        .vaultPayload, .text profile.aadContextVault) := by
  obtain ⟨_, asserted, rest⟩ := Outcome.bind_eq_ok_iff.mp decrypted
  obtain ⟨text, fieldDecrypted, -⟩ := Outcome.bind_eq_ok_iff.mp rest
  have same := (decryptField_binds ideal carries fieldDecrypted).2
  have scope := assertAad_ok_iff.mp asserted
  exact ⟨same, same.symm.trans scope⟩

private theorem context_written (ideal : IdealSealing platform sealed key) :
    ∃ context, sealed.aad.context = .text context := by
  obtain ⟨iv, plaintext, scope, profile, encrypted⟩ := ideal.written
  rw [(encryptField_ok encrypted).2]
  exact ⟨_, rfl⟩

/-- Whatever opens the candidates, a vault key that routing opens is bound to
its account, vault and field, and to its context unless it is canonical. -/
theorem routing_binds {keys : DerivedKeys}
    (ideal : IdealSealing platform sealed key)
    (carries : CarriesCiphertext moved sealed)
    (unlocked : unlockVaultKeyEnvelopeWithAadRouting moved expectedScope
      profile (fun candidate => unwrapUserVaultKeyWithDerivedKeys platform
        candidate keys) = .ok opened) :
    BoundVaultKey profile expectedScope sealed moved := by
  obtain ⟨candidate, unwrapped, same, user, resource, field, allowed,
    context⟩ := unlockVaultKeyEnvelopeWithAadRouting_sound unlocked
  obtain ⟨inner, extracted, -⟩ :=
    unwrapUserVaultKeyWithDerivedKeys_ok_iff.mp unwrapped
  obtain ⟨text, decrypted, -⟩ := Outcome.bind_eq_ok_iff.mp extracted
  have scope := (decryptField_binds ideal
    ⟨same.iv.trans carries.1, same.ciphertext.trans carries.2⟩ decrypted).2
  simp only [VaultAad.scope, Prod.mk.injEq] at scope
  obtain ⟨sameUser, sameResource, sameField, sameContext⟩ := scope
  rw [same.userId] at sameUser
  rw [same.resourceId] at sameResource
  rw [same.field] at sameField
  refine ⟨⟨sameUser.symm.trans user, sameUser⟩,
    ⟨sameResource.symm.trans resource, sameResource⟩,
    ⟨sameField.symm.trans field, sameField⟩, ?_⟩
  rcases context with stored | ⟨enabled, -, canonical | missing⟩
  · exact .inl (stored.symm.trans sameContext)
  · exact .inr ⟨enabled, allowed, sameContext.symm.trans canonical⟩
  · obtain ⟨written, text⟩ := context_written ideal
    rw [missing, text] at sameContext
    cases sameContext

/-- An envelope opened after the strict check is bound to its exact record. -/
theorem assertVaultKeyAad_binds {inner : Bytes}
    (ideal : IdealSealing platform sealed key)
    (carries : CarriesCiphertext moved sealed)
    (asserted : assertVaultKeyAad expectedScope moved profile = .ok ())
    (extracted : extractInnerVaultKeyBlob platform moved otherKey =
      .ok inner) :
    ExactVaultKey profile expectedScope sealed moved := by
  obtain ⟨text, decrypted, -⟩ := Outcome.bind_eq_ok_iff.mp extracted
  have same := (decryptField_binds ideal carries decrypted).2
  have scope := assertAad_ok_iff.mp asserted
  exact ⟨same, same.symm.trans scope⟩

theorem ExactVaultKey.bound
    (exactly : ExactVaultKey profile expectedScope sealed moved) :
    BoundVaultKey profile expectedScope sealed moved := by
  obtain ⟨same, scope⟩ := exactly
  simp only [VaultAad.scope, Prod.mk.injEq] at same scope
  obtain ⟨sameUser, sameResource, sameField, sameContext⟩ := same
  obtain ⟨user, resource, field, -⟩ := scope
  exact ⟨⟨user, sameUser⟩, ⟨resource, sameResource⟩, ⟨field, sameField⟩,
    .inl sameContext⟩

theorem unwrapVaultKeyFromPasskey_strict {prfOutput : Bytes}
    (ideal : IdealSealing platform sealed key)
    (carries : CarriesCiphertext moved sealed)
    (unwrapped : unwrapVaultKeyFromPasskey platform moved prfOutput
      expectedScope profile true = .ok opened) :
    ExactVaultKey profile expectedScope sealed moved := by
  unfold unwrapVaultKeyFromPasskey at unwrapped
  split at unwrapped
  · cases unwrapped
  · obtain ⟨prfKey, -, rest⟩ := Outcome.bind_eq_ok_iff.mp unwrapped
    obtain ⟨_, asserted, opening⟩ := Outcome.bind_eq_ok_iff.mp rest
    obtain ⟨inner, extracted, -⟩ := Outcome.bind_eq_ok_iff.mp opening
    exact assertVaultKeyAad_binds ideal carries asserted extracted

theorem unwrapVaultKeyFromPasskey_binds {prfOutput : Bytes}
    {strictAad : Bool} (ideal : IdealSealing platform sealed key)
    (carries : CarriesCiphertext moved sealed)
    (unwrapped : unwrapVaultKeyFromPasskey platform moved prfOutput
      expectedScope profile strictAad = .ok opened) :
    BoundVaultKey profile expectedScope sealed moved := by
  cases strictAad with
  | false =>
      obtain ⟨-, material, -, -, routed⟩ :=
        unwrapVaultKeyFromPasskey_ok unwrapped
      exact routing_binds ideal carries routed
  | true =>
      exact (unwrapVaultKeyFromPasskey_strict ideal carries unwrapped).bound

theorem unlockPortableVaultBrokerEncryptedVaultKey_binds
    {broker : BrokerPlatform} {puk : Bytes}
    (ideal : IdealSealing broker.toPlatform sealed key)
    (carries : CarriesCiphertext moved sealed)
    (unlocked : unlockPortableVaultBrokerEncryptedVaultKey broker moved puk
      expectedScope profile = .ok opened) :
    ExactVaultKey profile expectedScope sealed moved := by
  obtain ⟨_, asserted, rest⟩ := Outcome.bind_eq_ok_iff.mp unlocked
  obtain ⟨keys, -, unwrapped⟩ := Outcome.bind_eq_ok_iff.mp rest
  obtain ⟨inner, extracted, -⟩ :=
    unwrapUserVaultKeyWithDerivedKeys_ok_iff.mp unwrapped
  exact assertVaultKeyAad_binds ideal carries asserted extracted

/-- The candidate that a match names is bound to its record, whatever the
other candidates carry. -/
theorem candidates_bind {verifiedCredentialId identifier : JsString}
    {candidates : List UnknownCandidate} {prfOutput : Option Bytes}
    {candidate : VaultPasskeyEnvelopeVariant}
    (ideal : IdealSealing platform sealed key)
    (matching : unlockWithPasskeyPrfEnvelopeCandidates platform
      verifiedCredentialId candidates prfOutput expectedScope profile =
        .matched identifier opened)
    (member : some candidate ∈ candidates)
    (named : candidate.envelopeVariantId = identifier)
    (carries : CarriesCiphertext candidate.envelope.encryptedVaultKey
      sealed) :
    BoundVaultKey profile expectedScope sealed
      candidate.envelope.encryptedVaultKey := by
  obtain ⟨output, -, read, -, -, only, unwrapped⟩ :=
    unlockWithPasskeyPrfEnvelopeCandidates_matched matching
  obtain ⟨own, schema, sameRead⟩ := only (some candidate) member
  have sameName := vaultPasskeyEnvelopeVariantSchema_envelopeVariantId schema
  obtain rfl := sameRead (sameName.trans named)
  have ordered := vaultPasskeyEnvelopeVariantSchema_eq_some schema
  rw [ordered] at unwrapped
  have bound : BoundVaultKey profile expectedScope sealed
      candidate.envelope.encryptedVaultKey.inSchemaOrder :=
    unwrapVaultKeyFromPasskey_binds ideal carries unwrapped
  exact ⟨bound.user, bound.resource, bound.field, bound.context⟩

theorem matched_named {verifiedCredentialId identifier : JsString}
    {candidates : List UnknownCandidate} {prfOutput : Option Bytes}
    (matching : unlockWithPasskeyPrfEnvelopeCandidates platform
      verifiedCredentialId candidates prfOutput expectedScope profile =
        .matched identifier opened) :
    ∃ candidate, some candidate ∈ candidates ∧
      candidate.envelopeVariantId = identifier := by
  obtain ⟨output, -, read, named, ⟨unknown, member, schema⟩, -, -⟩ :=
    unlockWithPasskeyPrfEnvelopeCandidates_matched matching
  obtain ⟨candidate, rfl, accepted⟩ := Option.bind_eq_some_iff.mp schema
  exact ⟨candidate, member,
    (vaultPasskeyEnvelopeVariantSchema_envelopeVariantId accepted).symm.trans
      named⟩

end

/-- Records that share a candidate byte string authenticate the same account,
vault, field and context.  A ciphertext decrypts, as a field or as a payload,
under no record but that of its sealing, and neither the broker's unlock nor a
strict one accepts it under another; every other unlock accepts it for the same
account, vault and field only, and under another stored context only when
legacy unlocking allows that context and the sealing was canonical. -/
theorem ciphertext_bound_to_scope :
    (∀ left right : VaultAad, ∀ bytes, bytes ∈ aadByteCandidates left →
      bytes ∈ aadByteCandidates right → left.scope = right.scope) ∧
    ∀ (platform : Platform) (sealed moved : EncryptedVaultPayload)
      (key : CryptoKey),
      IdealSealing platform sealed key → CarriesCiphertext moved sealed →
      (∀ otherKey text, decryptField platform moved otherKey = .ok text →
        moved.aad.scope = sealed.aad.scope) ∧
      (∀ (Value : Type) (codec : JsonCodec Value) otherKey expectedScope
        profile value,
        decryptVaultPayload platform codec moved otherKey expectedScope
          profile = .ok value →
        moved.aad.scope = sealed.aad.scope ∧
          sealed.aad.scope = (expectedScope.userId, expectedScope.resourceId,
            .vaultPayload, .text profile.aadContextVault)) ∧
      (∀ password metadata expectedScope profile opened,
        unlockWithPasswordEnvelope platform password
          { encryptedVaultKey := moved, kdfMetadata := metadata }
          expectedScope profile = .ok opened →
        BoundVaultKey profile expectedScope sealed moved) ∧
      (∀ phrase metadata publicMetadata expectedScope profile
        expectedWordCount opened,
        unlockWithRecoveryEnvelope platform phrase
          { encryptedVaultKey := moved, kdfMetadata := metadata
            publicMetadata }
          expectedScope profile expectedWordCount = .ok opened →
        BoundVaultKey profile expectedScope sealed moved) ∧
      (∀ prfOutput expectedScope profile strictAad opened,
        unwrapVaultKeyFromPasskey platform moved prfOutput expectedScope
          profile strictAad = .ok opened →
        BoundVaultKey profile expectedScope sealed moved ∧
          (strictAad = true →
            ExactVaultKey profile expectedScope sealed moved)) ∧
      (∀ (broker : BrokerPlatform) puk expectedScope profile opened,
        broker.toPlatform = platform →
        unlockPortableVaultBrokerEncryptedVaultKey broker moved puk
          expectedScope profile = .ok opened →
        ExactVaultKey profile expectedScope sealed moved) ∧
      (∀ prfOutput expectedScope profile prfRequired opened,
        unlockWithPasskeyPrfEnvelope platform { encryptedVaultKey := moved }
          prfOutput expectedScope profile prfRequired = .ok opened →
        BoundVaultKey profile expectedScope sealed moved) ∧
      ∀ verifiedCredentialId candidates prfOutput expectedScope profile
        identifier opened,
        unlockWithPasskeyPrfEnvelopeCandidates platform verifiedCredentialId
          candidates prfOutput expectedScope profile =
            .matched identifier opened →
        (∃ candidate, some candidate ∈ candidates ∧
          candidate.envelopeVariantId = identifier) ∧
        ∀ candidate, some candidate ∈ candidates →
          candidate.envelopeVariantId = identifier →
          CarriesCiphertext candidate.envelope.encryptedVaultKey sealed →
          BoundVaultKey profile expectedScope sealed
            candidate.envelope.encryptedVaultKey := by
  refine ⟨fun left right bytes => scope_eq_of_shared_candidate, ?_⟩
  intro platform sealed moved key ideal carries
  refine ⟨?_, ?_, ?_, ?_, ?_, ?_, ?_, ?_⟩
  · intro otherKey text decrypted
    exact (decryptField_binds ideal carries decrypted).2
  · intro Value codec otherKey expectedScope profile value decrypted
    exact decryptVaultPayload_binds ideal carries decrypted
  · intro password metadata expectedScope profile opened unlocked
    obtain ⟨-, material, -, routed⟩ := unlockWithPasswordEnvelope_ok unlocked
    exact routing_binds ideal carries routed
  · intro phrase metadata publicMetadata expectedScope profile
      expectedWordCount opened unlocked
    obtain ⟨-, -, -, material, -, routed⟩ :=
      unlockWithRecoveryEnvelope_ok unlocked
    exact routing_binds ideal carries routed
  · intro prfOutput expectedScope profile strictAad opened unwrapped
    refine ⟨unwrapVaultKeyFromPasskey_binds ideal carries unwrapped, ?_⟩
    rintro rfl
    exact unwrapVaultKeyFromPasskey_strict ideal carries unwrapped
  · rintro broker puk expectedScope profile opened rfl unlocked
    exact unlockPortableVaultBrokerEncryptedVaultKey_binds ideal carries
      unlocked
  · intro prfOutput expectedScope profile prfRequired opened unlocked
    obtain ⟨output, -, unwrapped⟩ := unlockWithPasskeyPrfEnvelope_ok unlocked
    exact unwrapVaultKeyFromPasskey_binds ideal carries unwrapped
  · intro verifiedCredentialId candidates prfOutput expectedScope profile
      identifier opened matching
    refine ⟨matched_named matching, ?_⟩
    intro candidate member named carriesOwn
    exact candidates_bind ideal matching member named carriesOwn

private theorem sealedVaultKey_ideal :
    IdealSealing Reference.idealPlatform Reference.sealedVaultKey
      Reference.unlockKeys.encryptionKey where
  written :=
    ⟨referenceIv, _, _, _, Reference.sealedVaultKey_encrypted⟩
  only := by
    intro iv ciphertext otherKey otherAad plaintext _ decoded opened
    exact Reference.sealedVaultKey_opens_once decoded opened

theorem ciphertext_bound_to_scope_password :
    unlockWithPasswordEnvelope Reference.idealPlatform Reference.unlockSecret
      { encryptedVaultKey := Reference.sealedVaultKey
        kdfMetadata := Reference.kdfMetadata }
      referenceScope referenceProfile = .ok Reference.openedVaultKey ∧
    BoundVaultKey referenceProfile referenceScope Reference.sealedVaultKey
      Reference.sealedVaultKey := by
  have unlocked := Reference.unlock_sealedVaultKey
  exact ⟨unlocked, (ciphertext_bound_to_scope.2 Reference.idealPlatform
    Reference.sealedVaultKey Reference.sealedVaultKey
    Reference.unlockKeys.encryptionKey sealedVaultKey_ideal
    ⟨rfl, rfl⟩).2.2.1 _ _ _ _ _ unlocked⟩

/-- A vault key sealed under the canonical context is unlocked from a record
that has lost its context. -/
theorem contextless_vault_key_unlocked :
    IdealSealing Reference.idealPlatform Reference.sealedVaultKey
      Reference.unlockKeys.encryptionKey ∧
    CarriesCiphertext Reference.contextlessVaultKey
      Reference.sealedVaultKey ∧
    Reference.contextlessVaultKey.aad.scope ≠
      Reference.sealedVaultKey.aad.scope ∧
    unlockWithPasswordEnvelope Reference.idealPlatform Reference.unlockSecret
      { encryptedVaultKey := Reference.contextlessVaultKey
        kdfMetadata := Reference.kdfMetadata }
      referenceScope referenceProfile = .ok Reference.openedVaultKey := by
  have carries : CarriesCiphertext Reference.contextlessVaultKey
      Reference.sealedVaultKey :=
    carriesCiphertext_readdressed _ _
  refine ⟨sealedVaultKey_ideal, carries, ?_,
    Reference.unlock_contextlessVaultKey⟩
  intro same
  have context := congrArg (fun scope => scope.2.2.2) same
  cases context

end VaultCore
