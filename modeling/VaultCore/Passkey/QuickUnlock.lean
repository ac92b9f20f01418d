import VaultCore.Envelopes.CandidateAgreement
import VaultCore.Envelopes.RoundTrip
import VaultCore.Passkey.UnlockPlan
import VaultCore.Session.CreationCustody

/-!
# The quick unlock of a synced passkey

A passkey that is synced to several browsers may yield another PRF output in
each of them, so its state holds one variant of the envelope an output.  The
plan of a binding names the credential, the ceremony is scoped to it, and the
variants are tried: the one made for the output opens, and every other is
passed over.
-/

namespace VaultCore

theorem firstSuccess_of_failures {ε α β : Type} {attempt : β → Except ε α}
    {candidates : List β} {lastError error : ε} (some : candidates ≠ [])
    (failing : ∀ candidate ∈ candidates, attempt candidate = .error error) :
    Outcome.firstSuccess attempt candidates lastError = .error error := by
  induction candidates generalizing lastError with
  | nil => exact absurd rfl some
  | cons candidate rest ih =>
      rw [Outcome.firstSuccess, failing candidate List.mem_cons_self]
      cases rest with
      | nil => rfl
      | cons next rest =>
          apply ih (List.cons_ne_nil _ _)
          intro other member
          exact failing other (List.mem_cons_of_mem _ member)

section Mismatch

variable {platform : Platform} {payload : EncryptedVaultPayload}
  {key otherKey : CryptoKey}

/-- Under any other key the cipher rejects an ideal sealing. -/
theorem decryptField_of_other (ideal : IdealSealing platform payload key)
    (decodes : FieldsDecode payload) (algorithm : otherKey.algorithm = .aesGcm)
    (other : otherKey.material ≠ key.material) :
    decryptField platform payload otherKey =
      .error (.domException "OperationError") := by
  obtain ⟨⟨iv, ivDecoded⟩, ciphertext, decoded⟩ := decodes
  simp only [decryptField, ivDecoded, decoded, Outcome.ok_bind]
  apply firstSuccess_of_failures
  · intro empty
    have member := canonical_mem_aadByteCandidates payload.aad
    rw [empty] at member
    cases member
  · intro aadBytes _
    have rejected : platform.aesGcmOpen otherKey.material iv aadBytes
        ciphertext = none := by
      cases opened : platform.aesGcmOpen otherKey.material iv aadBytes
          ciphertext with
      | none => rfl
      | some plaintext =>
          have same := (ideal.only iv ciphertext otherKey.material aadBytes
            plaintext ivDecoded decoded opened).1
          exact absurd same other
    simp only [subtleDecrypt, algorithm, rejected]
    rfl

end Mismatch

/-- The variant was created for the vault key from its PRF output, and its
ciphertext opens under one key only. -/
structure EnrolledVariant (platform : Platform) (vaultKey : CryptoKey)
    (scope : VaultScope) (profile : VaultCryptoProfile)
    (output : VaultPasskeyEnvelopeVariant → Bytes)
    (variant : VaultPasskeyEnvelopeVariant) : Prop where
  created : ∃ iv supplied, createPasskeyPrfEnvelope platform iv vaultKey
    (output variant) scope profile supplied = .ok variant.envelope
  ideal : SealedForOneKey platform variant.envelope.encryptedVaultKey

/-- The variant was made for the given output: the key is derived from its
first bytes. -/
def madeFor (output : VaultPasskeyEnvelopeVariant → Bytes) (given : Bytes)
    (variant : VaultPasskeyEnvelopeVariant) : Bool :=
  (output variant).take 32 == given.take 32

/-- What an unlock with the output answers: the first variant made for it. -/
def expectedAnswer (output : VaultPasskeyEnvelopeVariant → Bytes)
    (vaultKey : CryptoKey) (candidates : List VaultPasskeyEnvelopeVariant)
    (given : Bytes) : UnlockPasskeyPrfEnvelopeCandidatesResult :=
  if given.length < 32 then .prfUnavailable
  else
    match candidates.find? (madeFor output given) with
    | some variant => .matched variant.envelopeVariantId vaultKey.restored
    | none => .noMatch candidates.length

section Enrolled

variable {platform : Platform} {vaultKey : CryptoKey} {scope : VaultScope}
  {profile : VaultCryptoProfile}
  {output : VaultPasskeyEnvelopeVariant → Bytes}
  {variant : VaultPasskeyEnvelopeVariant} {given : Bytes}

theorem EnrolledVariant.wrapped
    (enrolled : EnrolledVariant platform vaultKey scope profile output
      variant) :
    ∃ iv supplied long, wrapUserVaultKeyWithDerivedKeys platform iv vaultKey
      (prfKeys (output variant) long) scope profile supplied =
        .ok variant.envelope.encryptedVaultKey := by
  obtain ⟨iv, supplied, created⟩ := enrolled.created
  obtain ⟨long, wrapped⟩ := createPasskeyPrfEnvelope_ok created
  exact ⟨iv, supplied, long, wrapped⟩

theorem EnrolledVariant.opens (key : RestorableKey platform vaultKey)
    (enrolled : EnrolledVariant platform vaultKey scope profile output variant)
    (long : 32 ≤ given.length) (made : madeFor output given variant = true) :
    unwrapVaultKeyFromPasskey platform variant.envelope.encryptedVaultKey
      given scope profile false = .ok vaultKey.restored := by
  obtain ⟨iv, supplied, ownLong, wrapped⟩ := enrolled.wrapped
  have same : prfKeys given long = prfKeys (output variant) ownLong := by
    rw [prfKeys, prfKeys, derivedKeys_eq_iff, Subtype.mk.injEq]
    exact (beq_iff_eq.mp made).symm
  rw [unwrapVaultKeyFromPasskey_eq long,
    unlockVaultKeyEnvelopeWithAadRouting_canonical
      (wrapUserVaultKeyWithDerivedKeys_scope wrapped), same]
  exact unwrap_wrapUserVaultKeyWithDerivedKeys key.crypto key.user
    (.inr key.probe) rfl wrapped rfl rfl rfl

theorem madeFor_self : madeFor output (output variant) variant = true :=
  beq_self_eq_true _

/-- With any other output the cipher rejects the variant. -/
theorem EnrolledVariant.rejects (key : RestorableKey platform vaultKey)
    (enrolled : EnrolledVariant platform vaultKey scope profile output variant)
    (long : 32 ≤ given.length) (other : madeFor output given variant = false) :
    CipherMismatch (unwrapVaultKeyFromPasskey platform
      variant.envelope.encryptedVaultKey given scope profile false) := by
  obtain ⟨iv, supplied, ownLong, wrapped⟩ := enrolled.wrapped
  have own := unwrap_wrapUserVaultKeyWithDerivedKeys key.crypto key.user
    (.inr key.probe) rfl wrapped rfl rfl rfl
  have decodes := fieldsDecode_of_unwrapped own
  obtain ⟨sealingKey, ideal⟩ := enrolled.ideal
  have opener : (prfKeys (output variant) ownLong).encryptionKey.material =
      sealingKey.material := by
    obtain ⟨inner, extracted, -⟩ :=
      unwrapUserVaultKeyWithDerivedKeys_ok_iff.mp own
    obtain ⟨text, decrypted, -⟩ := Outcome.bind_eq_ok_iff.mp extracted
    exact (decryptField_binds ideal ⟨rfl, rfl⟩ decrypted).1
  have different : (prfKeys given long).encryptionKey.material ≠
      sealingKey.material := by
    intro same
    rw [← opener] at same
    have bytes := derivedKeys_injective same
    rw [Subtype.mk.injEq] at bytes
    rw [madeFor, bytes, beq_self_eq_true] at other
    cases other
  have rejected := @decryptField_of_other platform _ _
    (prfKeys given long).encryptionKey ideal decodes rfl different
  rw [unwrapVaultKeyFromPasskey_eq long,
    unlockVaultKeyEnvelopeWithAadRouting_canonical
      (wrapUserVaultKeyWithDerivedKeys_scope wrapped)]
  simp only [unwrapUserVaultKeyWithDerivedKeys,
    unwrapUserVaultKeyWithDerivedKeysAndInnerMaterial,
    extractInnerVaultKeyBlob, rejected]
  exact .operation

/-- Every enrolled variant that the schema reads passes the checks of a
candidate. -/
theorem EnrolledVariant.accepts (key : RestorableKey platform vaultKey)
    (enrolled : EnrolledVariant platform vaultKey scope profile output variant)
    (reads : vaultPasskeyEnvelopeVariantSchema platform variant =
      some variant) :
    Accepts platform variant.credentialId scope profile (some variant)
      variant := by
  obtain ⟨-, -, long, -⟩ := enrolled.wrapped
  exact accepts_of_unwrapped long reads (enrolled.opens key long madeFor_self)

end Enrolled

/-! ## The variants of a stored state -/

theorem encryptedPayloadSchema_again {platform : Platform}
    {payload parsed : EncryptedVaultPayload}
    (accepted : encryptedPayloadSchema platform payload = some parsed) :
    encryptedPayloadSchema platform parsed = some parsed := by
  obtain ⟨rfl, within⟩ := encryptedPayloadSchema_eq_some_iff.mp accepted
  exact encryptedPayloadSchema_eq_some_iff.mpr ⟨rfl, within⟩

/-- What the schema has read, it reads as the same. -/
theorem vaultPasskeyEnvelopeVariantSchema_again {platform : Platform}
    {candidate parsed : VaultPasskeyEnvelopeVariant}
    (accepted : vaultPasskeyEnvelopeVariantSchema platform candidate =
      some parsed) :
    vaultPasskeyEnvelopeVariantSchema platform parsed = some parsed := by
  rw [vaultPasskeyEnvelopeVariantSchema, Option.ite_none_right_eq_some]
    at accepted
  obtain ⟨identified, read⟩ := accepted
  obtain ⟨envelope, schema, built⟩ := Option.bind_eq_some_iff.mp read
  obtain ⟨payload, inner, whole⟩ := Option.bind_eq_some_iff.mp schema
  obtain rfl := Option.some.inj built
  obtain rfl := Option.some.inj whole
  have again := encryptedPayloadSchema_again inner
  rw [vaultPasskeyEnvelopeVariantSchema, if_pos identified,
    passkeyPrfEnvelopeSchema, again]
  rfl

theorem CandidateSemantics.answer {platform : Platform}
    {verifiedCredentialId : JsString} {expectedScope : VaultScope}
    {profile : VaultCryptoProfile} {candidates : List UnknownCandidate}
    {prfOutput : Option Bytes} {trace : CandidateTrace}
    (specified : CandidateSemantics platform verifiedCredentialId expectedScope
      profile candidates prfOutput trace) :
    unlockWithPasskeyPrfEnvelopeCandidates platform verifiedCredentialId
      candidates prfOutput expectedScope profile = trace.result := by
  have result := @recordedCandidateUnlock_result platform
    verifiedCredentialId expectedScope profile candidates prfOutput
  rw [specified.run] at result
  exact (Except.ok.inj result).symm

/-- A state as the schema read it, with every variant enrolled. -/
structure EnrolledState (platform : Platform) (vaultKey : CryptoKey)
    (scope : VaultScope) (profile : VaultCryptoProfile)
    (output : VaultPasskeyEnvelopeVariant → Bytes)
    (state : VaultPasskeyCredentialState) : Prop where
  read : ∃ value,
    vaultPasskeyCredentialStateSchema platform value = some state
  enrolled : ∀ variant ∈ state.envelopeVariants,
    EnrolledVariant platform vaultKey scope profile output variant

namespace EnrolledState

variable {platform : Platform} {vaultKey : CryptoKey} {scope : VaultScope}
  {profile : VaultCryptoProfile}
  {output : VaultPasskeyEnvelopeVariant → Bytes}
  {state : VaultPasskeyCredentialState}

theorem coherent
    (enrolled : EnrolledState platform vaultKey scope profile output state) :
    CoherentState state := by
  obtain ⟨value, read⟩ := enrolled.read
  exact (vaultPasskeyCredentialStateSchema_eq_some_iff.mp read).coherent

theorem binding_accepted
    (enrolled : EnrolledState platform vaultKey scope profile output state)
    {binding : VaultPasskeyBindingMetadata}
    (bound : binding ∈ state.bindings) :
    vaultPasskeyBindingMetadataSchema binding = true := by
  obtain ⟨value, read⟩ := enrolled.read
  have parses := vaultPasskeyCredentialStateSchema_eq_some_iff.mp read
  rw [parses.sameBindings] at bound
  exact parses.bindings binding bound

theorem variant_read
    (enrolled : EnrolledState platform vaultKey scope profile output state)
    {variant : VaultPasskeyEnvelopeVariant}
    (member : variant ∈ state.envelopeVariants) :
    vaultPasskeyEnvelopeVariantSchema platform variant = some variant := by
  obtain ⟨value, read⟩ := enrolled.read
  have parses := vaultPasskeyCredentialStateSchema_eq_some_iff.mp read
  obtain ⟨index, found⟩ := List.mem_iff_getElem?.mp member
  obtain ⟨within, here⟩ := List.getElem?_eq_some_iff.mp found
  have counted := parses.variants.length_eq
  have reads := parses.variants.get (i := index) (by omega) within
  simp only [List.get_eq_getElem, here] at reads
  exact vaultPasskeyEnvelopeVariantSchema_again reads

theorem distinct_ids
    (enrolled : EnrolledState platform vaultKey scope profile output state)
    {candidates : List VaultPasskeyEnvelopeVariant}
    (own : ∀ candidate ∈ candidates, candidate ∈ state.envelopeVariants)
    (distinct : candidates.Nodup) :
    (candidates.map fun candidate => candidate.envelopeVariantId).Nodup := by
  apply distinct.map_on
  intro first firstMember second secondMember same
  exact List.inj_on_of_nodup_map enrolled.coherent.variantsDistinct
    (own first firstMember) (own second secondMember) same

/-- The checks of the candidates pass. -/
theorem validated (key : RestorableKey platform vaultKey)
    (enrolled : EnrolledState platform vaultKey scope profile output state)
    {candidates : List VaultPasskeyEnvelopeVariant}
    (own : ∀ candidate ∈ candidates, candidate ∈ state.envelopeVariants)
    (distinct : candidates.Nodup) :
    Validated platform state.credential.credentialId scope profile
      (candidates.map some) candidates := by
  constructor
  · rw [List.forall₂_map_left_iff, List.forall₂_same]
    intro candidate member
    have listed := own candidate member
    have accepted := (enrolled.enrolled candidate listed).accepts key
      (enrolled.variant_read listed)
    rw [enrolled.coherent.variantOwner candidate listed] at accepted
    exact accepted
  · exact enrolled.distinct_ids own distinct

/-- The candidates are tried until the first that was made for the output. -/
theorem candidates_answer (key : RestorableKey platform vaultKey)
    (enrolled : EnrolledState platform vaultKey scope profile output state)
    {candidates : List VaultPasskeyEnvelopeVariant}
    (own : ∀ candidate ∈ candidates, candidate ∈ state.envelopeVariants)
    (distinct : candidates.Nodup)
    (few : candidates.length ≤ maxPasskeyPrfEnvelopeCandidates)
    (given : Bytes) :
    unlockWithPasskeyPrfEnvelopeCandidates platform
        state.credential.credentialId (candidates.map some) (some given) scope
        profile =
      expectedAnswer output vaultKey candidates given := by
  have within : (candidates.map some).length ≤
      maxPasskeyPrfEnvelopeCandidates := by
    rw [List.length_map]
    exact few
  have valid := enrolled.validated key own distinct
  have mismatch : 32 ≤ given.length → ∀ candidate ∈ candidates,
      madeFor output given candidate = false →
      CipherMismatch (attemptedUnwrap platform scope profile given
        candidate).answer := by
    intro long candidate member other
    exact (enrolled.enrolled candidate (own candidate member)).rejects key
      long other
  by_cases short : given.length < 32
  · rw [expectedAnswer, if_pos short]
    exact (CandidateSemantics.prfShort short).answer
  have long : 32 ≤ given.length := not_lt.mp short
  rw [expectedAnswer, if_neg short]
  cases search : candidates.find? (madeFor output given) with
  | none =>
      have others := List.find?_eq_none.mp search
      have specified := CandidateSemantics.noMatch long within valid
        fun candidate member => mismatch long candidate member
          (eq_false_of_ne_true (others candidate member))
      rw [specified.answer, List.length_map]
  | some found =>
      obtain ⟨made, earlier, later, rfl, before⟩ :=
        List.find?_eq_some_iff_append.mp search
      have passed : ∀ candidate ∈ earlier,
          CipherMismatch (attemptedUnwrap platform scope profile given
            candidate).answer := by
        intro candidate member
        apply mismatch long candidate (List.mem_append_left _ member)
        exact (Bool.not_eq_true' _).mp (before candidate member)
      have listed := own found (by simp)
      have opened := (enrolled.enrolled found listed).opens key long made
      exact (CandidateSemantics.matched long within valid passed
        opened).answer

end EnrolledState

/-- What a binding stands for: its cookie names it alone, its plan and the
scoped ceremony speak of the one credential, what it selects is one variant if
it selects any, and the variants answer to the outputs they were made for. -/
structure QuickUnlockContract (platform : Platform) (vaultKey : CryptoKey)
    (scope : VaultScope) (profile : VaultCryptoProfile)
    (output : VaultPasskeyEnvelopeVariant → Bytes)
    (state : VaultPasskeyCredentialState)
    (binding : VaultPasskeyBindingMetadata) : Prop where
  named : parsePasskeyBindingId
    (some (deviceBindingPrefix ++ binding.bindingId)) = some binding.bindingId
  alone : ∀ other ∈ state.bindings,
    other.bindingId = binding.bindingId → other = binding
  planned : ∀ input : ResolvePasskeyUnlockPlanInput,
    input.intent = .quick → input.hasPasskeyPrfEnvelope = true →
    input.preliminaryPrfAvailable = true →
    input.bindingTarget = some binding.target →
    resolvePasskeyUnlockPlan input =
      .quick (.exact state.credential.credentialId)
        binding.selectedEnvelopeVariantId
  ceremony : ∀ options selected : OptionsMembers,
    selectAuthenticationCredentials options
      (.exact state.credential.credentialId) = .ok selected →
    ∃ descriptor : OptionsValue,
      OptionsValue.get (.object selected) "allowCredentials" =
        .array [descriptor] ∧
      descriptor.credentialId = state.credential.credentialId
  selects : ∀ identifier ∈ binding.selectedEnvelopeVariantId,
    ∃ variant ∈ state.envelopeVariants,
      ∀ other ∈ state.envelopeVariants,
        other.envelopeVariantId = identifier ↔ other = variant
  answers : ∀ (candidates : List VaultPasskeyEnvelopeVariant) (given : Bytes),
    (∀ candidate ∈ candidates, candidate ∈ state.envelopeVariants) →
    candidates.Nodup →
    candidates.length ≤ maxPasskeyPrfEnvelopeCandidates →
    unlockWithPasskeyPrfEnvelopeCandidates platform
        state.credential.credentialId (candidates.map some) (some given) scope
        profile =
      expectedAnswer output vaultKey candidates given

theorem selected_exact {options selected : OptionsMembers}
    {credentialId : JsString}
    (restricted : selectAuthenticationCredentials options
      (.exact credentialId) = .ok selected) :
    ∃ descriptor : OptionsValue,
      OptionsValue.get (.object selected) "allowCredentials" =
        .array [descriptor] ∧
      descriptor.credentialId = credentialId := by
  obtain ⟨chosen, selects, rfl⟩ :=
    selectAuthenticationCredentials_ok_iff.mp restricted
  obtain ⟨-, -, -, descriptor, -, same, rfl⟩ := selects
  exact ⟨descriptor, OptionsValue.get_withMember_self, same⟩

/-- Every binding of a stored state whose variants are enrolled and sealed
ideally leads back to the vault key.  A long enough PRF output opens the first
variant made for it and matches none otherwise; a shorter one is no output. -/
theorem quick_unlock_exact {platform : Platform} {vaultKey : CryptoKey}
    {scope : VaultScope} {profile : VaultCryptoProfile}
    {output : VaultPasskeyEnvelopeVariant → Bytes}
    {state : VaultPasskeyCredentialState}
    (key : RestorableKey platform vaultKey)
    (enrolled : EnrolledState platform vaultKey scope profile output state) :
    ∀ binding ∈ state.bindings,
      QuickUnlockContract platform vaultKey scope profile output state
        binding := by
  intro binding bound
  have coherent := enrolled.coherent
  have accepted := enrolled.binding_accepted bound
  have named : vaultPasskeyOpaqueIdSchema binding.bindingId = true := by
    simp only [vaultPasskeyBindingMetadataSchema, Bool.and_eq_true]
      at accepted
    exact accepted.1.1
  refine
    { named := parsePasskeyBindingId_prefixed named
      alone := ?_
      planned := ?_
      ceremony := fun _ _ => selected_exact
      selects := ?_
      answers := ?_ }
  · intro other listed same
    exact List.inj_on_of_nodup_map coherent.bindingsDistinct listed bound same
  · intro input quick envelope prf target
    rw [quickPlan_binding accepted quick envelope prf target,
      coherent.bindingOwner binding bound]
  · intro identifier chosen
    have given : identifier ≠ [] := by
      rw [Option.mem_def] at chosen
      simp only [vaultPasskeyBindingMetadataSchema, chosen,
        Bool.and_eq_true] at accepted
      exact opaqueId_nonEmpty accepted.2
    have inVariants := coherent.selectedExists binding bound identifier chosen
      given
    obtain ⟨variant, listed, rfl⟩ := List.mem_map.mp inVariants
    refine ⟨variant, listed, ?_⟩
    intro other otherListed
    constructor
    · exact List.inj_on_of_nodup_map coherent.variantsDistinct otherListed
        listed
    · intro same
      rw [same]
  · intro candidates given own distinct few
    exact enrolled.candidates_answer key own distinct few given

namespace Reference

def boundVariant : VaultPasskeyEnvelopeVariant :=
  { envelopeVariantId := js "variant"
    credentialId := js "credential"
    envelope := { encryptedVaultKey := createdEnvelope prfOutput } }

def boundBinding : VaultPasskeyBindingMetadata :=
  { bindingId := js "browser"
    credentialId := js "credential"
    selectedEnvelopeVariantId := some (js "variant") }

def boundState : VaultPasskeyCredentialState :=
  { credential :=
      { credentialId := js "credential"
        transports := none
        credentialDeviceType := some .multiDevice
        backupEligible := some true
        credentialBackedUp := some true }
    bindings := [boundBinding]
    envelopeVariants := [boundVariant] }

theorem boundState_enrolled :
    EnrolledState (envelopePlatform prfOutput).toPlatform
      (createdKey (material 7)) referenceScope referenceProfile
      (fun _ => prfOutput) boundState where
  read := by
    refine ⟨boundState, ?_⟩
    decide +kernel
  enrolled := by
    intro variant member
    rw [List.mem_singleton.mp member]
    exact
      { created := ⟨referenceIv, none, create_passkeyEnvelope⟩
        ideal := createdEnvelope_sealedForOneKey prfOutput }

end Reference

/-- A state with one binding and one variant. -/
theorem quick_unlock_exact_bound :
    QuickUnlockContract
      (Reference.envelopePlatform Reference.prfOutput).toPlatform
      (Reference.createdKey (Reference.material 7)) referenceScope
      referenceProfile (fun _ => Reference.prfOutput) Reference.boundState
      Reference.boundBinding := by
  have key : RestorableKey
      (Reference.envelopePlatform Reference.prfOutput).toPlatform
      (Reference.createdKey (Reference.material 7)) :=
    ⟨Reference.platform_lawful _, ⟨rfl, List.length_replicate⟩,
      @Reference.envelopeLedger_idealProbe Reference.prfOutput
        (Reference.material 7) List.length_replicate⟩
  exact quick_unlock_exact key Reference.boundState_enrolled _
    List.mem_cons_self

end VaultCore
