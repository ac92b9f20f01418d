import VaultCore.Envelopes.CandidateSemantics
import VaultCore.Envelopes.RoutedOpening
import VaultCore.Envelopes.Reference

/-!
# Candidates and single envelopes

A candidate is read by the schema before it is tried, which writes the keys of
its record in schema order.  A ciphertext that was sealed under the stored
order of the keys is opened as a single envelope and not as a candidate; for
every other envelope the two paths agree.
-/

namespace VaultCore

/-- The envelope is accepted, and its ciphertext holds a vault key under the
stored order of its keys and under none of the fixed orders. -/
structure SealedInStoredOrder (platform : Platform)
    (payload : EncryptedVaultPayload) (keys : DerivedKeys)
    (expectedScope : VaultScope) (profile : VaultCryptoProfile) : Prop where
  addressed : AddressedTo expectedScope payload
  permitted : PermittedContext profile payload.aad.context
  stored : ∃ aadBytes vaultKey,
    HoldsVaultKey platform payload keys aadBytes vaultKey ∧
    InStoredOrder profile payload aadBytes ∧
    ¬ InFixedOrder profile payload.aad aadBytes

section

variable {platform : Platform} {variant : VaultPasskeyEnvelopeVariant}
  {prfOutput : Bytes} {expectedScope : VaultScope}
  {profile : VaultCryptoProfile} {vaultKey : CryptoKey}

theorem fieldsDecode_of_unwrapped {payload : EncryptedVaultPayload}
    {keys : DerivedKeys}
    (unwrapped : unwrapUserVaultKeyWithDerivedKeys platform payload keys =
      .ok vaultKey) : FieldsDecode payload := by
  obtain ⟨inner, extracted, -⟩ :=
    unwrapUserVaultKeyWithDerivedKeys_ok_iff.mp unwrapped
  obtain ⟨text, decrypted, -⟩ := Outcome.bind_eq_ok_iff.mp extracted
  obtain ⟨iv, ciphertext, -, -, ivDecoded, decoded, -⟩ :=
    decryptField_sound decrypted
  exact { iv := ⟨iv, ivDecoded⟩, ciphertext := ⟨ciphertext, decoded⟩ }

/-- What routing opens passes every check of a candidate. -/
theorem accepts_of_unwrapped {parsed : VaultPasskeyEnvelopeVariant}
    (long : 32 ≤ prfOutput.length)
    (reads : vaultPasskeyEnvelopeVariantSchema platform variant = some parsed)
    (unwrapped : unwrapVaultKeyFromPasskey platform
      parsed.envelope.encryptedVaultKey prfOutput expectedScope profile false =
        .ok vaultKey) :
    Accepts platform parsed.credentialId expectedScope profile (some variant)
      parsed := by
  rw [unwrapVaultKeyFromPasskey_eq long] at unwrapped
  obtain ⟨addressed, permitted⟩ := accepted_of_unlocked unwrapped
  obtain ⟨candidate, opened, same, -⟩ :=
    unlockVaultKeyEnvelopeWithAadRouting_sound unwrapped
  have decodes := fieldsDecode_of_unwrapped opened
  constructor
  case reads => exact reads
  case credentialId => rfl
  case addressed => exact addressed
  case permitted => exact permitted
  case decodes =>
    constructor
    · rw [← same.iv]
      exact decodes.iv
    · rw [← same.ciphertext]
      exact decodes.ciphertext

/-- A sole candidate matches exactly when what the schema read of it is
unwrapped. -/
theorem sole_candidate_matched_iff {parsed : VaultPasskeyEnvelopeVariant}
    (long : 32 ≤ prfOutput.length)
    (reads : vaultPasskeyEnvelopeVariantSchema platform variant =
      some parsed) :
    (∃ identifier, unlockWithPasskeyPrfEnvelopeCandidates platform
        variant.credentialId [some variant] (some prfOutput) expectedScope
        profile = .matched identifier vaultKey) ↔
      unwrapVaultKeyFromPasskey platform parsed.envelope.encryptedVaultKey
        prfOutput expectedScope profile false = .ok vaultKey := by
  constructor
  · intro found
    obtain ⟨identifier, matching⟩ := found
    obtain ⟨output, given, candidate, -, ⟨unknown, member, schema⟩, -,
      unwrapped⟩ := unlockWithPasskeyPrfEnvelopeCandidates_matched matching
    cases given
    rw [List.mem_singleton.mp member] at schema
    have same : some candidate = some parsed := schema.symm.trans reads
    cases same
    exact unwrapped
  · intro unwrapped
    have credential := vaultPasskeyEnvelopeVariantSchema_credentialId reads
    have valid : Validated platform variant.credentialId expectedScope profile
        [some variant] ([] ++ parsed :: []) := by
      constructor
      · rw [← credential]
        exact .cons (accepts_of_unwrapped long reads unwrapped) .nil
      · exact List.nodup_singleton _
    have specified : CandidateSemantics platform variant.credentialId
        expectedScope profile [some variant] (some prfOutput) _ :=
      .matched long (Nat.le_of_ble_eq_true rfl) valid
        (by intro candidate member; cases member) unwrapped
    have result := @recordedCandidateUnlock_result platform
      variant.credentialId expectedScope profile [some variant]
      (some prfOutput)
    rw [specified.run] at result
    exact ⟨_, (Except.ok.inj result).symm⟩

/-- The candidate path opens what was sealed in a fixed order. -/
theorem candidate_path_opens_iff (long : 32 ≤ prfOutput.length)
    (valid : (vaultPasskeyEnvelopeVariantSchema platform variant).isSome)
    (once : OpensOnce platform variant.envelope.encryptedVaultKey
      (prfKeys prfOutput long).encryptionKey) :
    (∃ identifier, unlockWithPasskeyPrfEnvelopeCandidates platform
        variant.credentialId [some variant] (some prfOutput) expectedScope
        profile = .matched identifier vaultKey) ↔
      AddressedTo expectedScope variant.envelope.encryptedVaultKey ∧
        PermittedContext profile
          variant.envelope.encryptedVaultKey.aad.context ∧
        ∃ aadBytes,
          InFixedOrder profile variant.envelope.encryptedVaultKey.aad
            aadBytes ∧
          HoldsVaultKey platform variant.envelope.encryptedVaultKey
            (prfKeys prfOutput long) aadBytes vaultKey := by
  obtain ⟨parsed, reads⟩ := Option.isSome_iff_exists.mp valid
  have ordered := vaultPasskeyEnvelopeVariantSchema_eq_some reads
  have again : OpensOnce platform
      variant.envelope.encryptedVaultKey.inSchemaOrder
      (prfKeys prfOutput long).encryptionKey :=
    once
  rw [sole_candidate_matched_iff long reads,
    unwrapVaultKeyFromPasskey_eq long, ordered, routing_opens_iff rfl again,
    addressedTo_inSchemaOrder]
  apply and_congr_right
  intro _
  apply and_congr_right
  intro permitted
  apply exists_congr
  intro aadBytes
  exact and_congr (@routedAad_inSchemaOrder
    variant.envelope.encryptedVaultKey profile aadBytes permitted) Iff.rfl

/-- The single path also opens what was sealed in the stored order. -/
theorem single_path_opens_iff {envelope : PasskeyPrfEnvelope}
    {prfRequired : Bool} (long : 32 ≤ prfOutput.length)
    (once : OpensOnce platform envelope.encryptedVaultKey
      (prfKeys prfOutput long).encryptionKey) :
    unlockWithPasskeyPrfEnvelope platform envelope (some prfOutput)
        expectedScope profile prfRequired = .ok vaultKey ↔
      AddressedTo expectedScope envelope.encryptedVaultKey ∧
        PermittedContext profile envelope.encryptedVaultKey.aad.context ∧
        ∃ aadBytes,
          (InFixedOrder profile envelope.encryptedVaultKey.aad aadBytes ∨
            InStoredOrder profile envelope.encryptedVaultKey aadBytes) ∧
          HoldsVaultKey platform envelope.encryptedVaultKey
            (prfKeys prfOutput long) aadBytes vaultKey := by
  rw [unlockWithPasskeyPrfEnvelope_ok_iff, unwrapVaultKeyFromPasskey_eq long,
    routing_opens_iff rfl once]
  apply and_congr_right
  intro _
  apply and_congr_right
  intro permitted
  simp only [routedAad_iff permitted]

end

/-- For every valid variant, the candidate path and the single path agree on
every key exactly when the ciphertext was not sealed under a stored order of
the keys of its record. -/
theorem candidate_path_agrees_iff (platform : Platform)
    (variant : VaultPasskeyEnvelopeVariant) (prfOutput : Bytes)
    (expectedScope : VaultScope) (profile : VaultCryptoProfile)
    (prfRequired : Bool) (long : 32 ≤ prfOutput.length)
    (valid : (vaultPasskeyEnvelopeVariantSchema platform variant).isSome)
    (once : OpensOnce platform variant.envelope.encryptedVaultKey
      (prfKeys prfOutput long).encryptionKey) :
    (∀ vaultKey,
      unlockWithPasskeyPrfEnvelope platform variant.envelope (some prfOutput)
          expectedScope profile prfRequired = .ok vaultKey ↔
        ∃ identifier, unlockWithPasskeyPrfEnvelopeCandidates platform
          variant.credentialId [some variant] (some prfOutput) expectedScope
          profile = .matched identifier vaultKey) ↔
      ¬ SealedInStoredOrder platform variant.envelope.encryptedVaultKey
        (prfKeys prfOutput long) expectedScope profile := by
  simp only [single_path_opens_iff long once,
    candidate_path_opens_iff long valid once]
  constructor
  · intro agree differing
    obtain ⟨addressed, permitted, aadBytes, vaultKey, holds, stored, unfixed⟩ :=
      differing
    obtain ⟨-, -, otherBytes, fixed, otherHolds⟩ := (agree vaultKey).mp
      ⟨addressed, permitted, aadBytes, .inr stored, holds⟩
    have same := (holds.unique once otherHolds).1
    rw [same] at fixed
    exact unfixed fixed
  · intro agreeing vaultKey
    constructor
    · intro opened
      obtain ⟨addressed, permitted, aadBytes, ordered, holds⟩ := opened
      refine ⟨addressed, permitted, aadBytes, ?_, holds⟩
      rcases ordered with fixed | stored
      · exact fixed
      · by_contra unfixed
        exact agreeing
          ⟨addressed, permitted, aadBytes, vaultKey, holds, stored, unfixed⟩
    · intro opened
      obtain ⟨addressed, permitted, aadBytes, fixed, holds⟩ := opened
      exact ⟨addressed, permitted, aadBytes, .inl fixed, holds⟩

/-- The bytes of a record with a context determine the order of its keys. -/
theorem order_of_stringify {aad : VaultAad} {context : JsString}
    {left right : AadOrder} (written : aad.context = .text context)
    (equal : stringToBytes (aad.stringify left) =
      stringToBytes (aad.stringify right)) :
    left = right := by
  have names : ∀ order : AadOrder,
      (aad.entries order).map Prod.fst = order.keys.map AadKey.name := by
    intro order
    have named : ∀ key : AadKey,
        ((aad.value key).map (key.name, ·)).map Prod.fst = some key.name := by
      intro key
      cases key <;> simp only [VaultAad.value, written, Option.map_some]
    rw [VaultAad.entries, List.map_filterMap]
    simp only [named]
    exact congrFun List.filterMap_eq_map order.keys
  have entries := JsonText.object_injective (Utf8.encode_ofChars_injective equal)
  have sameNames := congrArg (List.map Prod.fst) entries
  rw [names, names] at sameNames
  have keys := List.map_injective_iff.mpr AadKey.name_injective sameNames
  cases left
  cases right
  cases keys
  rfl

namespace Reference

def passkeyOutput : Bytes := List.replicate 32 9

theorem passkeyOutput_long : 32 ≤ passkeyOutput.length := Nat.le_refl 32

def passkeyKeys : DerivedKeys := prfKeys passkeyOutput passkeyOutput_long

def orderedAad (order : AadOrder) : VaultAad :=
  { vaultKeyAad referenceScope referenceProfile with order := order }

/-- A vault key sealed for a record whose keys are written in some order. -/
def orderedSealing (order : AadOrder) : Sealing :=
  { key := passkeyKeys.encryptionKey.material
    iv := referenceIv.val
    aad := stringToBytes ((orderedAad order).stringify order)
    plaintext := stringToBytes (bytesToBase64Url (wrap (material 7).val)) }

def orderedPlatform (order : AadOrder) : Platform :=
  platform [orderedSealing order]

def orderedPayload (order : AadOrder) : EncryptedVaultPayload :=
  { version := encryptionVersion
    alg := encryptionAlg
    iv := bytesToBase64Url referenceIv.val
    ciphertext := bytesToBase64Url
      (sealed [orderedSealing order] (orderedSealing order))
    aad := orderedAad order }

def orderedVariant (order : AadOrder) : VaultPasskeyEnvelopeVariant :=
  { envelopeVariantId := js "variant"
    credentialId := js "credential"
    envelope := { encryptedVaultKey := orderedPayload order } }

/-- An order that no release of the code writes. -/
def fieldFirst : AadOrder :=
  { keys := [.field, .userId, .resourceId, .context]
    complete := by decide }

private theorem orderedPayload_ciphertext (order : AadOrder) :
    (orderedPayload order).ciphertext = bytesToBase64Url
      (sealed [orderedSealing order] (orderedSealing order)) := by
  simp only [orderedPayload]

theorem orderedPayload_opensOnce (order : AadOrder) :
    OpensOnce (orderedPlatform order) (orderedPayload order)
      passkeyKeys.encryptionKey := by
  refine ⟨(orderedSealing order).aad, ?_⟩
  intro iv ciphertext other plaintext _ decoded opened
  rw [orderedPayload_ciphertext] at decoded
  rw [decodeBoundedBase64Url_bytes decoded] at opened
  exact congrArg Sealing.aad (eq_of_open_single opened)

theorem orderedPayload_holds (order : AadOrder) :
    HoldsVaultKey (orderedPlatform order) (orderedPayload order) passkeyKeys
      (orderedSealing order).aad openedVaultKey := by
  have short : (orderedSealing order).plaintext.length = 54 := by
    change (stringToBytes (bytesToBase64Url (wrap (material 7).val))).length =
      54
    decide +kernel
  refine ⟨referenceIv.val,
    sealed [orderedSealing order] (orderedSealing order),
    (orderedSealing order).plaintext, wrap (material 7).val,
    decodeBoundedBase64Url_of_le (le_of_eq referenceIv.property), ?_,
    openSealed_eq_some_iff.mpr rfl, ?_, ?_⟩
  · rw [orderedPayload_ciphertext]
    apply decodeBoundedBase64Url_of_le
    rw [sealed, List.length_append, short, length_tag]
    decide
  · rw [orderedSealing, bytesToString_base64Url,
      base64UrlToBytes_bytesToBase64Url]
  · apply restoreInnerVaultKey_wrap (platform_lawful _) rfl
    decide

theorem orderedPayload_accepted (order : AadOrder) :
    AddressedTo referenceScope (orderedPayload order) ∧
      PermittedContext referenceProfile (orderedPayload order).aad.context :=
  ⟨⟨rfl, rfl, rfl⟩, .canonical⟩

theorem orderedPayload_inStoredOrder (order : AadOrder) :
    InStoredOrder referenceProfile (orderedPayload order)
      (orderedSealing order).aad := by
  have canonical : (orderedPayload order).aad.context =
      .text referenceProfile.aadContextEnvelope := rfl
  refine ⟨orderedPayload order, ?_, rfl⟩
  rw [routedCandidates, if_pos canonical]
  exact List.mem_cons_self

theorem orderedPayload_inFixedOrder {order : AadOrder}
    (ordered : InFixedOrder referenceProfile (orderedPayload order).aad
      (orderedSealing order).aad) :
    order = .canonical ∨ order = .literal := by
  obtain ⟨context, listed, written⟩ := ordered
  have canonical : context = .text referenceProfile.aadContextEnvelope := by
    change context ∈ routedContexts referenceProfile
      (.text referenceProfile.aadContextEnvelope) at listed
    rw [routedContexts, if_pos rfl] at listed
    exact List.mem_singleton.mp listed
  rw [canonical] at written
  rcases written with same | same
  · exact .inl (@order_of_stringify (orderedAad order) _ _ _ rfl same)
  · exact .inr (@order_of_stringify (orderedAad order) _ _ _ rfl same)

end Reference

/-- An envelope sealed in its stored order, with the field first, opens as a
single envelope and not as a candidate. -/
theorem stored_order_not_matched :
    (vaultPasskeyEnvelopeVariantSchema
      (Reference.orderedPlatform Reference.fieldFirst)
      (Reference.orderedVariant Reference.fieldFirst)).isSome ∧
    OpensOnce (Reference.orderedPlatform Reference.fieldFirst)
      (Reference.orderedPayload Reference.fieldFirst)
      Reference.passkeyKeys.encryptionKey ∧
    unlockWithPasskeyPrfEnvelope
      (Reference.orderedPlatform Reference.fieldFirst)
      (Reference.orderedVariant Reference.fieldFirst).envelope
      (some Reference.passkeyOutput) referenceScope referenceProfile true =
        .ok Reference.openedVaultKey ∧
    ∀ identifier vaultKey,
      unlockWithPasskeyPrfEnvelopeCandidates
        (Reference.orderedPlatform Reference.fieldFirst)
        (Reference.orderedVariant Reference.fieldFirst).credentialId
        [some (Reference.orderedVariant Reference.fieldFirst)]
        (some Reference.passkeyOutput) referenceScope referenceProfile ≠
          .matched identifier vaultKey := by
  have valid : (vaultPasskeyEnvelopeVariantSchema
      (Reference.orderedPlatform Reference.fieldFirst)
      (Reference.orderedVariant Reference.fieldFirst)).isSome = true := by
    decide +kernel
  have once := Reference.orderedPayload_opensOnce Reference.fieldFirst
  have holds := Reference.orderedPayload_holds Reference.fieldFirst
  obtain ⟨addressed, permitted⟩ :=
    Reference.orderedPayload_accepted Reference.fieldFirst
  refine ⟨valid, once, ?_, ?_⟩
  · apply (single_path_opens_iff Reference.passkeyOutput_long once).mpr
    exact ⟨addressed, permitted, _,
      .inr (Reference.orderedPayload_inStoredOrder _), holds⟩
  · intro identifier vaultKey matching
    obtain ⟨-, -, aadBytes, fixed, otherHolds⟩ :=
      (candidate_path_opens_iff Reference.passkeyOutput_long valid once).mp
        ⟨identifier, matching⟩
    rw [(holds.unique once otherHolds).1] at fixed
    rcases Reference.orderedPayload_inFixedOrder fixed with same | same
    · cases same
    · cases same

/-- An envelope sealed in the canonical order is opened on both paths. -/
theorem candidate_path_agrees_iff_canonical :
    unlockWithPasskeyPrfEnvelope
        (Reference.orderedPlatform .canonical)
        (Reference.orderedVariant .canonical).envelope
        (some Reference.passkeyOutput) referenceScope referenceProfile true =
          .ok Reference.openedVaultKey ∧
      ∃ identifier, unlockWithPasskeyPrfEnvelopeCandidates
        (Reference.orderedPlatform .canonical)
        (Reference.orderedVariant .canonical).credentialId
        [some (Reference.orderedVariant .canonical)]
        (some Reference.passkeyOutput) referenceScope referenceProfile =
          .matched identifier Reference.openedVaultKey := by
  have once := Reference.orderedPayload_opensOnce .canonical
  have holds := Reference.orderedPayload_holds .canonical
  obtain ⟨addressed, permitted⟩ :=
    Reference.orderedPayload_accepted .canonical
  have fixed : InFixedOrder referenceProfile
      (Reference.orderedPayload .canonical).aad
      (Reference.orderedSealing .canonical).aad := by
    refine ⟨.text referenceProfile.aadContextEnvelope, ?_, .inl rfl⟩
    change _ ∈ routedContexts referenceProfile
      (.text referenceProfile.aadContextEnvelope)
    rw [routedContexts, if_pos rfl]
    exact List.mem_cons_self
  have agree := (candidate_path_agrees_iff
    (Reference.orderedPlatform .canonical)
    (Reference.orderedVariant .canonical) Reference.passkeyOutput
    referenceScope referenceProfile true Reference.passkeyOutput_long
    (by decide +kernel) once).mpr (by
      intro differing
      obtain ⟨aadBytes, vaultKey, otherHolds, -, unfixed⟩ := differing.stored
      rw [(holds.unique once otherHolds).1] at unfixed
      exact unfixed fixed)
  have opened : unlockWithPasskeyPrfEnvelope
      (Reference.orderedPlatform .canonical)
      (Reference.orderedVariant .canonical).envelope
      (some Reference.passkeyOutput) referenceScope referenceProfile true =
        .ok Reference.openedVaultKey := by
    apply (single_path_opens_iff Reference.passkeyOutput_long once).mpr
    exact ⟨addressed, permitted, _, .inl fixed, holds⟩
  exact ⟨opened, (agree Reference.openedVaultKey).mp opened⟩

end VaultCore
