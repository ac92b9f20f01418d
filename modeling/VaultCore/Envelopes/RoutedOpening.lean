import VaultCore.Envelopes.AadRouting
import VaultCore.Validation.Schemas

/-!
# What routing opens

Under an ideal cipher a ciphertext opens under one authenticated byte string
only.  Routing then opens an envelope exactly when that byte string is the
serialization of one of its routed candidates: in one of the two fixed orders
of the keys, or in the order in which the record was stored.
-/

namespace VaultCore

/-- Under this key the ciphertext opens for at most one byte string. -/
def OpensOnce (platform : Platform) (payload : EncryptedVaultPayload)
    (key : CryptoKey) : Prop :=
  ∃ aadBytes, AuthenticatedAs platform payload key aadBytes

/-- Under these keys and bytes the ciphertext opens to a blob that restores the
vault key. -/
def HoldsVaultKey (platform : Platform) (payload : EncryptedVaultPayload)
    (keys : DerivedKeys) (aadBytes : Bytes) (vaultKey : CryptoKey) : Prop :=
  ∃ iv ciphertext plaintext inner,
    decodeBoundedBase64Url payload.iv maxVaultIvBytes = .ok iv ∧
    decodeBoundedBase64Url payload.ciphertext maxVaultCiphertextBytes =
      .ok ciphertext ∧
    platform.aesGcmOpen keys.encryptionKey.material iv aadBytes ciphertext =
      some plaintext ∧
    base64UrlToBytes (bytesToString plaintext) = .ok inner ∧
    restoreInnerVaultKey platform inner keys.wrappingKey false = .ok vaultKey

/-- The bytes under which routing may try to open a payload. -/
def RoutedAad (profile : VaultCryptoProfile) (payload : EncryptedVaultPayload)
    (aadBytes : Bytes) : Prop :=
  ∃ candidate ∈ routedCandidates payload profile,
    aadBytes ∈ aadByteCandidates candidate.aad

/-- A routed context, written in one of the two fixed orders. -/
def InFixedOrder (profile : VaultCryptoProfile) (aad : VaultAad)
    (aadBytes : Bytes) : Prop :=
  ∃ context ∈ routedContexts profile aad.context,
    aadBytes = stringToBytes (({ aad with context }).stringify .canonical) ∨
      aadBytes = stringToBytes (({ aad with context }).stringify .literal)

/-- A routed candidate, written in its own order. -/
def InStoredOrder (profile : VaultCryptoProfile)
    (payload : EncryptedVaultPayload) (aadBytes : Bytes) : Prop :=
  ∃ candidate ∈ routedCandidates payload profile,
    aadBytes = stringToBytes (candidate.aad.stringify candidate.aad.order)

section

variable {platform : Platform} {payload : EncryptedVaultPayload}
  {keys : DerivedKeys} {expectedScope : VaultScope}
  {profile : VaultCryptoProfile} {aadBytes : Bytes} {vaultKey : CryptoKey}

theorem Readdressed.stringify {candidate : EncryptedVaultPayload}
    (same : Readdressed payload candidate) (order : AadOrder) :
    candidate.aad.stringify order =
      ({ payload.aad with context := candidate.aad.context }).stringify
        order := by
  apply VaultAad.stringify_congr
  simp only [VaultAad.scope, same.userId, same.resourceId, same.field]

theorem routedAad_iff (permitted : PermittedContext profile
      payload.aad.context) :
    RoutedAad profile payload aadBytes ↔
      InFixedOrder profile payload.aad aadBytes ∨
        InStoredOrder profile payload aadBytes := by
  have contexts := routedCandidates_contexts permitted
  constructor
  · intro routed
    obtain ⟨candidate, member, listed⟩ := routed
    have same := readdressed_of_routed member
    have context : candidate.aad.context ∈
        routedContexts profile payload.aad.context := by
      rw [← contexts]
      exact List.mem_map_of_mem member
    rcases mem_aadByteCandidates_iff.mp listed with
      canonical | literal | stored
    · rw [canonicalAadString, same.stringify] at canonical
      exact .inl ⟨_, context, .inl canonical⟩
    · rw [same.stringify] at literal
      exact .inl ⟨_, context, .inr literal⟩
    · exact .inr ⟨candidate, member, stored⟩
  · intro ordered
    rcases ordered with ⟨context, listed, written⟩ |
      ⟨candidate, member, stored⟩
    · rw [← contexts] at listed
      obtain ⟨candidate, member, rfl⟩ := List.mem_map.mp listed
      have same := readdressed_of_routed member
      rw [← same.stringify, ← same.stringify] at written
      exact ⟨candidate, member, mem_aadByteCandidates_iff.mpr
        (written.imp_right .inl)⟩
    · exact ⟨candidate, member,
        mem_aadByteCandidates_iff.mpr (.inr (.inr stored))⟩

theorem HoldsVaultKey.of_carries {candidate : EncryptedVaultPayload}
    (iv : candidate.iv = payload.iv)
    (ciphertext : candidate.ciphertext = payload.ciphertext) :
    HoldsVaultKey platform candidate keys aadBytes vaultKey ↔
      HoldsVaultKey platform payload keys aadBytes vaultKey := by
  unfold HoldsVaultKey
  rw [iv, ciphertext]

theorem OpensOnce.of_carries {candidate : EncryptedVaultPayload}
    {key : CryptoKey} (iv : candidate.iv = payload.iv)
    (ciphertext : candidate.ciphertext = payload.ciphertext)
    (once : OpensOnce platform payload key) :
    OpensOnce platform candidate key := by
  unfold OpensOnce AuthenticatedAs
  rw [iv, ciphertext]
  exact once

/-- A ciphertext that opens once holds one vault key. -/
theorem HoldsVaultKey.unique
    (once : OpensOnce platform payload keys.encryptionKey)
    {otherBytes : Bytes} {otherKey : CryptoKey}
    (holds : HoldsVaultKey platform payload keys aadBytes vaultKey)
    (other : HoldsVaultKey platform payload keys otherBytes otherKey) :
    otherBytes = aadBytes ∧ otherKey = vaultKey := by
  obtain ⟨sealedBytes, authentic⟩ := once
  obtain ⟨iv, ciphertext, plaintext, inner, ivDecoded, decoded, opened,
    blob, restored⟩ := holds
  obtain ⟨otherIv, otherCiphertext, otherPlaintext, otherInner,
    otherIvDecoded, otherDecoded, otherOpened, otherBlob, otherRestored⟩ :=
    other
  rw [ivDecoded] at otherIvDecoded
  rw [decoded] at otherDecoded
  cases otherIvDecoded
  cases otherDecoded
  have sealing := authentic iv ciphertext _ _ ivDecoded decoded opened
  have otherSealing := authentic iv ciphertext _ _ ivDecoded decoded otherOpened
  have same : otherBytes = aadBytes := otherSealing.trans sealing.symm
  rw [same, opened] at otherOpened
  cases otherOpened
  rw [blob] at otherBlob
  cases otherBlob
  rw [restored] at otherRestored
  cases otherRestored
  exact ⟨same, rfl⟩

/-- Unwrapping succeeds exactly for the bytes the ciphertext was sealed
under. -/
theorem unwrapUserVaultKeyWithDerivedKeys_holds_iff
    (algorithm : keys.encryptionKey.algorithm = .aesGcm)
    (once : OpensOnce platform payload keys.encryptionKey) :
    unwrapUserVaultKeyWithDerivedKeys platform payload keys = .ok vaultKey ↔
      ∃ aadBytes ∈ aadByteCandidates payload.aad,
        HoldsVaultKey platform payload keys aadBytes vaultKey := by
  rw [unwrapUserVaultKeyWithDerivedKeys_ok_iff]
  constructor
  · intro unwrapped
    obtain ⟨inner, extracted, restored⟩ := unwrapped
    obtain ⟨text, decrypted, blob⟩ := Outcome.bind_eq_ok_iff.mp extracted
    obtain ⟨iv, ciphertext, aadBytes, plaintext, ivDecoded, decoded, member,
      opened, written⟩ := decryptField_sound decrypted
    rw [written] at blob
    exact ⟨aadBytes, member, iv, ciphertext, plaintext, inner, ivDecoded,
      decoded, opened, blob, restored⟩
  · intro held
    obtain ⟨aadBytes, member, iv, ciphertext, plaintext, inner, ivDecoded,
      decoded, opened, blob, restored⟩ := held
    obtain ⟨sealedBytes, authentic⟩ := once
    have unique : ∀ other otherPlaintext,
        platform.aesGcmOpen keys.encryptionKey.material iv other ciphertext =
          some otherPlaintext → other = aadBytes := by
      intro other otherPlaintext otherOpened
      have sealing := authentic iv ciphertext _ _ ivDecoded decoded opened
      exact (authentic iv ciphertext _ _ ivDecoded decoded otherOpened).trans
        sealing.symm
    obtain ⟨text, decrypted⟩ := (decryptField_iff_of_unique algorithm
      ivDecoded decoded opened unique).mpr member
    obtain ⟨otherIv, otherCiphertext, other, otherPlaintext, otherIvDecoded,
      otherDecoded, -, otherOpened, written⟩ := decryptField_sound decrypted
    rw [ivDecoded] at otherIvDecoded
    rw [decoded] at otherDecoded
    cases otherIvDecoded
    cases otherDecoded
    rw [unique other otherPlaintext otherOpened, opened] at otherOpened
    cases otherOpened
    refine ⟨inner, ?_, restored⟩
    rw [extractInnerVaultKeyBlob, decrypted, Outcome.ok_bind, written, blob]

theorem unlockVaultKeyEnvelopeWithAadRouting_eq
    {decrypt : EncryptedVaultPayload → Except VaultError CryptoKey}
    (addressed : AddressedTo expectedScope payload)
    (permitted : PermittedContext profile payload.aad.context) :
    ∃ lastError,
      unlockVaultKeyEnvelopeWithAadRouting payload expectedScope profile
        decrypt = Outcome.firstSuccess decrypt
          (routedCandidates payload profile) lastError := by
  obtain ⟨lastError, routed⟩ :=
    @Stateful.unlockVaultKeyEnvelopeWithAadRouting_search payload expectedScope
      profile Unit (fun candidate => Stateful.liftExcept (decrypt candidate))
      addressed permitted
  rw [Stateful.unlockVaultKeyEnvelopeWithAadRouting_stateless,
    Stateful.firstSuccess_liftExcept] at routed
  exact ⟨lastError, congrArg Prod.fst (congrFun routed ())⟩

theorem accepted_of_unlocked
    {decrypt : EncryptedVaultPayload → Except VaultError CryptoKey}
    (unlocked : unlockVaultKeyEnvelopeWithAadRouting payload expectedScope
      profile decrypt = .ok vaultKey) :
    AddressedTo expectedScope payload ∧
      PermittedContext profile payload.aad.context := by
  obtain ⟨candidate, -, -, user, resource, field, allowed, -⟩ :=
    unlockVaultKeyEnvelopeWithAadRouting_sound unlocked
  exact ⟨⟨user, resource, field⟩, isVaultKeyAadContextAllowed_iff.mp allowed⟩

/-- Routing opens an envelope exactly when it is addressed to the expected
account and vault under a permitted context, and its ciphertext holds a vault
key under bytes that routing tries. -/
theorem routing_opens_iff
    (algorithm : keys.encryptionKey.algorithm = .aesGcm)
    (once : OpensOnce platform payload keys.encryptionKey) :
    unlockVaultKeyEnvelopeWithAadRouting payload expectedScope profile
        (fun candidate => unwrapUserVaultKeyWithDerivedKeys platform candidate
          keys) = .ok vaultKey ↔
      AddressedTo expectedScope payload ∧
        PermittedContext profile payload.aad.context ∧
          ∃ aadBytes, RoutedAad profile payload aadBytes ∧
            HoldsVaultKey platform payload keys aadBytes vaultKey := by
  have opens : ∀ candidate ∈ routedCandidates payload profile, ∀ key,
      unwrapUserVaultKeyWithDerivedKeys platform candidate keys = .ok key ↔
        ∃ aadBytes ∈ aadByteCandidates candidate.aad,
          HoldsVaultKey platform payload keys aadBytes key := by
    intro candidate member key
    have same := readdressed_of_routed member
    have again := OpensOnce.of_carries same.iv same.ciphertext once
    rw [unwrapUserVaultKeyWithDerivedKeys_holds_iff algorithm again]
    simp only [HoldsVaultKey.of_carries same.iv same.ciphertext]
  constructor
  · intro unlocked
    obtain ⟨addressed, permitted⟩ := accepted_of_unlocked unlocked
    obtain ⟨lastError, routed⟩ :=
      unlockVaultKeyEnvelopeWithAadRouting_eq addressed permitted
    rw [routed] at unlocked
    obtain ⟨candidate, member, opened⟩ := Outcome.firstSuccess_sound unlocked
    obtain ⟨aadBytes, listed, holds⟩ :=
      (opens candidate member vaultKey).mp opened
    exact ⟨addressed, permitted, aadBytes, ⟨candidate, member, listed⟩, holds⟩
  · intro accepted
    obtain ⟨addressed, permitted, aadBytes, ⟨candidate, member, listed⟩,
      holds⟩ := accepted
    obtain ⟨lastError, routed⟩ :=
      unlockVaultKeyEnvelopeWithAadRouting_eq addressed permitted
    rw [routed]
    apply (Outcome.firstSuccess_eq_ok_iff ?_).mpr
    · exact ⟨candidate, member,
        (opens candidate member vaultKey).mpr ⟨aadBytes, listed, holds⟩⟩
    · intro other otherMember otherKey opened
      obtain ⟨otherBytes, -, otherHolds⟩ :=
        (opens other otherMember otherKey).mp opened
      exact (holds.unique once otherHolds).2

/-! ## Records read again by a schema -/

theorem addressedTo_inSchemaOrder :
    AddressedTo expectedScope payload.inSchemaOrder ↔
      AddressedTo expectedScope payload := by
  constructor
  · intro addressed
    exact ⟨addressed.userId, addressed.resourceId, addressed.field⟩
  · intro addressed
    exact ⟨addressed.userId, addressed.resourceId, addressed.field⟩

/-- A record in schema order is tried in the two fixed orders only. -/
theorem routedAad_inSchemaOrder
    (permitted : PermittedContext profile payload.aad.context) :
    RoutedAad profile payload.inSchemaOrder aadBytes ↔
      InFixedOrder profile payload.aad aadBytes := by
  rw [@routedAad_iff payload.inSchemaOrder profile aadBytes permitted]
  apply or_iff_left_of_imp
  intro ordered
  obtain ⟨candidate, member, written⟩ := ordered
  have same := readdressed_of_routed member
  have order : candidate.aad.order = .literal := by
    unfold routedCandidates at member
    split at member
    · rw [List.mem_singleton.mp member]
      rfl
    · obtain ⟨context, -, rfl⟩ := List.mem_map.mp member
      rfl
  have context : candidate.aad.context ∈
      routedContexts profile payload.aad.context := by
    have contexts := @routedCandidates_contexts payload.inSchemaOrder profile
      permitted
    have listed : candidate.aad.context ∈
        (routedCandidates payload.inSchemaOrder profile).map
          (fun other => other.aad.context) := List.mem_map_of_mem member
    rw [contexts] at listed
    exact listed
  rw [order, same.stringify] at written
  exact ⟨_, context, .inr written⟩

/-- A record in schema order has no further candidates than as stored. -/
theorem aadByteCandidates_inSchemaOrder (payload : EncryptedVaultPayload) :
    aadByteCandidates payload.inSchemaOrder.aad <+:
      aadByteCandidates payload.aad := by
  have scope : payload.inSchemaOrder.aad.scope = payload.aad.scope := rfl
  have canonical : canonicalAadString payload.inSchemaOrder.aad =
      canonicalAadString payload.aad :=
    VaultAad.stringify_congr scope .canonical
  have literal : payload.inSchemaOrder.aad.stringify .literal =
      payload.aad.stringify .literal :=
    VaultAad.stringify_congr scope .literal
  have order : payload.inSchemaOrder.aad.order = .literal := rfl
  apply List.IsPrefix.map
  rw [order, canonical, literal]
  generalize canonicalAadString payload.aad = first
  generalize payload.aad.stringify .literal = second
  generalize payload.aad.stringify payload.aad.order = third
  by_cases same : second = first
  · simp [List.eraseDups_cons, same]
  · simp [List.eraseDups_cons, same]

theorem decryptField_inSchemaOrder {key : CryptoKey} {text : JsString}
    (decrypted : decryptField platform payload.inSchemaOrder key = .ok text) :
    decryptField platform payload key = .ok text := by
  unfold decryptField at decrypted ⊢
  obtain ⟨iv, ivDecoded, rest⟩ := Outcome.bind_eq_ok_iff.mp decrypted
  obtain ⟨ciphertext, decoded, found⟩ := Outcome.bind_eq_ok_iff.mp rest
  have sameIv : payload.inSchemaOrder.iv = payload.iv := rfl
  have sameCiphertext : payload.inSchemaOrder.ciphertext =
      payload.ciphertext := rfl
  rw [sameIv] at ivDecoded
  rw [sameCiphertext] at decoded
  obtain ⟨later, candidates⟩ := aadByteCandidates_inSchemaOrder payload
  rw [ivDecoded, decoded, Outcome.ok_bind, Outcome.ok_bind, ← candidates]
  exact Outcome.firstSuccess_append later found

theorem unwrap_inSchemaOrder
    (unwrapped : unwrapUserVaultKeyWithDerivedKeys platform
      payload.inSchemaOrder keys = .ok vaultKey) :
    unwrapUserVaultKeyWithDerivedKeys platform payload keys = .ok vaultKey := by
  obtain ⟨inner, extracted, restored⟩ :=
    unwrapUserVaultKeyWithDerivedKeys_ok_iff.mp unwrapped
  obtain ⟨text, decrypted, blob⟩ := Outcome.bind_eq_ok_iff.mp extracted
  apply unwrapUserVaultKeyWithDerivedKeys_ok_iff.mpr
  refine ⟨inner, ?_, restored⟩
  rw [extractInnerVaultKeyBlob, decryptField_inSchemaOrder decrypted,
    Outcome.ok_bind, blob]

theorem routedCandidates_inSchemaOrder :
    routedCandidates payload.inSchemaOrder profile =
      (routedCandidates payload profile).map
        EncryptedVaultPayload.inSchemaOrder := by
  have context : payload.inSchemaOrder.aad.context = payload.aad.context := rfl
  unfold routedCandidates
  rw [context]
  split
  · rfl
  · rw [legacyVaultKeyPayloadCandidates, legacyVaultKeyPayloadCandidates,
      context, List.map_map]
    rfl

/-- What routing opens in schema order it opens as stored. -/
theorem routing_opens_of_inSchemaOrder
    (unlocked : unlockVaultKeyEnvelopeWithAadRouting payload.inSchemaOrder
      expectedScope profile (fun candidate =>
        unwrapUserVaultKeyWithDerivedKeys platform candidate keys) =
      .ok vaultKey) :
    ∃ key, unlockVaultKeyEnvelopeWithAadRouting payload expectedScope profile
      (fun candidate => unwrapUserVaultKeyWithDerivedKeys platform candidate
        keys) = .ok key := by
  obtain ⟨addressed, permitted⟩ := accepted_of_unlocked unlocked
  obtain ⟨_, parsedSearch⟩ :=
    unlockVaultKeyEnvelopeWithAadRouting_eq addressed permitted
  rw [parsedSearch, routedCandidates_inSchemaOrder] at unlocked
  obtain ⟨candidate, member, opened⟩ := Outcome.firstSuccess_sound unlocked
  obtain ⟨stored, storedMember, rfl⟩ := List.mem_map.mp member
  obtain ⟨_, search⟩ := unlockVaultKeyEnvelopeWithAadRouting_eq
    (addressedTo_inSchemaOrder.mp addressed) permitted
  rw [search]
  apply Outcome.firstSuccess_of_success
  exact ⟨stored, storedMember, vaultKey, unwrap_inSchemaOrder opened⟩

/-- The ciphertext was sealed under the record's own values, written in one of
the two fixed orders. -/
def SealedInFixedOrder (platform : Platform) (profile : VaultCryptoProfile)
    (payload : EncryptedVaultPayload) (key : CryptoKey) : Prop :=
  ∃ aadBytes, AuthenticatedAs platform payload key aadBytes ∧
    InFixedOrder profile payload.aad aadBytes

/-- An envelope sealed in a fixed order opens to the same key after a schema
wrote its keys anew. -/
theorem routing_inSchemaOrder_opens
    (algorithm : keys.encryptionKey.algorithm = .aesGcm)
    (ordered : SealedInFixedOrder platform profile payload keys.encryptionKey)
    (unlocked : unlockVaultKeyEnvelopeWithAadRouting payload expectedScope
      profile (fun candidate => unwrapUserVaultKeyWithDerivedKeys platform
        candidate keys) = .ok vaultKey) :
    unlockVaultKeyEnvelopeWithAadRouting payload.inSchemaOrder expectedScope
      profile (fun candidate => unwrapUserVaultKeyWithDerivedKeys platform
        candidate keys) = .ok vaultKey := by
  obtain ⟨sealedBytes, authentic, fixed⟩ := ordered
  obtain ⟨addressed, permitted, aadBytes, -, holds⟩ :=
    (routing_opens_iff algorithm ⟨sealedBytes, authentic⟩).mp unlocked
  have parsedOnce : OpensOnce platform payload.inSchemaOrder
      keys.encryptionKey := ⟨sealedBytes, authentic⟩
  have sealing : aadBytes = sealedBytes := by
    obtain ⟨iv, ciphertext, plaintext, inner, ivDecoded, decoded, opened, -⟩ :=
      holds
    exact authentic iv ciphertext _ _ ivDecoded decoded opened
  rw [sealing] at holds
  apply (routing_opens_iff algorithm parsedOnce).mpr
  exact ⟨addressedTo_inSchemaOrder.mpr addressed, permitted, sealedBytes,
    (routedAad_inSchemaOrder permitted).mpr fixed, holds⟩

end

end VaultCore
