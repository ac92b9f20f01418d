import VaultCore.Validation.AadAssert
import VaultCore.Crypto.VaultKeyEnvelope

/-!
# Unlocking with older contexts

Envelopes of older releases were sealed without a context, with a null context
or with a context of another name.  While legacy unlocking is enabled such an
envelope is tried under the canonical context, without a context and under its
own stored context when that is null or listed by the profile.
-/

namespace VaultCore

/-- The context of the profile. -/
def AadContext.isCanonical (context : AadContext)
    (profile : VaultCryptoProfile) : Bool :=
  context == .text profile.aadContextEnvelope

/-- Old envelopes are opened unless the profile says no. -/
def VaultCryptoProfile.legacyEnabled (profile : VaultCryptoProfile) : Bool :=
  profile.legacyVaultKeyUnlock != some false

/-- `profile.legacyVaultKeyAadContexts?.includes(context)` -/
def VaultCryptoProfile.listsContext (profile : VaultCryptoProfile)
    (context : JsString) : Bool :=
  match profile.legacyVaultKeyAadContexts with
  | some contexts => contexts.contains context
  | none => false

/-- The contexts that an envelope may be stored with. -/
def isVaultKeyAadContextAllowed (context : AadContext)
    (profile : VaultCryptoProfile) : Bool :=
  if context.isCanonical profile then true
  else if !profile.legacyEnabled then false
  else
    match context with
    | .missing => true
    | .null => true
    | .text name => profile.listsContext name

/-- An envelope of the vault key that is stored with an old context. -/
def isLegacyVaultKeyEnvelope (payload : EncryptedVaultPayload)
    (profile : VaultCryptoProfile) : Bool :=
  if payload.aad.field ≠ .vaultKey then false
  else !payload.aad.context.isCanonical profile

/-- The contexts an envelope is tried under, in this order. -/
def legacyContexts (storedContext : AadContext)
    (profile : VaultCryptoProfile) : List AadContext :=
  let stored :=
    match storedContext with
    | .missing => []
    | .null => [AadContext.null]
    | .text name => if profile.listsContext name then [.text name] else []
  ([.text profile.aadContextEnvelope, .missing] ++ stored).eraseDups

/-- The payload with another context, written after its other keys. -/
def EncryptedVaultPayload.withContext (payload : EncryptedVaultPayload)
    (context : AadContext) : EncryptedVaultPayload :=
  { payload with
    aad := { payload.aad with
      context := context
      order := payload.aad.order.contextLast } }

/-- The payload with the contexts it may have been sealed with. -/
def legacyVaultKeyPayloadCandidates (payload : EncryptedVaultPayload)
    (profile : VaultCryptoProfile) : List EncryptedVaultPayload :=
  (legacyContexts payload.aad.context profile).map payload.withContext

/-- The record is that of the expected vault key. -/
def assertVaultKeyScope (expectedScope : VaultScope)
    (payload : EncryptedVaultPayload) : Except VaultError Unit :=
  if payload.aad.userId ≠ expectedScope.userId then
    .error (.error "Vault key AAD userId mismatch")
  else if payload.aad.resourceId ≠ expectedScope.resourceId then
    .error (.error "Vault key AAD resourceId mismatch")
  else if payload.aad.field ≠ .vaultKey then
    .error (.error "Vault key AAD field mismatch")
  else .ok ()

/-- A missing or null context becomes the canonical one.  The spread keeps the
place of a stored null context and puts a missing one last. -/
def normalizeEnvelopeAadContext (payload : EncryptedVaultPayload)
    (profile : VaultCryptoProfile) : EncryptedVaultPayload :=
  if payload.aad.field ≠ .vaultKey then payload
  else
    match payload.aad.context with
    | .text _ => payload
    | .null =>
        { payload with
          aad := { payload.aad with
            context := .text profile.aadContextEnvelope } }
    | .missing => payload.withContext (.text profile.aadContextEnvelope)

/-- Tries the candidates of an old envelope until one opens. -/
def unwrapVaultKeyWithLegacyAadFallback (payload : EncryptedVaultPayload)
    (decryptFn : EncryptedVaultPayload → Except VaultError CryptoKey)
    (expectedScope : VaultScope) (profile : VaultCryptoProfile) :
    Except VaultError CryptoKey := do
  assertVaultKeyScope expectedScope payload
  if !isVaultKeyAadContextAllowed payload.aad.context profile then
    throw (.error "Vault key AAD context mismatch")
  Outcome.firstSuccess
    (fun candidate => do
      assertVaultKeyScope expectedScope candidate
      decryptFn candidate)
    (legacyVaultKeyPayloadCandidates payload profile)
    (.error "Legacy vault key unwrap failed")

/-- A canonical envelope is opened as it is, an allowed old one by its
candidates. -/
def unlockVaultKeyEnvelopeWithAadRouting (payload : EncryptedVaultPayload)
    (expectedScope : VaultScope) (profile : VaultCryptoProfile)
    (decryptFn : EncryptedVaultPayload → Except VaultError CryptoKey) :
    Except VaultError CryptoKey :=
  if !profile.legacyEnabled && isLegacyVaultKeyEnvelope payload profile then
    .error (.error "Vault key AAD context mismatch")
  else if profile.legacyEnabled && isLegacyVaultKeyEnvelope payload profile then
    if !isVaultKeyAadContextAllowed payload.aad.context profile then
      .error (.error "Vault key AAD context mismatch")
    else
      unwrapVaultKeyWithLegacyAadFallback payload decryptFn expectedScope
        profile
  else do
    let normalized := normalizeEnvelopeAadContext payload profile
    assertVaultKeyAad expectedScope normalized profile
    decryptFn normalized

section

variable {payload : EncryptedVaultPayload} {expectedScope : VaultScope}
  {profile : VaultCryptoProfile}
  {decryptFn : EncryptedVaultPayload → Except VaultError CryptoKey}
  {key : CryptoKey}

theorem assertVaultKeyScope_ok_iff :
    assertVaultKeyScope expectedScope payload = .ok () ↔
      payload.aad.userId = expectedScope.userId ∧
        payload.aad.resourceId = expectedScope.resourceId ∧
          payload.aad.field = .vaultKey := by
  unfold assertVaultKeyScope
  constructor
  · intro accepted
    split_ifs at accepted with user resource field
    exact ⟨not_not.mp user, not_not.mp resource, not_not.mp field⟩
  · rintro ⟨user, resource, field⟩
    simp [user, resource, field]

theorem isLegacyVaultKeyEnvelope_false_iff
    (field : payload.aad.field = .vaultKey) :
    isLegacyVaultKeyEnvelope payload profile = false ↔
      payload.aad.context = .text profile.aadContextEnvelope := by
  simp [isLegacyVaultKeyEnvelope, field, AadContext.isCanonical]

theorem mem_legacyContexts_iff {storedContext context : AadContext} :
    context ∈ legacyContexts storedContext profile ↔
      context = .text profile.aadContextEnvelope ∨ context = .missing ∨
        (context = .null ∧ storedContext = .null) ∨
          ∃ name, context = .text name ∧ storedContext = .text name ∧
            profile.listsContext name = true := by
  unfold legacyContexts
  rw [List.mem_eraseDups]
  simp only [List.mem_append, List.mem_cons, List.not_mem_nil, or_false,
    or_assoc]
  cases storedContext with
  | missing => simp
  | null => simp
  | text name =>
      by_cases listed : profile.listsContext name = true
      · simp [listed]
      · simp [listed]

/-- The contexts under which routing may open an envelope with an allowed
stored context: its own, and for a legacy one also the canonical context and
no context at all. -/
def RoutableContext (profile : VaultCryptoProfile)
    (storedContext context : AadContext) : Prop :=
  isVaultKeyAadContextAllowed storedContext profile = true ∧
    (context = storedContext ∨
      profile.legacyEnabled = true ∧
        storedContext ≠ .text profile.aadContextEnvelope ∧
        (context = .text profile.aadContextEnvelope ∨ context = .missing))

/-- The candidate is the stored record except for its context and the order of
its keys. -/
structure Readdressed (payload candidate : EncryptedVaultPayload) : Prop where
  iv : candidate.iv = payload.iv
  ciphertext : candidate.ciphertext = payload.ciphertext
  userId : candidate.aad.userId = payload.aad.userId
  resourceId : candidate.aad.resourceId = payload.aad.resourceId
  field : candidate.aad.field = payload.aad.field

theorem readdressed_withContext (context : AadContext) :
    Readdressed payload (payload.withContext context) :=
  { iv := rfl, ciphertext := rfl, userId := rfl, resourceId := rfl
    field := rfl }

theorem readdressed_normalized :
    Readdressed payload (normalizeEnvelopeAadContext payload profile) := by
  unfold normalizeEnvelopeAadContext
  split
  · exact ⟨rfl, rfl, rfl, rfl, rfl⟩
  · split
    · exact ⟨rfl, rfl, rfl, rfl, rfl⟩
    · exact ⟨rfl, rfl, rfl, rfl, rfl⟩
    · exact readdressed_withContext _

/-- Routing opens an envelope only of the expected account, vault and field,
and hands the opener this envelope's ciphertext under a routable context. -/
theorem unlockVaultKeyEnvelopeWithAadRouting_sound
    (unlocked : unlockVaultKeyEnvelopeWithAadRouting payload expectedScope
      profile decryptFn = .ok key) :
    ∃ candidate,
      decryptFn candidate = .ok key ∧ Readdressed payload candidate ∧
      payload.aad.userId = expectedScope.userId ∧
      payload.aad.resourceId = expectedScope.resourceId ∧
      payload.aad.field = .vaultKey ∧
      RoutableContext profile payload.aad.context candidate.aad.context := by
  unfold unlockVaultKeyEnvelopeWithAadRouting at unlocked
  split_ifs at unlocked with refused legacy forbidden
  · unfold unwrapVaultKeyWithLegacyAadFallback at unlocked
    obtain ⟨_, inScope, rest⟩ := Outcome.bind_eq_ok_iff.mp unlocked
    obtain ⟨user, resource, field⟩ := assertVaultKeyScope_ok_iff.mp inScope
    rw [if_neg forbidden] at rest
    obtain ⟨candidate, member, tried⟩ := Outcome.firstSuccess_sound rest
    obtain ⟨_, -, opened⟩ := Outcome.bind_eq_ok_iff.mp tried
    obtain ⟨context, listed, rfl⟩ := List.mem_map.mp member
    rw [Bool.and_eq_true] at legacy
    have stored : payload.aad.context ≠ .text profile.aadContextEnvelope := by
      intro canonical
      rw [(isLegacyVaultKeyEnvelope_false_iff field).mpr canonical] at legacy
      cases legacy.2
    have allowed : isVaultKeyAadContextAllowed payload.aad.context profile =
        true := by simpa using forbidden
    refine ⟨payload.withContext context, opened, readdressed_withContext _,
      user, resource, field, allowed, ?_⟩
    rcases mem_legacyContexts_iff.mp listed with
      canonical | missing | ⟨null, storedNull⟩ | ⟨name, text, storedText, -⟩
    · exact .inr ⟨legacy.1, stored, .inl canonical⟩
    · exact .inr ⟨legacy.1, stored, .inr missing⟩
    · exact .inl (null.trans storedNull.symm)
    · exact .inl (text.trans storedText.symm)
  · obtain ⟨_, asserted, opened⟩ := Outcome.bind_eq_ok_iff.mp unlocked
    have scope := assertAad_ok_iff.mp asserted
    simp only [VaultAad.scope, Prod.mk.injEq] at scope
    obtain ⟨user, resource, field, context⟩ := scope
    have same := @readdressed_normalized payload profile
    rw [same.userId] at user
    rw [same.resourceId] at resource
    rw [same.field] at field
    have current : isLegacyVaultKeyEnvelope payload profile = false := by
      cases enabled : profile.legacyEnabled <;> simp_all
    have stored := (isLegacyVaultKeyEnvelope_false_iff field).mp current
    refine ⟨_, opened, same, user, resource, field, ?_,
      .inl (context.trans stored.symm)⟩
    simp [isVaultKeyAadContextAllowed, AadContext.isCanonical, stored]

/-- An envelope written by the current release is opened as it is stored. -/
theorem unlockVaultKeyEnvelopeWithAadRouting_canonical
    (scope : payload.aad.scope =
      (expectedScope.userId, expectedScope.resourceId, .vaultKey,
        .text profile.aadContextEnvelope)) :
    unlockVaultKeyEnvelopeWithAadRouting payload expectedScope profile
      decryptFn = decryptFn payload := by
  have parts := scope
  simp only [VaultAad.scope, Prod.mk.injEq] at parts
  obtain ⟨-, -, field, context⟩ := parts
  have current := (isLegacyVaultKeyEnvelope_false_iff field).mpr context
  have normalized : normalizeEnvelopeAadContext payload profile = payload := by
    simp [normalizeEnvelopeAadContext, field, context]
  have asserted : assertVaultKeyAad expectedScope payload profile = .ok () :=
    assertAad_ok_iff.mpr scope
  simp only [unlockVaultKeyEnvelopeWithAadRouting, current, Bool.and_false,
    Bool.false_eq_true, if_false, normalized, asserted, Outcome.ok_bind]

private theorem legacyContexts_head (storedContext : AadContext) :
    ∃ rest, legacyContexts storedContext profile =
      .text profile.aadContextEnvelope :: rest := by
  simp only [legacyContexts, List.cons_append, List.eraseDups_cons]
  exact ⟨_, rfl⟩

/-- An envelope whose context was lost or renamed is opened when the canonical
context opens it. -/
theorem unlockVaultKeyEnvelopeWithAadRouting_legacy
    (enabled : profile.legacyEnabled = true)
    (user : payload.aad.userId = expectedScope.userId)
    (resource : payload.aad.resourceId = expectedScope.resourceId)
    (field : payload.aad.field = .vaultKey)
    (renamed : payload.aad.context ≠ .text profile.aadContextEnvelope)
    (allowed : isVaultKeyAadContextAllowed payload.aad.context profile = true)
    (opened : decryptFn
      (payload.withContext (.text profile.aadContextEnvelope)) = .ok key) :
    unlockVaultKeyEnvelopeWithAadRouting payload expectedScope profile
      decryptFn = .ok key := by
  have legacy : isLegacyVaultKeyEnvelope payload profile = true := by
    apply eq_true_of_ne_false
    intro current
    exact renamed ((isLegacyVaultKeyEnvelope_false_iff field).mp current)
  have inScope : assertVaultKeyScope expectedScope payload = .ok () :=
    assertVaultKeyScope_ok_iff.mpr ⟨user, resource, field⟩
  have candidateInScope : assertVaultKeyScope expectedScope
      (payload.withContext (.text profile.aadContextEnvelope)) = .ok () :=
    assertVaultKeyScope_ok_iff.mpr ⟨user, resource, field⟩
  obtain ⟨rest, head⟩ := @legacyContexts_head profile payload.aad.context
  have first : (do
      assertVaultKeyScope expectedScope
        (payload.withContext (.text profile.aadContextEnvelope))
      decryptFn (payload.withContext (.text profile.aadContextEnvelope))) =
        .ok key := by
    rw [candidateInScope, Outcome.ok_bind, opened]
  simp only [unlockVaultKeyEnvelopeWithAadRouting, enabled, legacy, allowed,
    unwrapVaultKeyWithLegacyAadFallback, inScope, Outcome.ok_bind,
    legacyVaultKeyPayloadCandidates, head, List.map_cons, Bool.not_true,
    Bool.and_true, Bool.false_eq_true, if_false, if_true]
  exact Outcome.firstSuccess_head first

end

end VaultCore
