import VaultCore.Data.Recorded
import VaultCore.Envelopes.LegacyVaultKeyUnlock

/-!
# What routing asks of the decryption function

The routing of `LegacyVaultKeyUnlock` for a decryption function that keeps a
state of its own, so that two calls with one candidate may be answered
differently.  Recording its calls shows which candidates routing tries, in
which order, and when it tries none.
-/

namespace VaultCore

namespace Stateful

variable {σ : Type}

/-- Tries the candidates of an old envelope with a callback that has a state. -/
def unwrapVaultKeyWithLegacyAadFallback (payload : EncryptedVaultPayload)
    (decryptFn : EncryptedVaultPayload → Stateful σ VaultError CryptoKey)
    (expectedScope : VaultScope) (profile : VaultCryptoProfile) :
    Stateful σ VaultError CryptoKey := do
  liftExcept (assertVaultKeyScope expectedScope payload)
  if !isVaultKeyAadContextAllowed payload.aad.context profile then
    throw (.error "Vault key AAD context mismatch")
  firstSuccess
    (fun candidate => do
      liftExcept (assertVaultKeyScope expectedScope candidate)
      decryptFn candidate)
    (legacyVaultKeyPayloadCandidates payload profile)
    (.error "Legacy vault key unwrap failed")

/-- The routing with a callback that has a state. -/
def unlockVaultKeyEnvelopeWithAadRouting (payload : EncryptedVaultPayload)
    (expectedScope : VaultScope) (profile : VaultCryptoProfile)
    (decryptFn : EncryptedVaultPayload → Stateful σ VaultError CryptoKey) :
    Stateful σ VaultError CryptoKey :=
  if !profile.legacyEnabled && isLegacyVaultKeyEnvelope payload profile then
    throw (.error "Vault key AAD context mismatch")
  else if profile.legacyEnabled && isLegacyVaultKeyEnvelope payload profile then
    if !isVaultKeyAadContextAllowed payload.aad.context profile then
      throw (.error "Vault key AAD context mismatch")
    else
      unwrapVaultKeyWithLegacyAadFallback payload decryptFn expectedScope
        profile
  else do
    let normalized := normalizeEnvelopeAadContext payload profile
    liftExcept (assertVaultKeyAad expectedScope normalized profile)
    decryptFn normalized

end Stateful

/-- The stored contexts that routing accepts. -/
inductive PermittedContext (profile : VaultCryptoProfile) :
    AadContext → Prop where
  | canonical : PermittedContext profile (.text profile.aadContextEnvelope)
  | missing : profile.legacyVaultKeyUnlock ≠ some false →
      PermittedContext profile .missing
  | null : profile.legacyVaultKeyUnlock ≠ some false →
      PermittedContext profile .null
  | listed {contexts : List JsString} {name : JsString} :
      profile.legacyVaultKeyUnlock ≠ some false →
      profile.legacyVaultKeyAadContexts = some contexts → name ∈ contexts →
      PermittedContext profile (.text name)

/-- The record names the expected account and vault as a vault key. -/
structure AddressedTo (expectedScope : VaultScope)
    (payload : EncryptedVaultPayload) : Prop where
  userId : payload.aad.userId = expectedScope.userId
  resourceId : payload.aad.resourceId = expectedScope.resourceId
  field : payload.aad.field = .vaultKey

/-- The contexts routing tries for a permitted stored context, in order. -/
def routedContexts (profile : VaultCryptoProfile) (stored : AadContext) :
    List AadContext :=
  if stored = .text profile.aadContextEnvelope then [stored]
  else if stored = .missing then
    [.text profile.aadContextEnvelope, .missing]
  else [.text profile.aadContextEnvelope, .missing, stored]

/-- The payloads routing hands over for a permitted stored context. -/
def routedCandidates (payload : EncryptedVaultPayload)
    (profile : VaultCryptoProfile) : List EncryptedVaultPayload :=
  if payload.aad.context = .text profile.aadContextEnvelope then [payload]
  else legacyVaultKeyPayloadCandidates payload profile

section

variable {payload : EncryptedVaultPayload} {expectedScope : VaultScope}
  {profile : VaultCryptoProfile}

theorem VaultCryptoProfile.legacyEnabled_iff :
    profile.legacyEnabled = true ↔
      profile.legacyVaultKeyUnlock ≠ some false := by
  simp [VaultCryptoProfile.legacyEnabled]

theorem VaultCryptoProfile.listsContext_iff {name : JsString} :
    profile.listsContext name = true ↔
      ∃ contexts, profile.legacyVaultKeyAadContexts = some contexts ∧
        name ∈ contexts := by
  unfold VaultCryptoProfile.listsContext
  cases profile.legacyVaultKeyAadContexts with
  | none => simp
  | some contexts => simp

theorem isVaultKeyAadContextAllowed_iff {context : AadContext} :
    isVaultKeyAadContextAllowed context profile = true ↔
      PermittedContext profile context := by
  by_cases canonical : context = .text profile.aadContextEnvelope
  · constructor
    · intro _
      rw [canonical]
      exact .canonical
    · intro _
      simp [isVaultKeyAadContextAllowed, AadContext.isCanonical, canonical]
  · have other : context.isCanonical profile = false := by
      simp [AadContext.isCanonical, canonical]
    constructor
    · intro allowed
      simp only [isVaultKeyAadContextAllowed, other, Bool.false_eq_true,
        if_false] at allowed
      split at allowed
      · cases allowed
      · rename_i enabled
        have legacy : profile.legacyVaultKeyUnlock ≠ some false :=
          VaultCryptoProfile.legacyEnabled_iff.mp (by simpa using enabled)
        cases context with
        | missing => exact .missing legacy
        | null => exact .null legacy
        | text name =>
            obtain ⟨contexts, configured, member⟩ :=
              VaultCryptoProfile.listsContext_iff.mp allowed
            exact .listed legacy configured member
    · intro permitted
      simp only [isVaultKeyAadContextAllowed, other, Bool.false_eq_true,
        if_false]
      cases permitted with
      | canonical => exact absurd rfl canonical
      | missing legacy =>
          simp [VaultCryptoProfile.legacyEnabled_iff.mpr legacy]
      | null legacy =>
          simp [VaultCryptoProfile.legacyEnabled_iff.mpr legacy]
      | listed legacy configured member =>
          have listed := VaultCryptoProfile.listsContext_iff.mpr
            ⟨_, configured, member⟩
          simp [VaultCryptoProfile.legacyEnabled_iff.mpr legacy, listed]

theorem PermittedContext.legacy {context : AadContext}
    (permitted : PermittedContext profile context)
    (renamed : context ≠ .text profile.aadContextEnvelope) :
    profile.legacyEnabled = true := by
  apply VaultCryptoProfile.legacyEnabled_iff.mpr
  cases permitted with
  | canonical => exact absurd rfl renamed
  | missing legacy => exact legacy
  | null legacy => exact legacy
  | listed legacy _ _ => exact legacy

theorem legacyContexts_eq {stored : AadContext}
    (permitted : PermittedContext profile stored)
    (renamed : stored ≠ .text profile.aadContextEnvelope) :
    legacyContexts stored profile = routedContexts profile stored := by
  rw [routedContexts, if_neg renamed]
  cases permitted with
  | canonical => exact absurd rfl renamed
  | missing _ => simp [legacyContexts, List.eraseDups_cons]
  | null _ => simp [legacyContexts, List.eraseDups_cons]
  | listed _ configured member =>
      have listed := VaultCryptoProfile.listsContext_iff.mpr
        ⟨_, configured, member⟩
      simp [legacyContexts, List.eraseDups_cons, listed, renamed]

theorem mem_routedContexts {stored context : AadContext}
    (member : context ∈ routedContexts profile stored) :
    context = .text profile.aadContextEnvelope ∨ context = .missing ∨
      context = stored := by
  unfold routedContexts at member
  split at member
  · rename_i canonical
    simp only [List.mem_singleton] at member
    exact .inr (.inr member)
  · split at member
    · simp only [List.mem_cons, List.not_mem_nil, or_false] at member
      exact member.imp_right .inl
    · simpa only [List.mem_cons, List.not_mem_nil, or_false] using member

theorem AddressedTo.inScope (addressed : AddressedTo expectedScope payload) :
    assertVaultKeyScope expectedScope payload = .ok () :=
  assertVaultKeyScope_ok_iff.mpr
    ⟨addressed.userId, addressed.resourceId, addressed.field⟩

theorem AddressedTo.readdressed {candidate : EncryptedVaultPayload}
    (addressed : AddressedTo expectedScope payload)
    (same : Readdressed payload candidate) :
    AddressedTo expectedScope candidate :=
  { userId := same.userId.trans addressed.userId
    resourceId := same.resourceId.trans addressed.resourceId
    field := same.field.trans addressed.field }

theorem routedCandidates_contexts
    (permitted : PermittedContext profile payload.aad.context) :
    (routedCandidates payload profile).map
        (fun candidate => candidate.aad.context) =
      routedContexts profile payload.aad.context := by
  by_cases canonical : payload.aad.context = .text profile.aadContextEnvelope
  · rw [routedCandidates, routedContexts, if_pos canonical, if_pos canonical]
    rfl
  · rw [← legacyContexts_eq permitted canonical, routedCandidates,
      if_neg canonical, legacyVaultKeyPayloadCandidates, List.map_map]
    exact List.map_id _

theorem readdressed_candidate {candidate : EncryptedVaultPayload}
    (member : candidate ∈ legacyVaultKeyPayloadCandidates payload profile) :
    Readdressed payload candidate := by
  obtain ⟨context, -, rfl⟩ := List.mem_map.mp member
  exact readdressed_withContext context

theorem readdressed_of_routed {candidate : EncryptedVaultPayload}
    (member : candidate ∈ routedCandidates payload profile) :
    Readdressed payload candidate := by
  unfold routedCandidates at member
  split at member
  · rw [List.mem_singleton.mp member]
    exact ⟨rfl, rfl, rfl, rfl, rfl⟩
  · exact readdressed_candidate member

namespace Stateful

variable {σ : Type}
  {decryptFn : EncryptedVaultPayload → Stateful σ VaultError CryptoKey}

/-- An envelope stored with the canonical context is handed over as it is. -/
private theorem search_canonical
    (addressed : AddressedTo expectedScope payload)
    (canonical : payload.aad.context = .text profile.aadContextEnvelope)
    (lastError : VaultError) :
    unlockVaultKeyEnvelopeWithAadRouting payload expectedScope profile
      decryptFn = firstSuccess decryptFn [payload] lastError := by
  have current :=
    (isLegacyVaultKeyEnvelope_false_iff addressed.field).mpr canonical
  have normalized : normalizeEnvelopeAadContext payload profile = payload := by
    simp [normalizeEnvelopeAadContext, addressed.field, canonical]
  have asserted : assertVaultKeyAad expectedScope payload profile =
      .ok () := by
    apply assertAad_ok_iff.mpr
    simp only [VaultAad.scope, addressed.userId, addressed.resourceId,
      addressed.field, canonical]
  funext state
  simp only [unlockVaultKeyEnvelopeWithAadRouting, current, Bool.and_false,
    Bool.false_eq_true, if_false, normalized, asserted, liftExcept_ok_bind,
    firstSuccess, tryCatch_apply]
  generalize decryptFn payload state = outcome
  obtain ⟨answer, next⟩ := outcome
  cases answer with
  | ok key => rfl
  | error error => rfl

private theorem search_legacy
    (addressed : AddressedTo expectedScope payload)
    (permitted : PermittedContext profile payload.aad.context)
    (renamed : payload.aad.context ≠ .text profile.aadContextEnvelope) :
    unlockVaultKeyEnvelopeWithAadRouting payload expectedScope profile
      decryptFn =
        firstSuccess decryptFn (legacyVaultKeyPayloadCandidates payload profile)
          (.error "Legacy vault key unwrap failed") := by
  have enabled := permitted.legacy renamed
  have allowed := isVaultKeyAadContextAllowed_iff.mpr permitted
  have legacy : isLegacyVaultKeyEnvelope payload profile = true := by
    apply eq_true_of_ne_false
    intro current
    exact renamed
      ((isLegacyVaultKeyEnvelope_false_iff addressed.field).mp current)
  simp only [unlockVaultKeyEnvelopeWithAadRouting, enabled, legacy,
    allowed, unwrapVaultKeyWithLegacyAadFallback, addressed.inScope,
    liftExcept_ok_bind, Bool.not_true, Bool.and_true, Bool.false_eq_true,
    if_false, if_true]
  apply firstSuccess_congr
  intro candidate member
  rw [(addressed.readdressed (readdressed_candidate member)).inScope,
    liftExcept_ok_bind]

theorem unlockVaultKeyEnvelopeWithAadRouting_search
    (addressed : AddressedTo expectedScope payload)
    (permitted : PermittedContext profile payload.aad.context) :
    ∃ lastError,
      unlockVaultKeyEnvelopeWithAadRouting payload expectedScope profile
        decryptFn =
          firstSuccess decryptFn (routedCandidates payload profile)
            lastError := by
  unfold routedCandidates
  split
  · rename_i canonical
    exact ⟨.error "", search_canonical addressed canonical _⟩
  · rename_i renamed
    exact ⟨_, search_legacy addressed permitted renamed⟩

/-- What is not accepted is rejected without a decryption. -/
theorem unlockVaultKeyEnvelopeWithAadRouting_refused
    (refused : ¬ (AddressedTo expectedScope payload ∧
      PermittedContext profile payload.aad.context)) :
    ∃ error,
      unlockVaultKeyEnvelopeWithAadRouting payload expectedScope profile
        decryptFn = liftExcept (.error error) := by
  unfold unlockVaultKeyEnvelopeWithAadRouting
  split_ifs with disabled legacy forbidden
  · exact ⟨_, rfl⟩
  · exact ⟨_, rfl⟩
  · have permitted : PermittedContext profile payload.aad.context :=
      isVaultKeyAadContextAllowed_iff.mp (by simpa using forbidden)
    cases scope : assertVaultKeyScope expectedScope payload with
    | ok _ =>
        obtain ⟨user, resource, field⟩ := assertVaultKeyScope_ok_iff.mp scope
        exact absurd ⟨⟨user, resource, field⟩, permitted⟩ refused
    | error error =>
        refine ⟨error, ?_⟩
        rw [unwrapVaultKeyWithLegacyAadFallback, scope, liftExcept_error_bind]
  · cases asserted : assertVaultKeyAad expectedScope
      (normalizeEnvelopeAadContext payload profile) profile with
    | ok _ =>
        have scope := assertAad_ok_iff.mp asserted
        simp only [VaultAad.scope, Prod.mk.injEq] at scope
        obtain ⟨user, resource, field, -⟩ := scope
        have same := @readdressed_normalized payload profile
        rw [same.userId] at user
        rw [same.resourceId] at resource
        rw [same.field] at field
        have current : isLegacyVaultKeyEnvelope payload profile = false := by
          cases enabled : profile.legacyEnabled <;> simp_all
        have stored := (isLegacyVaultKeyEnvelope_false_iff field).mp current
        have permitted : PermittedContext profile payload.aad.context := by
          rw [stored]
          exact .canonical
        exact absurd ⟨⟨user, resource, field⟩, permitted⟩ refused
    | error error =>
        refine ⟨error, ?_⟩
        simp only [asserted, liftExcept_error_bind]

/-- Without a state of its own the decryption function is routed as before. -/
theorem unlockVaultKeyEnvelopeWithAadRouting_stateless
    (decrypt : EncryptedVaultPayload → Except VaultError CryptoKey) :
    unlockVaultKeyEnvelopeWithAadRouting payload expectedScope profile
        (fun candidate => liftExcept (decrypt candidate)) =
      (liftExcept (VaultCore.unlockVaultKeyEnvelopeWithAadRouting payload
        expectedScope profile decrypt) : Stateful σ VaultError CryptoKey) := by
  unfold unlockVaultKeyEnvelopeWithAadRouting
    VaultCore.unlockVaultKeyEnvelopeWithAadRouting
  split_ifs with disabled legacy forbidden
  · rfl
  · rfl
  · unfold unwrapVaultKeyWithLegacyAadFallback
      VaultCore.unwrapVaultKeyWithLegacyAadFallback
    cases assertVaultKeyScope expectedScope payload with
    | ok _ =>
        simp only [liftExcept_ok_bind, Outcome.ok_bind, if_neg forbidden,
          liftExcept_bind]
        exact firstSuccess_liftExcept _ _ _
    | error error => rfl
  · exact liftExcept_bind _ _

/-- When the answers of the decryption function do not depend on its state,
neither does the one of routing. -/
theorem unlockVaultKeyEnvelopeWithAadRouting_answer
    {decrypt : EncryptedVaultPayload → Except VaultError CryptoKey}
    (same : ∀ candidate state,
      (decryptFn candidate state).1 = decrypt candidate) (state : σ) :
    (unlockVaultKeyEnvelopeWithAadRouting payload expectedScope profile
        decryptFn state).1 =
      VaultCore.unlockVaultKeyEnvelopeWithAadRouting payload expectedScope
        profile decrypt := by
  unfold unlockVaultKeyEnvelopeWithAadRouting
    VaultCore.unlockVaultKeyEnvelopeWithAadRouting
  split_ifs with disabled legacy forbidden
  · rfl
  · rfl
  · unfold unwrapVaultKeyWithLegacyAadFallback
      VaultCore.unwrapVaultKeyWithLegacyAadFallback
    cases assertVaultKeyScope expectedScope payload with
    | error error => rfl
    | ok _ =>
        simp only [liftExcept_ok_bind, Outcome.ok_bind, if_neg forbidden]
        apply firstSuccess_answer
        intro candidate state
        cases assertVaultKeyScope expectedScope candidate with
        | ok _ => exact same candidate state
        | error error => rfl
  · dsimp only
    cases assertVaultKeyAad expectedScope
      (normalizeEnvelopeAadContext payload profile) profile with
    | ok _ => exact same _ state
    | error error => rfl

/-- What the decryption function keeps routing keeps, and a routed key leaves
what its decryption left. -/
theorem unlockVaultKeyEnvelopeWithAadRouting_invariant
    {invariant : σ → Prop} {left : CryptoKey → σ → Prop}
    (step : ∀ candidate state, invariant state →
      invariant (decryptFn candidate state).2 ∧
        ∀ key, (decryptFn candidate state).1 = .ok key →
          left key (decryptFn candidate state).2)
    {state : σ} (holds : invariant state) :
    invariant (unlockVaultKeyEnvelopeWithAadRouting payload expectedScope
        profile decryptFn state).2 ∧
      ∀ key,
        (unlockVaultKeyEnvelopeWithAadRouting payload expectedScope profile
          decryptFn state).1 = .ok key →
        left key (unlockVaultKeyEnvelopeWithAadRouting payload expectedScope
          profile decryptFn state).2 := by
  by_cases accepted : AddressedTo expectedScope payload ∧
      PermittedContext profile payload.aad.context
  · obtain ⟨lastError, search⟩ := @unlockVaultKeyEnvelopeWithAadRouting_search
      payload expectedScope profile σ decryptFn accepted.1 accepted.2
    rw [search]
    exact firstSuccess_invariant step _ _ holds
  · obtain ⟨error, failed⟩ := @unlockVaultKeyEnvelopeWithAadRouting_refused
      payload expectedScope profile σ decryptFn accepted
    rw [failed]
    refine ⟨holds, ?_⟩
    intro key impossible
    cases impossible

end Stateful

end

/-- What a routed unlock returned and the calls it made. -/
structure RoutingTrace where
  result : Except VaultError CryptoKey
  calls : List (RecordedCall EncryptedVaultPayload VaultError CryptoKey)

/-- The contexts that the callback was given. -/
def RoutingTrace.contexts (trace : RoutingTrace) : List AadContext :=
  trace.calls.map fun call => call.argument.aad.context

/-- The routing with a record of its calls. -/
def tracedRouting {σ : Type} (payload : EncryptedVaultPayload)
    (expectedScope : VaultScope) (profile : VaultCryptoProfile)
    (decryptFn : EncryptedVaultPayload → Stateful σ VaultError CryptoKey)
    (state : σ) : RoutingTrace :=
  let outcome := Stateful.unlockVaultKeyEnvelopeWithAadRouting payload
    expectedScope profile (Stateful.recorded decryptFn) (state, [])
  { result := outcome.1, calls := outcome.2.2 }

/-- Routing is exact: what it accepts, what it asks and what it returns. -/
structure ExactRouting (payload : EncryptedVaultPayload)
    (expectedScope : VaultScope) (profile : VaultCryptoProfile)
    (trace : RoutingTrace) : Prop where
  resolves_iff : (∃ key, trace.result = .ok key) ↔
    AddressedTo expectedScope payload ∧
      PermittedContext profile payload.aad.context ∧
        ∃ call ∈ trace.calls, ∃ key, call.answer = .ok key
  returns_first : ∀ key, trace.result = .ok key →
    ∃ earlier last, trace.calls = earlier ++ [last] ∧
      last.answer = .ok key ∧
        ∀ call ∈ earlier, ∃ error, call.answer = .error error
  ordered : trace.contexts <+: routedContexts profile payload.aad.context
  /-- An accepted envelope is given up only after every candidate. -/
  exhaustive : AddressedTo expectedScope payload →
    PermittedContext profile payload.aad.context →
      (∃ key, trace.result = .ok key) ∨
        trace.contexts = routedContexts profile payload.aad.context
  candidates : ∀ call ∈ trace.calls,
    AddressedTo expectedScope call.argument ∧
      call.argument.iv = payload.iv ∧
      call.argument.ciphertext = payload.ciphertext ∧
      (call.argument.aad.context = .text profile.aadContextEnvelope ∨
        call.argument.aad.context = .missing ∨
        call.argument.aad.context = payload.aad.context)
  canonical_only : profile.legacyVaultKeyUnlock = some false →
    ∀ call ∈ trace.calls,
      call.argument.aad.context = .text profile.aadContextEnvelope
  refused_unasked : profile.legacyVaultKeyUnlock = some false →
    payload.aad.context ≠ .text profile.aadContextEnvelope →
      trace.calls = [] ∧ ∃ error, trace.result = .error error

section

variable {σ : Type} {payload : EncryptedVaultPayload}
  {expectedScope : VaultScope} {profile : VaultCryptoProfile}
  {decryptFn : EncryptedVaultPayload → Stateful σ VaultError CryptoKey}
  {state : σ}

theorem tracedRouting_search
    (addressed : AddressedTo expectedScope payload)
    (permitted : PermittedContext profile payload.aad.context) :
    Stateful.Searched (routedCandidates payload profile)
      (tracedRouting payload expectedScope profile decryptFn state).calls
      (tracedRouting payload expectedScope profile decryptFn state).result := by
  obtain ⟨lastError, routed⟩ :=
    @Stateful.unlockVaultKeyEnvelopeWithAadRouting_search payload expectedScope
      profile _ (Stateful.recorded decryptFn) addressed permitted
  obtain ⟨calls, grown, searched⟩ := Stateful.firstSuccess_recorded decryptFn
    (routedCandidates payload profile) lastError (state, [])
  simp only [tracedRouting, routed, grown, List.nil_append]
  exact searched

theorem tracedRouting_refused
    (refused : ¬ (AddressedTo expectedScope payload ∧
      PermittedContext profile payload.aad.context)) :
    (tracedRouting payload expectedScope profile decryptFn state).calls = [] ∧
      ∃ error,
        (tracedRouting payload expectedScope profile decryptFn state).result =
          .error error := by
  obtain ⟨error, routed⟩ :=
    @Stateful.unlockVaultKeyEnvelopeWithAadRouting_refused payload
      expectedScope profile _ (Stateful.recorded decryptFn) refused
  rw [tracedRouting, routed]
  exact ⟨rfl, error, rfl⟩

theorem PermittedContext.canonical_of_disabled {context : AadContext}
    (permitted : PermittedContext profile context)
    (disabled : profile.legacyVaultKeyUnlock = some false) :
    context = .text profile.aadContextEnvelope := by
  cases permitted with
  | canonical => rfl
  | missing legacy => exact absurd disabled legacy
  | null legacy => exact absurd disabled legacy
  | listed legacy _ _ => exact absurd disabled legacy

/-- An envelope that is refused is not asked about at all. -/
private theorem ExactRouting.of_refused {trace : RoutingTrace}
    (refused : ¬ (AddressedTo expectedScope payload ∧
      PermittedContext profile payload.aad.context))
    (unasked : trace.calls = [])
    (failed : ∃ error, trace.result = .error error) :
    ExactRouting payload expectedScope profile trace := by
  obtain ⟨error, rejected⟩ := failed
  have unresolved : ∀ key, trace.result ≠ .ok key := by
    intro key resolved
    rw [rejected] at resolved
    cases resolved
  have uncalled : ∀ call, call ∉ trace.calls := by
    intro call
    rw [unasked]
    exact List.not_mem_nil
  constructor
  case resolves_iff =>
    constructor
    · intro resolved
      obtain ⟨key, resolved⟩ := resolved
      exact absurd resolved (unresolved key)
    · intro accepted
      exact absurd ⟨accepted.1, accepted.2.1⟩ refused
  case returns_first =>
    intro key resolved
    exact absurd resolved (unresolved key)
  case ordered =>
    rw [RoutingTrace.contexts, unasked]
    exact List.nil_prefix
  case exhaustive =>
    intro addressed permitted
    exact absurd ⟨addressed, permitted⟩ refused
  case candidates =>
    intro call member
    exact absurd member (uncalled call)
  case canonical_only =>
    intro _ call member
    exact absurd member (uncalled call)
  case refused_unasked =>
    intro _ _
    exact ⟨unasked, error, rejected⟩

private theorem ExactRouting.of_searched {trace : RoutingTrace}
    (addressed : AddressedTo expectedScope payload)
    (permitted : PermittedContext profile payload.aad.context)
    (searched : Stateful.Searched (routedCandidates payload profile)
      trace.calls trace.result) :
    ExactRouting payload expectedScope profile trace := by
  have contexts := routedCandidates_contexts permitted
  have asked : ∀ call ∈ trace.calls,
      call.argument ∈ routedCandidates payload profile := by
    intro call member
    apply searched.arguments_prefix.subset
    exact List.mem_map_of_mem member
  have routed : ∀ call ∈ trace.calls,
      call.argument.aad.context ∈
        routedContexts profile payload.aad.context := by
    intro call member
    rw [← contexts]
    exact List.mem_map_of_mem (asked call member)
  have returned : ∀ key, trace.result = .ok key →
      ∃ earlier last, trace.calls = earlier ++ [last] ∧
        last.answer = .ok key ∧
          ∀ call ∈ earlier, ∃ error, call.answer = .error error := by
    intro key resolved
    rw [resolved] at searched
    exact searched.last_of_ok
  constructor
  case resolves_iff =>
    constructor
    · intro resolved
      obtain ⟨key, resolved⟩ := resolved
      obtain ⟨earlier, last, split, answered, -⟩ := returned key resolved
      refine ⟨addressed, permitted, last, ?_, key, answered⟩
      rw [split]
      exact List.mem_append_right earlier (List.mem_singleton_self last)
    · intro accepted
      obtain ⟨-, -, call, member, key, answered⟩ := accepted
      exact ⟨key, searched.ok_of_mem member answered⟩
  case returns_first => exact returned
  case ordered =>
    have asking := searched.arguments_prefix.map
      fun candidate : EncryptedVaultPayload => candidate.aad.context
    rw [List.map_map, contexts] at asking
    exact asking
  case exhaustive =>
    intro _ _
    cases ended : trace.result with
    | ok key => exact .inl ⟨key, rfl⟩
    | error error =>
        rw [ended] at searched
        refine .inr ?_
        rw [← contexts, ← searched.arguments_of_error, List.map_map]
        rfl
  case candidates =>
    intro call member
    have same := readdressed_of_routed (asked call member)
    exact ⟨addressed.readdressed same, same.iv, same.ciphertext,
      mem_routedContexts (routed call member)⟩
  case canonical_only =>
    intro disabled call member
    have canonical := permitted.canonical_of_disabled disabled
    have only := routed call member
    rw [routedContexts, if_pos canonical, List.mem_singleton] at only
    exact only.trans canonical
  case refused_unasked =>
    intro disabled renamed
    exact absurd (permitted.canonical_of_disabled disabled) renamed

/-- Routing is exact for every decryption function, whatever state it keeps
between its calls. -/
theorem legacy_aad_routing_exact (payload : EncryptedVaultPayload)
    (expectedScope : VaultScope) (profile : VaultCryptoProfile) {σ : Type}
    (decryptFn : EncryptedVaultPayload → Stateful σ VaultError CryptoKey)
    (state : σ) :
    ExactRouting payload expectedScope profile
      (tracedRouting payload expectedScope profile decryptFn state) := by
  by_cases accepted : AddressedTo expectedScope payload ∧
      PermittedContext profile payload.aad.context
  · obtain ⟨addressed, permitted⟩ := accepted
    exact .of_searched addressed permitted
      (tracedRouting_search addressed permitted)
  · obtain ⟨unasked, failed⟩ :=
      @tracedRouting_refused σ payload expectedScope profile decryptFn state
        accepted
    exact .of_refused accepted unasked failed

end

end VaultCore
