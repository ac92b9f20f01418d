import VaultCore.Async.PrivateHeap
import VaultCore.Async.Triple
import VaultCore.Envelopes.RoundTrip
import VaultCore.Session.CacheIntegrity
import VaultCore.Session.EnvelopeCreation

/-!
# What a creating call holds

A creating call holds the arrays that it has allocated.  Its segments leave
the session as it is, or clear the cache while the token is still allowed to.
-/

namespace VaultCore

/-- A segment leaves the session or, with its token allowed, clears the
cache. -/
def SessionKept (operation : Option VaultSessionOperation)
    (start finish : SessionState) : Prop :=
  finish = start ∨
    start.mutationAllowed operation = .ok () ∧ finish = start.clearCachedEntry

theorem clearCachedEntry_idempotent (state : SessionState) :
    state.clearCachedEntry.clearCachedEntry = state.clearCachedEntry := by
  unfold SessionState.clearCachedEntry
  cases state.cachedEntry <;> rfl

theorem SessionKept.clear {operation : Option VaultSessionOperation}
    {start state : SessionState} (kept : SessionKept operation start state)
    (allowed : state.mutationAllowed operation = .ok ()) :
    SessionKept operation start state.clearCachedEntry := by
  cases kept with
  | inl same =>
      subst same
      exact .inr ⟨allowed, rfl⟩
  | inr cleared =>
      obtain ⟨before, rfl⟩ := cleared
      exact .inr ⟨before, clearCachedEntry_idempotent start⟩

/-- The arrays a creating call holds and how its segments change them and the
session. -/
def creationTracking (operation : Option VaultSessionOperation) :
    Async.Tracking (Cells Bytes) CreationPage :=
  { valid := fun cells page => cells.Held page.arrays
    change := fun held kept start finish =>
      Cells.Change held kept start.arrays finish.arrays ∧
        SessionKept operation start.session finish.session
    begins := fun _ _ held => ⟨.refl held, .inl rfl⟩ }

theorem allZero_zeroFilled (bytes : Bytes) : AllZero (zeroFilled bytes) :=
  fun _ => List.eq_of_mem_replicate

/-- Every array of the call is all zeros. -/
def Zeroed (cells : Cells Bytes) : Prop :=
  ∀ cell ∈ cells.entries, AllZero cell.2

theorem Zeroed.empty : Zeroed {} :=
  fun _ member => absurd member List.not_mem_nil

/-- The call holds the unlock key, and no other array that is not zeroed. -/
structure HoldsUnlockKey (puk : OwnArray) (bytes : Bytes)
    (cells : Cells Bytes) : Prop where
  present : (puk.index, bytes) ∈ cells.entries
  others : ∀ cell ∈ cells.entries, cell.1 = puk.index ∨ AllZero cell.2

namespace HoldsUnlockKey

variable {puk temporary : OwnArray} {bytes content : Bytes}
  {cells : Cells Bytes}

theorem listed (holds : HoldsUnlockKey puk bytes cells) :
    puk.index ∈ cells.indices :=
  Cells.mem_indices.mpr ⟨bytes, holds.present⟩

theorem alone : HoldsUnlockKey puk bytes (({} : Cells Bytes).add puk.index
    bytes) where
  present := List.mem_cons_self
  others := fun _ member => .inl (by rw [List.mem_singleton.mp member])

theorem zeroed (holds : HoldsUnlockKey puk bytes cells) :
    Zeroed (cells.modify puk.index zeroFilled) := by
  intro cell member
  obtain ⟨earlier, present, written⟩ := List.mem_map.mp member
  rw [← written]
  split
  · exact allZero_zeroFilled earlier.2
  · rename_i different
    exact (holds.others earlier present).resolve_left different

/-- An array that the call has added and zeroed again. -/
theorem temporary_zeroed (holds : HoldsUnlockKey puk bytes cells)
    (fresh : temporary.index ∉ cells.indices) :
    HoldsUnlockKey puk bytes ((cells.add temporary.index content).modify
      temporary.index zeroFilled) where
  present := by
    apply List.mem_map.mpr
    refine ⟨(puk.index, bytes), List.mem_append_left _ holds.present, ?_⟩
    apply if_neg
    intro same
    rw [← same] at fresh
    exact fresh holds.listed
  others := by
    intro cell member
    obtain ⟨earlier, present, written⟩ := List.mem_map.mp member
    rw [← written]
    split
    · exact .inr (allZero_zeroFilled earlier.2)
    · rename_i different
      cases List.mem_append.mp present with
      | inl before => exact holds.others earlier before
      | inr added =>
          rw [List.mem_singleton.mp added] at different
          exact absurd rfl different

end HoldsUnlockKey

section Rules

variable {operation : Option VaultSessionOperation} {cells : Cells Bytes}
  {claim : Cells Bytes → Prop} {α β : Type}

theorem bind_allocateArray {bytes : Bytes} {next : OwnArray → CreationAsync β}
    {post : Except VaultError β → Cells Bytes → CreationPage → Prop}
    (continues : ∀ reference : OwnArray, reference.index ∉ cells.indices →
      (creationTracking operation).Triple
        (fun now _ => now = cells.add reference.index bytes)
        (next reference) post) :
    (creationTracking operation).Triple (fun now _ => now = cells)
      (Async.lift (allocateArray bytes) >>= next) post := by
  intro held now start page changed holds
  subst holds
  have fresh : page.arrays.length ∉ now.indices := by
    intro listed
    exact Nat.lt_irrefl _ (changed.1.contents.lt_length listed)
  exact continues ⟨page.arrays.length⟩ fresh held _ start _
    ⟨changed.1.add bytes, changed.2⟩ rfl

theorem zeroArray_moves {reference : OwnArray}
    {outcome : Cells Bytes → Prop}
    (listed : ∀ now, claim now → reference.index ∈ now.indices)
    (zeroes : ∀ now, claim now →
      outcome (now.modify reference.index zeroFilled)) :
    (creationTracking operation).Moves (fun now _ => claim now)
      (Sync.modify (CreationPage.zeroArray reference) :
        CreationSync Unit) fun _ now _ => outcome now := by
  intro held now start page changed holds
  exact ⟨_, ⟨changed.1.modify (listed now holds) zeroFilled, changed.2⟩,
    zeroes now holds⟩

theorem bind_get {next : CreationPage → CreationAsync β}
    {post : Except VaultError β → Cells Bytes → CreationPage → Prop}
    (continues : ∀ page : CreationPage, cells.Held page.arrays →
      (creationTracking operation).Triple (fun now _ => now = cells)
        (next page) post) :
    (creationTracking operation).Triple (fun now _ => now = cells)
      (Async.lift Sync.get >>= next) post := by
  intro held now start page changed holds
  have contents := changed.1.contents
  rw [holds] at contents
  exact continues page contents held now start page changed holds

/-- What both functions do last when they succeed. -/
theorem return_allowed {value : α} :
    (creationTracking operation).Triple (fun now _ => claim now)
      (do
        Async.lift (CreationPage.assertMutationAllowed operation)
        return value)
      fun outcome now page => claim now ∧ ∀ result, outcome = .ok result →
        result = value ∧
          page.session.mutationAllowed operation = .ok () := by
  have asserts : (creationTracking operation).Moves (fun now _ => claim now)
      (CreationPage.assertMutationAllowed operation)
      fun outcome now page => claim now ∧
        outcome = page.session.mutationAllowed operation :=
    .of_unchanged (fun _ => rfl) fun _ _ holds => ⟨holds, rfl⟩
  apply (Async.Tracking.Triple.lift asserts).bind
  · intro _
    apply Async.Tracking.Triple.done
    intro now page holds
    refine ⟨holds.1, ?_⟩
    intro result same
    cases same
    exact ⟨rfl, holds.2.symm⟩
  · intro error now page holds
    exact ⟨holds.1, fun _ impossible => by cases impossible⟩

theorem clearVaultInnerKeyMaterialCache_moves :
    (creationTracking operation).Moves (fun now _ => claim now)
      ((clearVaultInnerKeyMaterialCache operation).within sessionOfCreation)
      fun _ now _ => claim now := by
  intro held now start page changed holds
  refine ⟨now, ⟨changed.1, ?_⟩, holds⟩
  simp only [Sync.within, sessionOfCreation, clearVaultInnerKeyMaterialCache,
    assertVaultSessionMutationAllowed, Sync.bind_apply]
  cases allowed : page.session.mutationAllowed operation with
  | error error => exact changed.2
  | ok _ => exact changed.2.clear allowed

/-- Giving up on the cached material ends with an error. -/
theorem rejectCachedMaterial_sound (error : VaultError) :
    (creationTracking operation).Triple (fun now _ => claim now)
      ((rejectCachedMaterial operation error : SessionAsync α).within
        sessionOfCreation)
      fun outcome now _ => claim now ∧
        ∃ failure, outcome = .error failure := by
  simp only [rejectCachedMaterial, Async.within_bind, Async.within_lift,
    Async.within_throw]
  apply Async.Tracking.Triple.bind_unchanged
  · exact fun _ => rfl
  · intro _
    have clears := Async.Tracking.Triple.lift
      (@clearVaultInnerKeyMaterialCache_moves operation claim)
    apply clears.bind
    · intro _
      apply Async.Tracking.Triple.done
      intro now page holds
      exact ⟨holds, _, rfl⟩
    · intro error now page holds
      exact ⟨holds, _, rfl⟩
  · intro error now page holds
    exact ⟨holds, _, rfl⟩

theorem getCachedVaultInnerKeyMaterial_page
    (operation : Option VaultSessionOperation) (page : CreationPage) :
    ((getCachedVaultInnerKeyMaterial operation).within sessionOfCreation
      page).2 = page := by
  simp only [Sync.within, getCachedVaultInnerKeyMaterial_state]
  rfl

/-- Looking the material up leaves what the call holds. -/
theorem resolveInnerVaultKeyBlobForWrap_maintains (platform : Platform)
    (sessionVaultKey : CryptoKey) :
    (creationTracking operation).Maintains claim
      ((resolveInnerVaultKeyBlobForWrap platform sessionVaultKey none
        operation).within sessionOfCreation) := by
  simp only [resolveInnerVaultKeyBlobForWrap, Async.within_bind,
    Async.within_lift]
  apply Async.Tracking.Maintains.bind
  · exact .unchanged (getCachedVaultInnerKeyMaterial_page operation)
  · intro cached
    cases cached with
    | none => exact .done _
    | some entry =>
        simp only [Async.within_tryCatch, Async.within_bind,
          Async.within_lift, Async.within_awaitOutcome, Async.within_throw]
        apply Async.Tracking.Maintains.tryCatch
        · apply Async.Tracking.Maintains.bind (.unchanged fun _ => rfl)
          intro state
          apply Async.Tracking.Maintains.bind (.awaitOutcome _)
          intro _
          apply Async.Tracking.Maintains.bind (.unchanged fun _ => rfl)
          intro _
          exact .done _
        · intro error
          apply Async.Tracking.Maintains.bind (.unchanged fun _ => rfl)
          intro _
          apply Async.Tracking.Maintains.bind
            (.lift clearVaultInnerKeyMaterialCache_moves)
          intro _
          exact .done _

end Rules

section Programs

/-- What opening an envelope again relies on. -/
structure RestorableKey (platform : Platform) (vaultKey : CryptoKey) : Prop
    where
  crypto : platform.Lawful
  user : IsUserVaultKey vaultKey
  probe : platform.IdealProbe vaultKey.material

/-- The PRF output opens the envelope to the vault key. -/
def PasskeyPrfEnvelopeInput.OpenedBy (platform : Platform)
    (input : PasskeyPrfEnvelopeInput) (envelope : PasskeyPrfEnvelope) : Prop :=
  RestorableKey platform input.vaultKey → ∀ prfRequired,
    unlockWithPasskeyPrfEnvelope platform envelope (some input.prfOutput)
      input.scope input.profile prfRequired = .ok input.vaultKey.restored

/-- What is promised of the outcome of a passkey enrolment. -/
def PasskeyPrfPromise (platform : Platform) (input : PasskeyPrfEnvelopeInput)
    (outcome : Except VaultError PasskeyPrfEnvelope) (now : Cells Bytes)
    (page : CreationPage) : Prop :=
  Zeroed now ∧ ∀ envelope, outcome = .ok envelope →
    page.session.mutationAllowed input.operation = .ok () ∧
      input.OpenedBy platform envelope

theorem PasskeyPrfPromise.of_error {platform : Platform}
    {input : PasskeyPrfEnvelopeInput} {error : VaultError}
    {now : Cells Bytes} {page : CreationPage} (zeroed : Zeroed now) :
    PasskeyPrfPromise platform input (.error error) now page :=
  ⟨zeroed, fun _ impossible => by cases impossible⟩

/-- The unlock key that was drawn opens the payload to the vault key. -/
def BrokerEnrollmentInput.OpenedBy (platform : BrokerPlatform)
    (input : BrokerEnrollmentInput) (payload : EncryptedVaultPayload) : Prop :=
  RestorableKey platform.toPlatform input.vaultKey →
    unlockPortableVaultBrokerEncryptedVaultKey platform payload
      input.randomBytes.val input.opaqueScope input.profile =
        .ok input.vaultKey.restored

/-- A package comes with its unlock key, and an error leaves none. -/
def PackageHeld (platform : BrokerPlatform) (input : BrokerEnrollmentInput)
    (outcome : Except VaultError PortableVaultBrokerEnrollmentPackage)
    (now : Cells Bytes) : Prop :=
  match outcome with
  | .ok package =>
      HoldsUnlockKey package.puk input.randomBytes.val now ∧
        input.OpenedBy platform package.encryptedVaultKey
  | .error _ => Zeroed now

/-- What is promised of the outcome of a broker enrolment. -/
def BrokerPromise (platform : BrokerPlatform) (input : BrokerEnrollmentInput)
    (outcome : Except VaultError PortableVaultBrokerEnrollmentPackage)
    (now : Cells Bytes) (page : CreationPage) : Prop :=
  PackageHeld platform input outcome now ∧
    ∀ package, outcome = .ok package →
      page.session.mutationAllowed input.operation = .ok ()

theorem BrokerPromise.of_error {platform : BrokerPlatform}
    {input : BrokerEnrollmentInput} {error : VaultError} {now : Cells Bytes}
    {page : CreationPage} (zeroed : Zeroed now) :
    BrokerPromise platform input (.error error) now page :=
  ⟨zeroed, fun _ impossible => by cases impossible⟩

section Passkey

variable {platform : Platform} {input : PasskeyPrfEnvelopeInput}

/-- How every branch ends: the envelope is created, and returned if the token
is still allowed. -/
theorem returnCreatedEnvelope_sound (supplied : Option Bytes) :
    (creationTracking input.operation).Triple (fun now _ => Zeroed now)
      (do
        let envelope ← Async.awaitOutcome (createPasskeyPrfEnvelope platform
          input.iv input.vaultKey input.prfOutput input.scope input.profile
          supplied)
        Async.lift (CreationPage.assertMutationAllowed input.operation)
        return envelope)
      (PasskeyPrfPromise platform input) := by
  apply Async.Tracking.Triple.bind_awaitOutcome
  · intro envelope created
    apply return_allowed.weaken
    intro outcome now page holds
    refine ⟨holds.1, ?_⟩
    intro result same
    obtain ⟨rfl, allowed⟩ := holds.2 result same
    refine ⟨allowed, ?_⟩
    intro key
    exact createPasskeyPrfEnvelope_opens key.crypto key.user (.inr key.probe)
      created
  · intro error now page _ holds
    exact .of_error holds

theorem createPasskeyPrfEnvelopeFromCachedMaterial_sound
    (cached : VaultInnerKeyMaterialCacheEntry) :
    (creationTracking input.operation).Triple (fun now _ => Zeroed now)
      ((createPasskeyPrfEnvelopeFromCachedMaterial platform input
        cached).within sessionOfCreation)
      (PasskeyPrfPromise platform input) := by
  simp only [createPasskeyPrfEnvelopeFromCachedMaterial,
    Async.within_tryCatch, Async.within_bind, Async.within_lift,
    Async.within_awaitOutcome]
  apply Async.Tracking.Triple.tryCatch
  · apply Async.Tracking.Triple.bind_awaitOutcome
    · intro prfWrappingKey imported
      apply Async.Tracking.Triple.bind_unchanged
      · exact fun _ => rfl
      · intro state
        apply Async.Tracking.Triple.bind_awaitOutcome
        · intro rewrappedInner rewrapped
          apply Async.Tracking.Triple.bind_unchanged
          · exact fun _ => rfl
          · intro _
            exact returnCreatedEnvelope_sound
              (some rewrappedInner)
          · intro error now page holds
            exact .of_error holds
        · intro error now page _ holds
          exact .of_error holds
      · intro error now page holds
        exact .of_error holds
    · intro error now page _ holds
      exact .of_error holds
  · intro envelope now page holds
    exact holds
  · intro error
    apply ((rejectCachedMaterial_sound error).strengthen
      fun now page holds => holds.1).weaken
    intro outcome now page holds
    obtain ⟨zeroed, failure, rfl⟩ := holds
    exact .of_error zeroed

/-- The cache is still empty when it is looked up again, and whatever the
look-up finds is compared with the session key. -/
theorem createPasskeyPrfEnvelopeWithSessionCache_sound :
    (creationTracking input.operation).Triple (fun now _ => Zeroed now)
      ((createPasskeyPrfEnvelopeWithSessionCache platform input).within
        sessionOfCreation)
      (PasskeyPrfPromise platform input) := by
  simp only [createPasskeyPrfEnvelopeWithSessionCache, Async.within_bind,
    Async.within_lift]
  apply Async.Tracking.Triple.bind_unchanged
  · exact fun _ => rfl
  · intro _
    cases input.innerVaultKeyBlob with
    | some inner =>
        simp only [Async.within_bind, Async.within_lift,
          Async.within_awaitOutcome]
        exact returnCreatedEnvelope_sound (some inner)
    | none =>
        simp only [Async.within_bind, Async.within_lift]
        apply Async.Tracking.Triple.bind_unchanged
        · exact getCachedVaultInnerKeyMaterial_page _
        · intro cached
          cases cached with
          | some entry =>
              exact createPasskeyPrfEnvelopeFromCachedMaterial_sound entry
          | none =>
              simp only [Async.within_bind, Async.within_await,
                Async.within_lift, Async.within_awaitOutcome]
              have looksUp : (creationTracking input.operation).Maintains
                  Zeroed ((resolveInnerVaultKeyBlobForWrap platform
                    input.vaultKey none input.operation).within
                      sessionOfCreation).await :=
                .await (resolveInnerVaultKeyBlobForWrap_maintains platform
                  input.vaultKey)
              apply Async.Tracking.Triple.bind looksUp
              · intro resolved
                apply Async.Tracking.Triple.bind_unchanged
                · exact fun _ => rfl
                · intro _
                  apply Async.Tracking.Triple.bind_unchanged
                  · exact fun _ => rfl
                  · intro page
                    exact returnCreatedEnvelope_sound _
                  · intro error now page holds
                    exact .of_error holds
                · intro error now page holds
                  exact .of_error holds
              · intro error now page holds
                exact .of_error holds
        · intro error now page holds
          exact .of_error holds
  · intro error now page holds
    exact .of_error holds

end Passkey

section Broker

variable {platform : BrokerPlatform} {input : BrokerEnrollmentInput}
  {operation : Option VaultSessionOperation} {puk : OwnArray}

theorem Held.array_add {reference : OwnArray} {bytes : Bytes}
    {cells : Cells Bytes} {page : CreationPage}
    (held : (cells.add reference.index bytes).Held page.arrays) :
    page.array reference = bytes := by
  have found := held (reference.index, bytes)
    (List.mem_append_right _ List.mem_cons_self)
  simp only [CreationPage.array, found, Option.getD_some]

theorem zeroUnlockKey_moves {bytes : Bytes} :
    (creationTracking operation).Moves
      (fun now _ => HoldsUnlockKey puk bytes now)
      (Sync.modify (CreationPage.zeroArray puk) : CreationSync Unit)
      fun _ now _ => Zeroed now :=
  zeroArray_moves (fun _ holds => holds.listed) fun _ holds => holds.zeroed

theorem createPortableVaultBrokerEnrollmentPackage_sound :
    (creationTracking operation).Triple (fun now _ => now = {})
      (createPortableVaultBrokerEnrollmentPackage platform input)
      fun outcome now _ => PackageHeld platform input outcome now := by
  apply bind_allocateArray
  intro puk _
  refine @Async.Tracking.Triple.tryCatch _ _ _ _ _ _ _
    (fun outcome now _ => HoldsUnlockKey puk input.randomBytes.val now ∧
      ∀ package, outcome = .ok package → package.puk = puk ∧
        input.OpenedBy platform package.encryptedVaultKey) _ _ ?_ ?_ ?_
  · apply bind_get
    intro page held
    apply Async.Tracking.Triple.bind_awaitOutcome
    · intro encryptedVaultKey created
      apply Async.Tracking.Triple.done
      intro now later same
      subst same
      refine ⟨.alone, ?_⟩
      intro package built
      cases built
      refine ⟨rfl, ?_⟩
      rw [Held.array_add held] at created
      obtain ⟨keys, derived, wrapped⟩ := Outcome.bind_eq_ok_iff.mp created
      intro key
      exact unlockPortableVaultBrokerEncryptedVaultKey_wrapped key.crypto
        key.user (.inl rfl) derived wrapped
    · intro error now later _ same
      subst same
      exact ⟨.alone, fun _ impossible => by cases impossible⟩
  · intro package now page holds
    obtain ⟨same, opened⟩ := holds.2 package rfl
    subst same
    exact ⟨holds.1, opened⟩
  · intro error
    apply Async.Tracking.Triple.bind
      ((Async.Tracking.Triple.lift zeroUnlockKey_moves).strengthen
        fun _ _ holds => holds.1)
    · exact fun _ => .done fun _ _ zeroed => zeroed
    · exact fun _ _ _ zeroed => zeroed

/-- The re-wrapped material is zeroed whether or not it was sealed. -/
theorem createPortableVaultBrokerEncryptedVaultKeyFromCachedMaterial_sound
    (cached : VaultInnerKeyMaterialCacheEntry) :
    (creationTracking operation).Triple
      (fun now _ => now = ({} : Cells Bytes).add puk.index
        input.randomBytes.val)
      (createPortableVaultBrokerEncryptedVaultKeyFromCachedMaterial platform
        input puk cached)
      fun outcome now _ => HoldsUnlockKey puk input.randomBytes.val now ∧
        ∀ payload, outcome = .ok payload → input.OpenedBy platform payload := by
  apply bind_get
  intro page held
  apply Async.Tracking.Triple.bind_awaitOutcome
  · intro derivedKeys derived
    rw [Held.array_add held] at derived
    apply bind_get
    intro later _
    apply Async.Tracking.Triple.bind_awaitOutcome
    · intro bytes _
      apply bind_allocateArray
      intro rewrappedInner fresh
      refine @Async.Tracking.Triple.tryFinally _ _ _ _ _ _ _
        (fun outcome now _ => now = (({} : Cells Bytes).add puk.index
            input.randomBytes.val).add rewrappedInner.index bytes ∧
          ∀ payload, outcome = .ok payload →
            input.OpenedBy platform payload) _ _ ?_ ?_
      · apply bind_get
        intro last _
        apply Async.Tracking.Triple.awaitOutcome
        intro now state after same _
        refine ⟨same, ?_⟩
        intro payload wrapped key
        exact unlockPortableVaultBrokerEncryptedVaultKey_wrapped key.crypto
          key.user (.inr key.probe) derived wrapped
      · intro outcome held now start state changed holds
        obtain ⟨rfl, opened⟩ := holds
        have listed : rewrappedInner.index ∈
            ((({} : Cells Bytes).add puk.index input.randomBytes.val).add
              rewrappedInner.index bytes).indices := by
          rw [Cells.indices_add]
          exact List.mem_append_right _ List.mem_cons_self
        exact ⟨_, ⟨changed.1.modify listed zeroFilled, changed.2⟩,
          HoldsUnlockKey.alone.temporary_zeroed fresh, opened⟩
    · intro error now state _ same
      subst same
      exact ⟨.alone, fun _ impossible => by cases impossible⟩
  · intro error now state _ same
    subst same
    exact ⟨.alone, fun _ impossible => by cases impossible⟩

theorem createPortableVaultBrokerEnrollmentPackageWithSessionCache_sound :
    (creationTracking input.operation).Triple (fun now _ => now = {})
      (createPortableVaultBrokerEnrollmentPackageWithSessionCache platform
        input)
      (BrokerPromise platform input) := by
  apply Async.Tracking.Triple.bind_unchanged
  · exact fun _ => rfl
  · intro _
    apply Async.Tracking.Triple.bind_unchanged
    · exact getCachedVaultInnerKeyMaterial_page _
    · intro cached
      cases cached with
      | none =>
          have creates := @createPortableVaultBrokerEnrollmentPackage_sound
            platform input input.operation
          apply Async.Tracking.Triple.bind creates.await_claim
          · intro enrollment
            apply Async.Tracking.Triple.tryCatch return_allowed
            · intro package now page holds
              obtain ⟨rfl, allowed⟩ := holds.2 package rfl
              exact ⟨holds.1, fun _ _ => allowed⟩
            · intro error
              apply Async.Tracking.Triple.bind
                ((Async.Tracking.Triple.lift zeroUnlockKey_moves).strengthen
                  fun _ _ holds => holds.1.1)
              · intro _
                apply Async.Tracking.Triple.done
                intro now page zeroed
                exact .of_error zeroed
              · intro failure now page zeroed
                exact .of_error zeroed
          · intro error now page zeroed
            exact .of_error zeroed
      | some entry =>
          apply bind_allocateArray
          intro puk _
          have creates :=
            @createPortableVaultBrokerEncryptedVaultKeyFromCachedMaterial_sound
              platform input input.operation puk entry
          refine @Async.Tracking.Triple.tryCatch _ _ _ _ _ _ _
            (fun outcome now page =>
              HoldsUnlockKey puk input.randomBytes.val now ∧
              ∀ package, outcome = .ok package →
                (package.puk = puk ∧
                  input.OpenedBy platform package.encryptedVaultKey) ∧
                page.session.mutationAllowed input.operation = .ok ())
            _ _ ?_ ?_ ?_
          · apply Async.Tracking.Triple.bind creates.await_claim
            · intro encryptedVaultKey
              apply return_allowed.weaken
              intro outcome now page holds
              refine ⟨holds.1.1, ?_⟩
              intro package same
              obtain ⟨rfl, allowed⟩ := holds.2 package same
              exact ⟨⟨rfl, holds.1.2 _ rfl⟩, allowed⟩
            · intro error now page holds
              exact ⟨holds.1, fun _ impossible => by cases impossible⟩
          · intro package now page holds
            obtain ⟨⟨rfl, opened⟩, allowed⟩ := holds.2 package rfl
            exact ⟨⟨holds.1, opened⟩, fun _ _ => allowed⟩
          · intro error
            apply Async.Tracking.Triple.bind
              ((Async.Tracking.Triple.lift zeroUnlockKey_moves).strengthen
                fun _ _ holds => holds.1)
            · intro _
              apply (rejectCachedMaterial_sound error).weaken
              intro outcome now page holds
              obtain ⟨zeroed, failure, rfl⟩ := holds
              exact .of_error zeroed
            · intro failure now page zeroed
              exact .of_error zeroed
    · intro error now page same
      subst same
      exact .of_error .empty
  · intro error now page same
    subst same
    exact .of_error .empty

end Broker

end Programs

end VaultCore
