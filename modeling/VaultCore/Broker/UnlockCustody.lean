import VaultCore.Broker.Custody

/-!
# The custody of an unlock

One triple for each part of the unlock.  Before the key is unsealed the task
has nothing to zero; from then on every way out passes the clean-up of the
portable unlock key, and the inner blob is either zeroed or in the cache.
-/

namespace VaultCore

namespace Custody

variable {call : BrokerCall} {platform : BrokerSessionPlatform}
  {session : PortableVaultBrokerUnlockSession} {custody : Custody}
  {puk inner : BufferRef} {receipt : JsString}

/-- The private key is taken out of its session. -/
def keyTaken (session : PortableVaultBrokerUnlockSession) : Custody :=
  { trace := [.taken session] }

/-- The shared secret is derived. -/
def keyUsed (session : PortableVaultBrokerUnlockSession) : Custody :=
  { trace := [.taken session, .derived session] }

/-- The portable unlock key is there, and is to be zeroed. -/
def pukUnsealed (session : PortableVaultBrokerUnlockSession)
    (puk : BufferRef) : Custody :=
  { trace := [.taken session, .derived session, .unsealed puk]
    live := [puk] }

/-- The inner blob is there too. -/
def innerRestored (session : PortableVaultBrokerUnlockSession)
    (puk inner : BufferRef) : Custody :=
  { trace := [.taken session, .derived session, .unsealed puk,
      .restored inner]
    live := [puk, inner] }

/-- The completion receipt has been verified. -/
def receiptVerified (session : PortableVaultBrokerUnlockSession)
    (puk inner : BufferRef) (receipt : JsString) : Custody :=
  { trace := [.taken session, .derived session, .unsealed puk,
      .restored inner, .receiptResolved receipt]
    live := [puk, inner] }

/-- The inner blob is in the cache. -/
def innerCached (session : PortableVaultBrokerUnlockSession)
    (puk inner : BufferRef) (receipt : JsString) : Custody :=
  { receiptVerified session puk inner receipt with cached := true }

/-- Only the portable unlock key is left to be zeroed. -/
structure HoldsOnly (puk : BufferRef) (custody : Custody) : Prop where
  uncached : custody.cached = false
  live : ∀ reference ∈ custody.live, reference = puk

section Steps

theorem zeroed_moves {claim : Custody → Prop} (reference : BufferRef) :
    (tracking call).Moves (fun now _ => claim now)
      (Sync.modify (BrokerPage.zeroBuffer reference) : BrokerSync Unit)
      fun _ now _ => claim now := by
  intro held now start page change holds
  exact ⟨now, change.arrays (.zeroBuffer reference page.session) rfl, holds⟩

theorem discharge_moves {claim : Custody → Prop} (reference : BufferRef) :
    (tracking call).Moves (fun now _ => claim (now.discharge reference))
      (Sync.modify (BrokerPage.zeroBuffer reference) : BrokerSync Unit)
      fun _ now _ => claim now := by
  intro held now start page change holds
  exact ⟨now.discharge reference, change.discharge reference, holds⟩

theorem allocate_moves (bytes : Bytes) :
    (tracking call).Moves (fun now _ => now = custody)
      (allocatePageBuffer bytes) fun outcome now page =>
        ∃ reference, outcome = .ok reference ∧ now = custody ∧
          reference.index < page.session.buffers.length ∧
          ¬ custody.Secret reference := by
  intro held now start page change holds
  subst holds
  refine ⟨now, change.arrays (allocateBuffer_later bytes page.session) rfl,
    { index := page.session.buffers.length }, rfl, rfl, ?_, ?_⟩
  · change page.session.buffers.length <
      (page.session.buffers ++ [bytes]).length
    simp
  · intro secret
    exact Nat.lt_irrefl _ (change.valid.allocated _ secret)

theorem allocate_keeps (bytes : Bytes) :
    (tracking call).Moves (fun now _ => now = custody)
      (allocatePageBuffer bytes) fun _ now _ => now = custody := by
  intro held now start page change holds
  obtain ⟨after, changed, _, -, same, -⟩ :=
    allocate_moves bytes held now start page change holds
  exact ⟨after, changed, same⟩

theorem decodeFieldBuffer_keeps (text : JsString) (maxBytes : Nat) :
    (tracking call).Moves (fun now _ => now = custody)
      (decodeFieldBuffer text maxBytes) fun _ now _ => now = custody := by
  intro held now start page change holds
  unfold decodeFieldBuffer
  rw [Sync.bind_apply, Sync.ofExcept_apply]
  cases decodeBoundedBase64Url text maxBytes with
  | error error => exact ⟨now, change, holds⟩
  | ok bytes => exact allocate_keeps bytes held now start page change holds

theorem bind_recordEvent {α : Type} {event : BrokerEvent}
    {live : List BufferRef} {pre : BrokerPage → Prop}
    {next : BrokerAsync α} {post : Except VaultError α → Custody →
      BrokerPage → Prop}
    (records : ∀ page, pre page → custody.Records call event live page)
    (continues : (tracking call).Triple (fun now _ =>
      now = { custody with trace := custody.trace ++ [event], live }) next
      post) :
    (tracking call).Triple (fun now page => now = custody ∧ pre page)
      (Async.lift (recordEvent event) >>= fun _ => next) post := by
  have moves : (tracking call).Triple
      (fun now page => now = custody ∧ pre page)
      (Async.lift (recordEvent event)) fun outcome now _ =>
        outcome = .ok () ∧
          now = { custody with trace := custody.trace ++ [event], live } := by
    apply Async.Tracking.Triple.lift
    intro held now start page change holds
    obtain ⟨rfl, asked⟩ := holds
    exact ⟨_, change.record (records page asked), rfl, rfl⟩
  apply moves.bind
  · intro _
    exact continues.strengthen fun _ _ recorded => recorded.2
  · intro error now page impossible
    cases impossible.1

theorem withZeroedBuffer_triple {α : Type} {create : BrokerSync BufferRef}
    {work : BufferRef → BrokerAsync α}
    {post : Except VaultError α → Custody → Prop}
    (creates : (tracking call).Moves (fun now _ => now = custody) create
      fun _ now _ => now = custody)
    (fails : ∀ error, post (.error error) custody)
    (works : ∀ buffer, (tracking call).Triple (fun now _ => now = custody)
      (work buffer) fun outcome now _ => post outcome now) :
    (tracking call).Triple (fun now _ => now = custody)
      (withZeroedBuffer create work) fun outcome now _ =>
        post outcome now := by
  apply Async.Tracking.Triple.bind (.lift creates)
  · intro buffer
    apply Async.Tracking.Triple.tryFinally (works buffer)
    intro outcome
    exact zeroed_moves buffer
  · intro error now page same
    rw [same]
    exact fails error

end Steps

section Unsealing

/-- What unsealing leaves in the hands of the task. -/
def Unseals (session : PortableVaultBrokerUnlockSession)
    (outcome : Except VaultError BufferRef) (now : Custody) : Prop :=
  match outcome with
  | .ok puk => now = pukUnsealed session puk
  | .error _ => now.cached = false ∧ now.live = []

theorem unsealed_records (page : BrokerPage)
    (bound : puk.index < page.session.buffers.length) :
    (keyUsed session).Records call (.unsealed puk) [puk] page := by
  constructor
  case receipts =>
    exact .of_none (by simp [keyUsed]) (by simp [keyUsed])
  case secret =>
    intro reference made
    cases made with
    | inl same =>
        cases same
        exact ⟨bound, List.mem_singleton_self _⟩
    | inr same => cases same
  all_goals nofun

theorem derived_records (page : BrokerPage) :
    (keyTaken session).Records call (.derived session) [] page := by
  constructor
  case receipts =>
    exact .of_none (by simp [keyTaken]) (by simp [keyTaken])
  case derives =>
    intro other same
    cases same
    simp [keyTaken]
  case secret =>
    intro reference made
    cases made with
    | inl same => cases same
    | inr same => cases same
  all_goals nofun

theorem decryptSealedPuk_triple
    (sharedBits salt iv ciphertext info : BufferRef) :
    (tracking call).Triple (fun now _ => now = keyUsed session)
      (decryptSealedPuk platform sharedBits salt iv ciphertext info)
      fun outcome now _ => Unseals session outcome now := by
  have fails : ∀ (error : VaultError) (now : Custody) (page : BrokerPage),
      now = keyUsed session → Unseals session (.error error) now := by
    intro error now page same
    rw [same]
    exact ⟨rfl, rfl⟩
  apply Async.Tracking.Triple.bind_unchanged (fun _ => rfl) _ fails
  intro _
  apply Async.Tracking.Triple.bind_awaitOutcome _
    fun error now page _ same => fails error now page same
  intro keyMaterial _
  apply Async.Tracking.Triple.bind_unchanged (fun _ => rfl) _ fails
  intro _
  apply Async.Tracking.Triple.bind_awaitOutcome _
    fun error now page _ same => fails error now page same
  intro encryptionKey _
  apply Async.Tracking.Triple.bind_unchanged (fun _ => rfl) _ fails
  intro page
  apply Async.Tracking.Triple.bind_awaitOutcome _
    fun error now page _ same => fails error now page same
  intro bytes _
  apply Async.Tracking.Triple.bind (.lift (allocate_moves bytes))
  · intro plaintext
    apply Async.Tracking.Triple.strengthen (bind_recordEvent unsealed_records _)
    · intro now page made
      obtain ⟨_, same, kept, bound, -⟩ := made
      cases same
      exact ⟨kept, bound⟩
    · split
      · -- An array of the wrong length is zeroed at once.
        apply Async.Tracking.Triple.bind
        · apply Async.Tracking.Triple.strengthen
            (.lift (@discharge_moves call (fun now =>
              now.cached = false ∧ now.live = []) plaintext))
          intro now page unsealed
          rw [unsealed]
          exact ⟨rfl, by simp [discharge]⟩
        · intro _
          exact .done fun _ _ empty => empty
        · exact fun _ _ _ empty => empty
      · exact .done fun now page unsealed => unsealed
  · intro error now page impossible
    obtain ⟨_, failed, -⟩ := impossible
    cases failed

theorem unsealPuk_triple (privateKey : EcdhPrivateKey)
    (sealedPuk : PortableVaultBrokerSealedPuk) :
    (tracking call).Triple (fun now _ => now = keyTaken session)
      (unsealPuk platform session privateKey sealedPuk)
      fun outcome now _ => Unseals session outcome now := by
  have unused : ∀ error : VaultError,
      Unseals session (.error error) (keyUsed session) := fun _ => ⟨rfl, rfl⟩
  apply Async.Tracking.Triple.bind_awaitOutcome
  · intro brokerPublicKey _
    apply Async.Tracking.Triple.strengthen (bind_recordEvent
      (fun page (_ : True) => derived_records page) _)
    · exact fun now page same => ⟨same, trivial⟩
    · apply Async.Tracking.Triple.bind_awaitOutcome
      · intro bits _
        apply withZeroedBuffer_triple (allocate_keeps bits.val) unused
        intro sharedBits
        apply withZeroedBuffer_triple (decodeFieldBuffer_keeps _ _) unused
        intro salt
        apply withZeroedBuffer_triple (decodeFieldBuffer_keeps _ _) unused
        intro iv
        apply withZeroedBuffer_triple (decodeFieldBuffer_keeps _ _) unused
        intro ciphertext
        apply Async.Tracking.Triple.bind_unchanged (fun _ => rfl)
        · intro page
          split
          · apply Async.Tracking.Triple.done
            intro now page same
            rw [same]
            exact unused _
          · apply withZeroedBuffer_triple (allocate_keeps _) unused
            exact decryptSealedPuk_triple sharedBits salt iv ciphertext
        · intro error now page same
          rw [same]
          exact unused error
      · intro error now page _ same
        rw [same]
        exact unused error
  · intro error now page _ same
    rw [same]
    exact ⟨rfl, rfl⟩

theorem taken_records (page : BrokerPage) :
    ({} : Custody).Records call (.taken session) [] page := by
  constructor
  case receipts => exact .of_none (by simp) (by simp)
  case secret =>
    intro reference made
    cases made with
    | inl same => cases same
    | inr same => cases same
  all_goals nofun

theorem unseal_triple (sealedPuk : PortableVaultBrokerSealedPuk) :
    (tracking call).Triple (fun now _ => now = {})
      (session.unseal platform sealedPuk)
      fun outcome now _ => Unseals session outcome now := by
  have takes : (tracking call).Triple (fun now _ => now = {})
      (Async.lift (takePrivateKey session)) fun outcome now _ =>
        (∀ key, outcome = .ok key → now = keyTaken session) ∧
          ∀ error, outcome = .error error → now = {} := by
    apply Async.Tracking.Triple.lift
    intro held now start page change same
    subst same
    simp only [takePrivateKey, Sync.bind_apply, Sync.get_apply]
    cases page.privateKey session with
    | none =>
        refine ⟨{}, change, ?_, fun _ _ => rfl⟩
        intro key impossible
        cases impossible
    | some key =>
        refine ⟨keyTaken session, ?_, fun _ _ => rfl, ?_⟩
        · exact (change.dropPrivateKey session).record (taken_records _)
        · intro error impossible
          cases impossible
  apply takes.bind
  · intro key
    apply Async.Tracking.Triple.await_claim
    exact (unsealPuk_triple key sealedPuk).strengthen
      fun now page taken => taken.1 key rfl
  · intro error now page failed
    rw [failed.2 error rfl]
    exact ⟨rfl, rfl⟩

end Unsealing

section Restoring

/-- What unwrapping with inner material leaves in the hands of the task. -/
def Restores (session : PortableVaultBrokerUnlockSession) (puk : BufferRef)
    (outcome : Except VaultError BufferRef) (now : Custody) : Prop :=
  match outcome with
  | .ok inner => now = innerRestored session puk inner ∧ inner ≠ puk
  | .error _ => HoldsOnly puk now

theorem holdsOnly_pukUnsealed :
    HoldsOnly puk (pukUnsealed session puk) :=
  { uncached := rfl
    live := fun _ => List.mem_singleton.mp }

theorem holdsOnly_discharge (live : custody.live = [puk, inner])
    (uncached : custody.cached = false) :
    HoldsOnly puk (custody.discharge inner) := by
  constructor
  case uncached => exact uncached
  case live =>
    intro reference member
    simp only [discharge, live, List.mem_filter, List.mem_cons,
      List.not_mem_nil, or_false, decide_eq_true_eq] at member
    cases member.1 with
    | inl same => exact same
    | inr same => exact absurd same member.2

theorem restored_records (page : BrokerPage)
    (bound : inner.index < page.session.buffers.length) :
    (pukUnsealed session puk).Records call (.restored inner) [puk, inner]
      page := by
  constructor
  case receipts =>
    exact .of_none (by simp [pukUnsealed]) (by simp [pukUnsealed])
  case secret =>
    intro reference made
    cases made with
    | inl same => cases same
    | inr same =>
        cases same
        exact ⟨bound, by simp⟩
  case keeps =>
    intro reference member
    rw [List.mem_singleton.mp member]
    exact List.mem_cons_self
  all_goals nofun

theorem unwrapUserVaultKeyWithDerivedKeysAndInnerMaterial_triple
    (encryptedVaultKey : EncryptedVaultPayload) (derivedKeys : DerivedKeys) :
    (tracking call).Triple (fun now _ => now = pukUnsealed session puk)
      (BrokerPage.unwrapUserVaultKeyWithDerivedKeysAndInnerMaterial
        platform.toBrokerPlatform encryptedVaultKey derivedKeys)
      fun outcome now _ =>
        Restores session puk (outcome.map Prod.snd) now := by
  apply Async.Tracking.Triple.bind_awaitOutcome
  · intro bytes _
    apply Async.Tracking.Triple.bind (.lift (allocate_moves bytes))
    · intro inner
      by_cases same : inner = puk
      · -- The array is fresh, so it is not the portable unlock key.
        intro held now start page change made
        obtain ⟨_, isInner, -, -, fresh⟩ := made
        cases isInner
        exact absurd (.inl (by rw [same]; simp [pukUnsealed])) fresh
      · apply Async.Tracking.Triple.strengthen
          (bind_recordEvent restored_records _)
        · intro now page made
          obtain ⟨_, isInner, kept, bound, -⟩ := made
          cases isInner
          exact ⟨kept, bound⟩
        · have restores : (tracking call).Triple
              (fun now _ => now = innerRestored session puk inner)
              (do
                let vaultKey ← Async.awaitOutcome (restoreInnerVaultKey
                  platform.toPlatform bytes derivedKeys.wrappingKey false)
                return (vaultKey, inner) : BrokerAsync (CryptoKey × BufferRef))
              fun outcome now _ => now = innerRestored session puk inner ∧
                ∀ value, outcome = .ok value → value.2 = inner := by
            apply Async.Tracking.Triple.bind_awaitOutcome
            · intro vaultKey _
              apply Async.Tracking.Triple.done
              intro now page held
              refine ⟨held, ?_⟩
              intro value returned
              cases returned
              rfl
            · intro error now page _ held
              exact ⟨held, nofun⟩
          apply Async.Tracking.Triple.tryCatch restores
          · intro value now page returned
            obtain ⟨held, isInner⟩ := returned
            have second := isInner value rfl
            refine ⟨?_, ?_⟩
            · rw [held, ← second]
            · rw [second]
              exact same
          · intro error
            apply Async.Tracking.Triple.bind
            · apply Async.Tracking.Triple.strengthen
                (.lift (@discharge_moves _ (HoldsOnly puk) inner))
              intro now page held
              rw [held.1]
              exact holdsOnly_discharge rfl rfl
            · intro _
              exact .done fun _ _ only => only
            · exact fun _ _ _ only => only
    · intro error now page impossible
      obtain ⟨_, failed, -⟩ := impossible
      cases failed
  · intro error now page _ held
    rw [held]
    exact holdsOnly_pukUnsealed

theorem derivePortableVaultKeys_triple {claim : Custody → Prop} :
    (tracking call).Triple (fun now _ => claim now)
      (BrokerPage.derivePortableVaultKeys platform.toBrokerPlatform puk).await
      fun _ now _ => claim now := by
  apply Async.Tracking.Triple.await_claim
  apply Async.Tracking.Triple.bind_unchanged (fun _ => rfl)
  · intro page
    exact .awaitOutcome fun _ _ _ holds _ => holds
  · exact fun _ _ _ holds => holds

theorem unlockWithInnerMaterial_triple
    (encryptedVaultKey : EncryptedVaultPayload) (scope : VaultScope)
    (profile : VaultCryptoProfile) :
    (tracking call).Triple (fun now _ => now = pukUnsealed session puk)
      (BrokerPage.unlockPortableVaultBrokerEncryptedVaultKeyWithInnerMaterial
        platform.toBrokerPlatform encryptedVaultKey puk scope profile)
      fun outcome now _ => Restores session puk
        (outcome.map RestoredVaultKey.innerVaultKeyBlob) now := by
  have fails : ∀ (error : VaultError) (now : Custody) (page : BrokerPage),
      now = pukUnsealed session puk → HoldsOnly puk now := by
    intro error now page held
    rw [held]
    exact holdsOnly_pukUnsealed
  apply Async.Tracking.Triple.bind_unchanged (fun _ => rfl) _ fails
  intro _
  apply Async.Tracking.Triple.bind derivePortableVaultKeys_triple _ fails
  intro derivedKeys
  apply Async.Tracking.Triple.bind
  · exact .await_claim
      (unwrapUserVaultKeyWithDerivedKeysAndInnerMaterial_triple _ _)
  · intro unwrapped
    exact .done fun _ _ restores => restores
  · exact fun _ _ _ only => only

theorem unlockPortableVaultBrokerEncryptedVaultKey_triple
    (encryptedVaultKey : EncryptedVaultPayload) (scope : VaultScope)
    (profile : VaultCryptoProfile) :
    (tracking call).Triple (fun now _ => now = pukUnsealed session puk)
      (BrokerPage.unlockPortableVaultBrokerEncryptedVaultKey
        platform.toBrokerPlatform encryptedVaultKey puk scope profile)
      fun _ now _ => HoldsOnly puk now := by
  have fails : ∀ (error : VaultError) (now : Custody) (page : BrokerPage),
      now = pukUnsealed session puk → HoldsOnly puk now := by
    intro error now page held
    rw [held]
    exact holdsOnly_pukUnsealed
  apply Async.Tracking.Triple.bind_unchanged (fun _ => rfl) _ fails
  intro _
  apply Async.Tracking.Triple.bind derivePortableVaultKeys_triple _ fails
  intro derivedKeys
  apply Async.Tracking.Triple.await_claim
  apply Async.Tracking.Triple.bind
  · exact .await_claim
      (unwrapUserVaultKeyWithDerivedKeysAndInnerMaterial_triple _ _)
  · intro unwrapped
    have returns : (tracking call).Triple
        (fun now _ => Restores session puk (.ok unwrapped.2) now)
        (return unwrapped.1 : BrokerAsync CryptoKey)
        fun _ now _ => HoldsOnly puk (now.discharge unwrapped.2) := by
      apply Async.Tracking.Triple.done
      intro now page restores
      rw [restores.1]
      exact holdsOnly_discharge rfl rfl
    apply Async.Tracking.Triple.tryFinally returns
    intro outcome
    exact discharge_moves unwrapped.2
  · exact fun _ _ _ only => only

end Restoring

section Caching

/-- What caching the inner blob leaves in the hands of the task. -/
def Caches (session : PortableVaultBrokerUnlockSession)
    (puk inner : BufferRef) (receipt : JsString)
    (outcome : Except VaultError Unit) (now : Custody) : Prop :=
  match outcome with
  | .ok _ => now = innerCached session puk inner receipt
  | .error _ => HoldsOnly puk now

/-- The cache is written in the segment that begins with the comparison of the
keys, when the receipt has long been resolved. -/
theorem commits_innerCached {input : PortableVaultBrokerClientUnlockInput}
    {operation : VaultSessionOperation} (page : BrokerPage)
    (wrappingKey : CryptoKey) (token : input.operation = some operation)
    (allowed : page.session.mutationAllowed (some operation) = .ok ()) :
    Commits input (receiptVerified session puk inner receipt)
      (innerCached session puk inner receipt)
      { page with
        session := (storeCachedEntry inner wrappingKey page.session).2 } := by
  have core : (storeCachedEntry inner wrappingKey
      page.session).2.toSessionCore =
      { page.session.toSessionCore with
        cachedEntry := some { inner, wrappingKey } } := by
    simp only [storeCachedEntry, clearCachedEntry, mutate, Sync.bind_apply,
      Sync.modify_apply, SessionState.mapCore_core, clearCachedEntry_core]
  constructor
  case before => rfl
  case after => rfl
  case resolved => exact ⟨receipt, by simp [receiptVerified]⟩
  case entry =>
    refine ⟨inner, wrappingKey, by simp [receiptVerified], ?_⟩
    simp only [core]
  case allowed =>
    refine ⟨operation, token, ?_⟩
    simp only [core]
    exact allowed

theorem cacheVaultInnerKeyMaterialFromEnvelopeDecrypt_triple
    {input : PortableVaultBrokerClientUnlockInput}
    {operation : VaultSessionOperation} (wrappingKey vaultKey : CryptoKey)
    (token : input.operation = some operation) :
    (tracking (.unlockPortableVaultBrokerResponse input)).Triple
      (fun now _ => now = receiptVerified session puk inner receipt)
      (Async.within sessionOfPage
        (cacheVaultInnerKeyMaterialFromEnvelopeDecrypt platform.toPlatform
          inner wrappingKey vaultKey (some operation)))
      fun outcome now _ => Caches session puk inner receipt outcome now := by
  intro held now start page change same
  subst same
  -- What has been refused or has failed zeroes the blob.
  have refused : ∀ (error : VaultError) (before : Custody)
      (begun finish : BrokerPage),
      Change (.unlockPortableVaultBrokerResponse input) before
        (receiptVerified session puk inner receipt) begun finish →
      ∃ after, Change (.unlockPortableVaultBrokerResponse input) before after
        begun (finish.zeroBuffer inner) ∧
        Caches session puk inner receipt (.error error) after := by
    intro error before begun finish changed
    exact ⟨_, changed.discharge inner, holdsOnly_discharge rfl rfl⟩
  simp only [cacheVaultInnerKeyMaterialFromEnvelopeDecrypt,
    Async.within_bind, Async.within_tryCatch, Async.within_lift,
    Async.within_awaitOutcome, Async.within_throw]
  apply Async.Owns.bind
  apply Async.Owns.tryCatch
  apply Async.Owns.bind_lift
  · intro _ checked ran
    obtain ⟨-, rfl⟩ := Prod.mk.inj ran
    apply Async.Owns.bind_lift
    · intro read checked ran
      obtain ⟨-, rfl⟩ := Prod.mk.inj ran
      apply Async.Owns.bind_awaitOutcome change
      · intro _ later _ valid
        have begun : Change (.unlockPortableVaultBrokerResponse input)
            (receiptVerified session puk inner receipt)
            (receiptVerified session puk inner receipt) later later :=
          .begins valid
        apply Async.Owns.lift
        have checked : (Sync.within sessionOfPage
            (assertVaultSessionMutationAllowed (some operation)) later) =
            (later.session.mutationAllowed (some operation), later) := rfl
        rw [checked]
        cases allowed : later.session.mutationAllowed (some operation) with
        | error error => exact refused error _ _ _ begun
        | ok _ =>
            refine ⟨innerCached session puk inner receipt, ?_, rfl⟩
            have moved := storeCachedEntry_later inner wrappingKey
              later.session
            have kept := begun.valid.later (.within_session later _ moved)
            constructor
            case trace => exact begun.trace
            case valid =>
              exact
                { derived := kept.derived
                  allocated := kept.allocated
                  zeroed := kept.zeroed
                  receipts := kept.receipts }
            case cache =>
              intro other same
              cases same
              exact .inr (commits_innerCached later wrappingKey token allowed)
      · intro error later _ valid
        exact refused error _ _ _ (.begins valid)
    · intro error checked ran
      cases (Prod.mk.inj ran).1
  · intro error checked ran
    obtain ⟨-, rfl⟩ := Prod.mk.inj ran
    exact refused error held start page change

end Caching

section Unlocking

variable {input : PortableVaultBrokerClientUnlockInput}
  {operation : VaultSessionOperation}

/-- Whatever else has happened, zeroing the portable unlock key is all that is
left to do. -/
structure Contained (puk : BufferRef) (now : Custody) : Prop where
  uncached : now.cached = false → ∀ reference ∈ now.live, reference = puk
  unsealed : ∀ reference ∈ now.live, .unsealed reference ∈ now.trace →
    reference = puk

theorem HoldsOnly.contained (only : HoldsOnly puk custody) :
    Contained puk custody :=
  { uncached := fun _ => only.live
    unsealed := fun reference member _ => only.live reference member }

theorem contained_innerCached :
    Contained puk (innerCached session puk inner receipt) := by
  constructor
  case uncached =>
    intro impossible
    cases impossible
  case unsealed =>
    intro reference _ unsealed
    simpa [innerCached, receiptVerified] using unsealed

/-- An unlock under a token succeeds when the cache has been written and the
token is still current. -/
def Confirmed (operation : Option VaultSessionOperation)
    (outcome : Except VaultError PortableVaultBrokerClientUnlockResult)
    (now : Custody) (page : BrokerPage) : Prop :=
  ∀ vaultKey requestId receipt,
    outcome = .ok (.unlocked vaultKey requestId receipt) →
    ∀ token, operation = some token →
      now.cached = true ∧ page.session.mutationAllowed (some token) = .ok ()

theorem resolved_records
    (resolved : callVerifier input.verifyAndConsumeCompletionReceipt receipt =
      .ok ()) (page : BrokerPage) :
    (innerRestored session puk inner).Records
      (.unlockPortableVaultBrokerResponse input) (.receiptResolved receipt)
      [puk, inner] page := by
  constructor
  case secret =>
    intro reference made
    cases made with
    | inl same => cases same
    | inr same => cases same
  case keeps => exact fun _ member => member
  case receipts =>
    constructor
    case exclusive => simp [innerRestored]
    case rejected => simp [innerRestored]
    case resolved =>
      intro other same given member
      cases same
      have isReceipt : given = receipt := by simpa [innerRestored] using member
      rw [isReceipt]
      exact resolved
  all_goals nofun

theorem rejected_records {error : VaultError}
    (rejected : callVerifier input.verifyAndConsumeCompletionReceipt receipt =
      .error error) (page : BrokerPage) :
    (innerRestored session puk inner).Records
      (.unlockPortableVaultBrokerResponse input) (.receiptRejected receipt)
      [puk, inner] page := by
  constructor
  case secret =>
    intro reference made
    cases made with
    | inl same => cases same
    | inr same => cases same
  case keeps => exact fun _ member => member
  case receipts =>
    constructor
    case exclusive => simp [innerRestored]
    case resolved => simp [innerRestored]
    case rejected =>
      intro other same given member
      cases same
      have isReceipt : given = receipt := by simpa [innerRestored] using member
      rw [isReceipt]
      exact ⟨error, rejected⟩
  all_goals nofun

theorem unlockIntoSessionCache_triple
    (response : PortableVaultBrokerUnlockResponse)
    (token : input.operation = some operation) :
    (tracking (.unlockPortableVaultBrokerResponse input)).Triple
      (fun now _ => now = pukUnsealed session puk)
      (unlockIntoSessionCache platform input response operation puk)
      fun outcome now page => Contained puk now ∧
        Confirmed (some operation) outcome now page := by
  have fails : ∀ (error : VaultError) (now : Custody) (page : BrokerPage),
      HoldsOnly puk now → Contained puk now ∧
        Confirmed (some operation) (.error error) now page :=
    fun error now page only => ⟨only.contained, nofun⟩
  have verifies : ∀ inner receipt,
      (tracking (.unlockPortableVaultBrokerResponse input)).Triple
      (fun now _ => now = innerRestored session puk inner)
      (Async.attempt (Async.awaitOutcome
        (callVerifier input.verifyAndConsumeCompletionReceipt receipt)))
      fun outcome now _ => outcome = .ok (callVerifier
          input.verifyAndConsumeCompletionReceipt receipt) ∧
        now = innerRestored session puk inner := by
    intro inner receipt
    apply Async.Tracking.Triple.attempt
    exact .awaitOutcome fun now _ later same _ => ⟨rfl, same⟩
  have checks : ∀ inner receipt,
      (tracking (.unlockPortableVaultBrokerResponse input)).Triple
      (fun now _ => now = innerCached session puk inner receipt)
      (Async.lift (BrokerPage.assertMutationAllowed (some operation)))
      fun outcome now page => Contained puk now ∧ now.cached = true ∧
        outcome = page.session.mutationAllowed (some operation) := by
    intro inner receipt
    apply Async.Tracking.Triple.lift
    apply Async.Tracking.Moves.of_unchanged fun _ => rfl
    intro now page cached
    rw [cached]
    exact ⟨contained_innerCached, rfl, rfl⟩
  apply Async.Tracking.Triple.bind
  · exact .await_claim (unlockWithInnerMaterial_triple _ _ _)
  · intro restored
    apply Async.Tracking.Triple.bind
    · exact (verifies _ _).strengthen fun _ _ restores => restores.1
    · intro verified
      cases verified with
      | error error =>
          apply Async.Tracking.Triple.strengthen (bind_recordEvent
            (fun page rejected => rejected_records rejected page) _)
          · exact fun now page held => ⟨held.2, (Except.ok.inj held.1).symm⟩
          · apply Async.Tracking.Triple.bind
            · apply Async.Tracking.Triple.strengthen (.lift
                (@discharge_moves _ (HoldsOnly puk) _))
              intro now page held
              rw [held]
              exact holdsOnly_discharge rfl rfl
            · intro _
              apply Async.Tracking.Triple.done
              intro now page only
              exact ⟨only.contained, nofun⟩
            · exact fails
      | ok _ =>
          apply Async.Tracking.Triple.strengthen (bind_recordEvent
            (fun page resolved => resolved_records resolved page) _)
          · exact fun now page held => ⟨held.2, (Except.ok.inj held.1).symm⟩
          · apply Async.Tracking.Triple.bind
            · exact .await_claim
                (cacheVaultInnerKeyMaterialFromEnvelopeDecrypt_triple _ _
                  token)
            · intro _
              apply (checks _ _).bind
              · intro _
                apply Async.Tracking.Triple.done
                intro now page current
                refine ⟨current.1, ?_⟩
                intro _ _ _ _ other same
                cases same
                exact ⟨current.2.1, current.2.2.symm⟩
              · intro error now page refused
                exact ⟨refused.1, nofun⟩
            · exact fails
    · intro error now page impossible
      cases impossible.1
  · exact fails

theorem unlockWithoutSessionCache_triple
    (response : PortableVaultBrokerUnlockResponse) :
    (tracking call).Triple (fun now _ => now = pukUnsealed session puk)
      (unlockWithoutSessionCache platform input response puk)
      fun _ now _ => Contained puk now := by
  apply Async.Tracking.Triple.bind
  · exact .await_claim (unlockPortableVaultBrokerEncryptedVaultKey_triple _ _ _)
  · intro vaultKey
    apply Async.Tracking.Triple.bind_unchanged (fun _ => rfl)
    · intro _
      exact .done fun _ _ only => only.contained
    · exact fun _ _ _ only => only.contained
  · exact fun _ _ _ only => only.contained

/-- What is true when an unlock returns. -/
structure Settles (operation : Option VaultSessionOperation)
    (outcome : Except VaultError PortableVaultBrokerClientUnlockResult)
    (now : Custody) (page : BrokerPage) : Prop where
  puk : ∀ reference ∈ now.live, .unsealed reference ∉ now.trace
  inner : now.cached = false → now.live = []
  confirmed : Confirmed operation outcome now page

theorem Settles.of_empty
    {outcome : Except VaultError PortableVaultBrokerClientUnlockResult}
    {page : BrokerPage} (nothing : custody.live = [])
    (confirmed : Confirmed input.operation outcome custody page) :
    Settles input.operation outcome custody page := by
  constructor
  case puk =>
    intro reference member
    rw [nothing] at member
    cases member
  case inner => exact fun _ => nothing
  case confirmed => exact confirmed

/-- Zeroing the portable unlock key settles what is left in the hands of the
task. -/
theorem zeroes_puk
    {program : BrokerAsync PortableVaultBrokerClientUnlockResult}
    (body : (tracking (.unlockPortableVaultBrokerResponse input)).Triple
      (fun now _ => now = pukUnsealed session puk) program
      fun outcome now page => Contained puk now ∧
        Confirmed input.operation outcome now page) :
    (tracking (.unlockPortableVaultBrokerResponse input)).Triple
      (fun now _ => now = pukUnsealed session puk)
      (program.tryFinally (BrokerPage.zeroBuffer puk))
      (Settles input.operation) := by
  apply body.tryFinally
  intro outcome held now start page change ended
  obtain ⟨contained, confirmed⟩ := ended
  refine ⟨now.discharge puk, change.discharge puk, ?_⟩
  constructor
  case puk =>
    intro reference member unsealed
    obtain ⟨live, other⟩ := List.mem_filter.mp member
    have same := contained.unsealed reference live unsealed
    simp [same] at other
  case inner =>
    intro uncached
    apply List.filter_eq_nil_iff.mpr
    intro reference member
    simp [contained.uncached uncached reference member]
  case confirmed => exact confirmed

theorem unlockWithPuk_triple (response : PortableVaultBrokerUnlockResponse) :
    (tracking (.unlockPortableVaultBrokerResponse input)).Triple
      (fun now _ => now = pukUnsealed session puk)
      (unlockWithPuk platform input response puk)
      (Settles input.operation) := by
  apply zeroes_puk
  cases token : input.operation with
  | some operation =>
      apply (unlockIntoSessionCache_triple response token).tryCatch
      · exact fun _ _ _ holds => holds
      · intro error
        apply Async.Tracking.Triple.done
        intro now page failed
        refine ⟨failed.1, ?_⟩
        intro vaultKey requestId receipt unlocked
        cases unlocked
  | none =>
      have untracked : ∀ outcome now page,
          Confirmed none outcome now page := by
        intro outcome now page vaultKey requestId receipt _ operation absent
        cases absent
      apply (unlockWithoutSessionCache_triple response).tryCatch
      · exact fun outcome now page contained =>
          ⟨contained, untracked (.ok outcome) now page⟩
      · intro error
        apply Async.Tracking.Triple.done
        intro now page contained
        exact ⟨contained, untracked _ now page⟩

theorem unlockPortableVaultBrokerResponse_triple :
    (tracking (.unlockPortableVaultBrokerResponse input)).Triple
      (fun now _ => now = {})
      (unlockPortableVaultBrokerResponse platform input)
      (Settles input.operation) := by
  have fails : ∀ (error : VaultError) (now : Custody) (page : BrokerPage),
      now = {} → Settles input.operation (.error error) now page := by
    intro error now page same
    rw [same]
    exact .of_empty rfl nofun
  apply Async.Tracking.Triple.bind_unchanged (fun _ => rfl) _ fails
  intro _
  apply Async.Tracking.Triple.bind_unchanged (fun _ => rfl) _ fails
  intro _
  cases parseUnlockResponse platform input.response with
  | error error =>
      have disposes : (tracking
          (.unlockPortableVaultBrokerResponse input)).Triple
          (fun now _ => now = {}) (Async.lift input.session.dispose)
          fun _ now _ => now = {} := by
        apply Async.Tracking.Triple.lift
        intro held now start page change same
        exact ⟨now, change.dropPrivateKey input.session, same⟩
      apply disposes.bind
      · intro _
        apply Async.Tracking.Triple.done
        intro now page same
        rw [same]
        exact .of_empty rfl nofun
      · exact fails
  | ok response =>
      have unseals : (tracking
          (.unlockPortableVaultBrokerResponse input)).Triple
          (fun now _ => now = {})
          (Async.attempt (Async.await
            (input.session.unseal platform response.sealedPuk)))
          fun outcome now _ => ∃ unsealed, outcome = .ok unsealed ∧
            Unseals input.session unsealed now := by
        apply Async.Tracking.Triple.attempt
        apply (unseal_triple response.sealedPuk).await_claim.weaken
        intro outcome now page unsealed
        exact ⟨outcome, rfl, unsealed⟩
      apply unseals.bind
      · intro unsealed
        cases unsealed with
        | error error =>
            apply Async.Tracking.Triple.done
            intro now page failed
            obtain ⟨_, same, empty⟩ := failed
            cases same
            exact .of_empty empty.2 nofun
        | ok puk =>
            apply (unlockWithPuk_triple response).strengthen
            intro now page unsealed
            obtain ⟨_, same, holds⟩ := unsealed
            cases same
            exact holds
      · intro error now page impossible
        obtain ⟨_, same, -⟩ := impossible
        cases same

end Unlocking

end Custody

end VaultCore
