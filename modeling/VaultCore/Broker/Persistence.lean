import VaultCore.Async.Conduct
import VaultCore.Broker.UnlockResponse
import VaultCore.Session.CacheIntegrity
import VaultCore.Session.LeaseCoherence

/-!
# What stays as it is once it is so

No program of the page undoes a zeroed array, a dropped private key, a stale
token or a recorded event.  A private key is taken only from a session that
still has it.
-/

namespace VaultCore

/-- A later state of the browser session: arrays are added or zeroed, and
stale tokens stay stale. -/
structure SessionLater (start finish : SessionState) : Prop where
  buffers : start.buffers.length ≤ finish.buffers.length
  zeros : ∀ reference : BufferRef, reference.index < start.buffers.length →
    AllZero (start.buffer reference) → AllZero (finish.buffer reference)
  stale : ∀ operation, StaleOperation operation start.toSessionCore →
    StaleOperation operation finish.toSessionCore

namespace SessionLater

theorem refl (state : SessionState) : SessionLater state state :=
  { buffers := Nat.le_refl _
    zeros := fun _ _ zero => zero
    stale := fun _ stale => stale }

theorem trans {start middle finish : SessionState}
    (first : SessionLater start middle)
    (second : SessionLater middle finish) : SessionLater start finish := by
  constructor
  case buffers => exact Nat.le_trans first.buffers second.buffers
  case zeros =>
    intro reference bound zero
    exact second.zeros reference (Nat.lt_of_lt_of_le bound first.buffers)
      (first.zeros reference bound zero)
  case stale =>
    intro operation stale
    exact second.stale operation (first.stale operation stale)

instance : Std.Refl SessionLater := ⟨refl⟩

instance : IsTrans SessionState SessionLater := ⟨fun _ _ _ => trans⟩

theorem of_step {zeroed : Option BufferRef} {start finish : SessionState}
    (step : BufferStep zeroed start.buffers finish.buffers)
    (stale : ∀ operation, StaleOperation operation start.toSessionCore →
      StaleOperation operation finish.toSessionCore) :
    SessionLater start finish :=
  { buffers := step.grows
    zeros := fun _ bound zero => step.allZero bound zero
    stale }

theorem zeroBuffer (reference : BufferRef) (state : SessionState) :
    SessionLater state (state.zeroBuffer reference) := by
  have step := @BufferStep.zero state.buffers reference []
  rw [List.append_nil] at step
  exact of_step step fun _ stale => stale

theorem clearCachedEntry (state : SessionState) :
    SessionLater state state.clearCachedEntry := by
  apply of_step (bufferStep_clearCachedEntry state)
  intro operation stale
  rw [clearCachedEntry_core]
  exact stale

theorem lockVaultSession (state : SessionState) :
    SessionLater state (VaultCore.lockVaultSession state).2 := by
  have step := bufferStep_clearCachedEntry state
  rw [← lockVaultSession_buffers] at step
  apply of_step step
  intro operation stale
  have effect : SessionEffect none .none state.toSessionCore _ :=
    lockVaultSession_effect state
  exact stale.step effect

end SessionLater

section Session

variable {operation : Option VaultSessionOperation}

theorem assertVaultSessionMutationAllowed_later :
    (assertVaultSessionMutationAllowed operation).Respects SessionLater :=
  .of_unchanged fun _ => rfl

theorem allocateBuffer_later (bytes : Bytes) :
    (allocateBuffer bytes).Respects SessionLater := by
  intro state
  apply SessionLater.of_step (.append [bytes])
  intro operation stale
  exact stale

theorem zeroSensitiveBytes_later (reference : BufferRef) :
    (zeroSensitiveBytes reference).Respects SessionLater :=
  SessionLater.zeroBuffer reference

theorem storeCachedEntry_later (inner : BufferRef) (wrappingKey : CryptoKey) :
    (storeCachedEntry inner wrappingKey).Respects SessionLater := by
  apply Sync.Respects.bind
  · exact SessionLater.clearCachedEntry
  · intro _ state
    exact SessionLater.of_step .refl fun _ stale => stale

theorem cacheVaultInnerKeyMaterialFromEnvelopeDecrypt_later
    (platform : Platform) (inner : BufferRef)
    (wrappingKey sessionVaultKey : CryptoKey) :
    (cacheVaultInnerKeyMaterialFromEnvelopeDecrypt platform inner wrappingKey
      sessionVaultKey operation).Respects SessionLater := by
  apply Async.Respects.bind
  · apply Async.Respects.tryCatch
    · apply Async.Respects.bind
      · exact .lift assertVaultSessionMutationAllowed_later
      · intro _
        apply Async.Respects.bind (.lift (.of_unchanged fun _ => rfl))
        intro state
        apply Async.Respects.bind (.awaitOutcome _)
        intro _
        exact .lift assertVaultSessionMutationAllowed_later
    · intro error
      apply Async.Respects.bind (.lift (zeroSensitiveBytes_later inner))
      intro _
      trivial
  · intro _
    exact .lift (storeCachedEntry_later inner wrappingKey)

theorem lockVaultSession_later : lockVaultSession.Respects SessionLater :=
  SessionLater.lockVaultSession

theorem mutate_later {update : SessionCore → SessionCore}
    (stale : ∀ operation core, StaleOperation operation core →
      StaleOperation operation (update core)) :
    (mutate update).Respects SessionLater := by
  intro state
  exact .of_step .refl fun operation held => stale operation _ held

theorem beginVaultSessionUnlock_later (ownerId : JsString) :
    (beginVaultSessionUnlock ownerId).Respects SessionLater := by
  have issues : Sync.Respects SessionLater (do
      let issuing ← Sync.get
      mutate (SessionCore.issueVaultSessionOperation ownerId)
      return issuing.nextOperation : SessionSync VaultSessionOperation) := by
    apply Sync.Respects.bind
    · exact .of_unchanged fun _ => rfl
    · intro issuing
      apply Sync.Respects.bind
      · apply mutate_later
        intro operation core stale
        exact .issue ownerId stale.1
      · intro _
        exact .of_unchanged fun _ => rfl
  apply Sync.Respects.bind
  · exact .of_unchanged fun _ => rfl
  · intro _
    apply Sync.Respects.bind
    · exact .of_unchanged fun _ => rfl
    · intro state
      simp only
      split
      · apply Sync.Respects.bind lockVaultSession_later
        intro _
        apply Sync.Respects.bind
        · exact mutate_later fun _ _ stale => stale
        · exact fun _ => issues
      · exact issues

theorem clearVaultSessionOwner_later :
    clearVaultSessionOwner.Respects SessionLater := by
  apply Sync.Respects.bind lockVaultSession_later
  intro _
  apply Sync.Respects.bind
  · exact mutate_later fun _ _ stale => stale
  · intro _
    apply mutate_later
    intro operation core stale
    exact .of_other stale.1 nofun

theorem sessionEnvironment_later (event : SessionEvent)
    (state : SessionState) :
    SessionLater state (sessionEnvironment event state) := by
  cases event with
  | clock time => exact .of_step .refl fun _ stale => stale
  | timerFires handle =>
      simp only [sessionEnvironment]
      cases state.timeouts.fire state.now handle with
      | none => exact .refl state
      | some timeouts =>
          have later := SessionLater.lockVaultSession { state with timeouts }
          exact ⟨later.buffers, later.zeros, later.stale⟩
  | configureVaultSession config => exact .of_step .refl fun _ stale => stale
  | callbacks listeners lockCleanupHandlers =>
      exact .of_step .refl fun _ stale => stale
  | allocate bytes => exact .of_step (.append [bytes]) fun _ stale => stale

end Session

/-- The session has no private key any more. -/
def BrokerPage.Closed (session : PortableVaultBrokerUnlockSession)
    (page : BrokerPage) : Prop :=
  page.privateKeys[session.index]? = some none

/-- What is recorded of keys taken from their sessions. -/
structure TakenOnce (start finish : BrokerPage) (emitted : List BrokerEvent) :
    Prop where
  once : ∀ session, emitted.count (.taken session) ≤ 1
  available : ∀ session, .taken session ∈ emitted →
    ¬ start.Closed session ∧ finish.Closed session

/-- A later state of the page. -/
structure Later (start finish : BrokerPage) : Prop where
  session : SessionLater start.session finish.session
  closed : ∀ session, start.Closed session → finish.Closed session
  emitted : ∃ emitted, finish.trace = start.trace ++ emitted ∧
    TakenOnce start finish emitted

namespace Later

theorem refl (page : BrokerPage) : Later page page :=
  { session := .refl page.session
    closed := fun _ closed => closed
    emitted := ⟨[], (List.append_nil _).symm,
      { once := fun _ => Nat.zero_le _
        available := nofun }⟩ }

theorem trans {start middle finish : BrokerPage}
    (first : Later start middle) (second : Later middle finish) :
    Later start finish := by
  obtain ⟨earlier, begun, takenBefore⟩ := first.emitted
  obtain ⟨later, ended, takenAfter⟩ := second.emitted
  constructor
  case session => exact first.session.trans second.session
  case closed =>
    intro session closed
    exact second.closed session (first.closed session closed)
  case emitted =>
    refine ⟨earlier ++ later, ?_, ?_⟩
    · rw [ended, begun, List.append_assoc]
    · constructor
      case once =>
        intro session
        rw [List.count_append]
        by_cases taken : .taken session ∈ earlier
        · -- The key is gone, so it is not taken again.
          have none : later.count (.taken session) = 0 := by
            apply List.count_eq_zero_of_not_mem
            intro again
            exact (takenAfter.available session again).1
              (takenBefore.available session taken).2
          rw [none]
          exact takenBefore.once session
        · rw [List.count_eq_zero_of_not_mem taken, Nat.zero_add]
          exact takenAfter.once session
      case available =>
        intro session member
        cases List.mem_append.mp member with
        | inl taken =>
            obtain ⟨here, gone⟩ := takenBefore.available session taken
            exact ⟨here, second.closed session gone⟩
        | inr taken =>
            obtain ⟨here, gone⟩ := takenAfter.available session taken
            exact ⟨fun closed => here (first.closed session closed), gone⟩

instance : Std.Refl Later := ⟨refl⟩

instance : IsTrans BrokerPage Later := ⟨fun _ _ _ => trans⟩

theorem of_session {start finish : BrokerPage} {emitted : List BrokerEvent}
    (session : SessionLater start.session finish.session)
    (closed : ∀ session, start.Closed session → finish.Closed session)
    (trace : finish.trace = start.trace ++ emitted)
    (untaken : ∀ session, .taken session ∉ emitted) : Later start finish :=
  { session
    closed
    emitted := ⟨emitted, trace,
      { once := fun session => by
          rw [List.count_eq_zero_of_not_mem (untaken session)]
          exact Nat.zero_le _
        available := fun session member =>
          absurd member (untaken session) }⟩ }

theorem within_session (page : BrokerPage) (state : SessionState)
    (later : SessionLater page.session state) :
    Later page { page with session := state } :=
  of_session later (fun _ closed => closed) (List.append_nil _).symm nofun

theorem addPrivateKey (key : EcdhPrivateKey) (page : BrokerPage) :
    Later page (page.addPrivateKey key) := by
  have trace : (page.addPrivateKey key).trace = page.trace ++ [] :=
    (List.append_nil _).symm
  apply @of_session page (page.addPrivateKey key) [] (.refl _) _ trace nofun
  intro session closed
  obtain ⟨bound, -⟩ := List.getElem?_eq_some_iff.mp closed
  exact (List.getElem?_append_left bound).trans closed

theorem dropPrivateKey (session : PortableVaultBrokerUnlockSession)
    (page : BrokerPage) : Later page (page.dropPrivateKey session) := by
  have trace : (page.dropPrivateKey session).trace = page.trace ++ [] :=
    (List.append_nil _).symm
  apply @of_session page (page.dropPrivateKey session) [] (.refl _) _ trace
    nofun
  intro other closed
  simp only [BrokerPage.Closed, BrokerPage.dropPrivateKey,
    List.getElem?_set] at closed ⊢
  split
  · rename_i same
    rw [if_pos (by
      obtain ⟨bound, -⟩ := List.getElem?_eq_some_iff.mp closed
      omega)]
  · exact closed

theorem zeroBuffer (reference : BufferRef) (page : BrokerPage) :
    Later page (page.zeroBuffer reference) :=
  within_session page _ (.zeroBuffer reference page.session)

theorem record {event : BrokerEvent} (page : BrokerPage)
    (untaken : ∀ session, event ≠ .taken session) :
    Later page (page.record event) := by
  apply @of_session page (page.record event) [event] (.refl _)
    (fun _ closed => closed) rfl
  intro session member
  exact untaken session (List.mem_singleton.mp member).symm

end Later

theorem within_later {α : Type} {code : SessionSync α}
    (respects : code.Respects SessionLater) :
    (code.within sessionOfPage).Respects Later :=
  fun page => .within_session page _ (respects page.session)

theorem BrokerPage.privateKey_some {page : BrokerPage}
    {session : PortableVaultBrokerUnlockSession} {key : EcdhPrivateKey} :
    page.privateKey session = some key ↔
      page.privateKeys[session.index]? = some (some key) := by
  unfold BrokerPage.privateKey
  cases page.privateKeys[session.index]? with
  | none => simp
  | some held => simp

/-- The key is taken only from a session that has it, which then is closed. -/
theorem takePrivateKey_later (session : PortableVaultBrokerUnlockSession) :
    (takePrivateKey session).Respects Later := by
  intro page
  simp only [takePrivateKey, Sync.bind_apply, Sync.get_apply]
  cases held : page.privateKey session with
  | none => exact .refl page
  | some key =>
      have present := BrokerPage.privateKey_some.mp held
      obtain ⟨bound, -⟩ := List.getElem?_eq_some_iff.mp present
      have dropped := Later.dropPrivateKey session page
      constructor
      case session => exact .refl page.session
      case closed => exact dropped.closed
      case emitted =>
        refine ⟨[.taken session], rfl, ?_⟩
        constructor
        case once =>
          intro other
          exact List.count_le_length
        case available =>
          intro other member
          cases List.mem_singleton.mp member
          constructor
          · intro closed
            rw [BrokerPage.Closed, present] at closed
            cases closed
          · exact List.getElem?_set_self bound

section Programs

variable {α : Type} {platform : BrokerSessionPlatform}

theorem recordEvent_later (event : BrokerEvent)
    (untaken : ∀ session, event ≠ .taken session) :
    (recordEvent event).Respects Later :=
  fun page => .record page untaken

theorem allocatePageBuffer_later (bytes : Bytes) :
    (allocatePageBuffer bytes).Respects Later :=
  within_later (allocateBuffer_later bytes)

theorem decodeFieldBuffer_later (text : JsString) (maxBytes : Nat) :
    (decodeFieldBuffer text maxBytes).Respects Later := by
  apply Sync.Respects.bind
  · exact .of_unchanged fun _ => rfl
  · exact allocatePageBuffer_later

theorem assertMutationAllowed_later
    (operation : Option VaultSessionOperation) :
    (BrokerPage.assertMutationAllowed operation).Respects Later :=
  within_later assertVaultSessionMutationAllowed_later

theorem unchanged_later {code : BrokerSync α}
    (unchanged : ∀ page, (code page).2 = page) :
    (Async.lift code).Respects Later :=
  .lift (.of_unchanged unchanged)

theorem withZeroedBuffer_later {create : BrokerSync BufferRef}
    {work : BufferRef → BrokerAsync α} (creates : create.Respects Later)
    (works : ∀ buffer, (work buffer).Respects Later) :
    (withZeroedBuffer create work).Respects Later := by
  apply Async.Respects.bind (.lift creates)
  intro buffer
  exact .tryFinally (works buffer) (Later.zeroBuffer buffer)

theorem decryptSealedPuk_later
    (sharedBits salt iv ciphertext info : BufferRef) :
    (decryptSealedPuk platform sharedBits salt iv ciphertext
      info).Respects Later := by
  apply Async.Respects.bind (unchanged_later fun _ => rfl)
  intro _
  apply Async.Respects.bind (.awaitOutcome _)
  intro _
  apply Async.Respects.bind (unchanged_later fun _ => rfl)
  intro _
  apply Async.Respects.bind (.awaitOutcome _)
  intro _
  apply Async.Respects.bind (unchanged_later fun _ => rfl)
  intro _
  apply Async.Respects.bind (.awaitOutcome _)
  intro bytes
  apply Async.Respects.bind (.lift (allocatePageBuffer_later bytes))
  intro plaintext
  apply Async.Respects.bind
    (.lift (recordEvent_later (.unsealed plaintext) fun _ => nofun))
  intro _
  split
  · apply Async.Respects.bind (.lift (.modify (Later.zeroBuffer plaintext)))
    intro _
    trivial
  · trivial

theorem unsealPuk_later (session : PortableVaultBrokerUnlockSession)
    (privateKey : EcdhPrivateKey)
    (sealedPuk : PortableVaultBrokerSealedPuk) :
    (unsealPuk platform session privateKey sealedPuk).Respects Later := by
  apply Async.Respects.bind (.awaitOutcome _)
  intro brokerPublicKey
  apply Async.Respects.bind
    (.lift (recordEvent_later (.derived session) fun _ => nofun))
  intro _
  apply Async.Respects.bind (.awaitOutcome _)
  intro bits
  apply withZeroedBuffer_later (allocatePageBuffer_later bits.val)
  intro sharedBits
  apply withZeroedBuffer_later (decodeFieldBuffer_later _ _)
  intro salt
  apply withZeroedBuffer_later (decodeFieldBuffer_later _ _)
  intro iv
  apply withZeroedBuffer_later (decodeFieldBuffer_later _ _)
  intro ciphertext
  apply Async.Respects.bind (unchanged_later fun _ => rfl)
  intro page
  split
  · trivial
  · apply withZeroedBuffer_later (allocatePageBuffer_later _)
    exact decryptSealedPuk_later sharedBits salt iv ciphertext

theorem unseal_later (session : PortableVaultBrokerUnlockSession)
    (sealedPuk : PortableVaultBrokerSealedPuk) :
    (session.unseal platform sealedPuk).Respects Later := by
  apply Async.Respects.bind (.lift (takePrivateKey_later session))
  intro oneUseKey
  exact .await (unsealPuk_later session oneUseKey sealedPuk)

theorem dispose_later (session : PortableVaultBrokerUnlockSession) :
    session.dispose.Respects Later :=
  .modify (Later.dropPrivateKey session)

theorem createPortableVaultBrokerUnlockSession_later (pair : EcdhKeyPair) :
    (createPortableVaultBrokerUnlockSession platform pair).Respects
      Later := by
  apply Async.Respects.bind (.awaitOutcome _)
  intro generated
  apply Async.Respects.bind (.awaitOutcome _)
  intro exported
  apply Async.Respects.bind (unchanged_later fun _ => rfl)
  intro publicJwk
  apply Async.Respects.bind (.awaitOutcome _)
  intro thumbprint
  apply Async.Respects.bind (unchanged_later fun _ => rfl)
  intro page
  apply Async.Respects.bind (.lift (.modify (Later.addPrivateKey _)))
  intro _
  trivial

theorem unwrapUserVaultKeyWithDerivedKeysAndInnerMaterial_later
    (encryptedVaultKey : EncryptedVaultPayload) (derivedKeys : DerivedKeys) :
    (BrokerPage.unwrapUserVaultKeyWithDerivedKeysAndInnerMaterial
      platform.toBrokerPlatform encryptedVaultKey derivedKeys).Respects
      Later := by
  apply Async.Respects.bind (.awaitOutcome _)
  intro bytes
  apply Async.Respects.bind (.lift (allocatePageBuffer_later bytes))
  intro inner
  apply Async.Respects.bind
    (.lift (recordEvent_later (.restored inner) fun _ => nofun))
  intro _
  apply Async.Respects.tryCatch
  · apply Async.Respects.bind (.awaitOutcome _)
    intro vaultKey
    trivial
  · intro error
    apply Async.Respects.bind (.lift (.modify (Later.zeroBuffer inner)))
    intro _
    trivial

theorem derivePortableVaultKeys_later (puk : BufferRef) :
    (BrokerPage.derivePortableVaultKeys platform.toBrokerPlatform
      puk).Respects Later := by
  apply Async.Respects.bind (unchanged_later fun _ => rfl)
  intro page
  exact .awaitOutcome _

variable (response : PortableVaultBrokerUnlockResponse)
  (input : PortableVaultBrokerClientUnlockInput) (puk : BufferRef)

theorem unlockIntoSessionCache_later (operation : VaultSessionOperation) :
    (unlockIntoSessionCache platform input response operation
      puk).Respects Later := by
  apply Async.Respects.bind
  · apply Async.Respects.await
    apply Async.Respects.bind (unchanged_later fun _ => rfl)
    intro _
    apply Async.Respects.bind (.await (derivePortableVaultKeys_later puk))
    intro derivedKeys
    apply Async.Respects.bind
    · apply Async.Respects.await
      exact unwrapUserVaultKeyWithDerivedKeysAndInnerMaterial_later _ _
    · intro _
      trivial
  · intro restored
    apply Async.Respects.bind (.attempt (.awaitOutcome _))
    intro verified
    cases verified with
    | error error =>
        apply Async.Respects.bind
          (.lift (recordEvent_later (.receiptRejected _) fun _ => nofun))
        intro _
        apply Async.Respects.bind (.lift (.modify (Later.zeroBuffer _)))
        intro _
        trivial
    | ok _ =>
        apply Async.Respects.bind
          (.lift (recordEvent_later (.receiptResolved _) fun _ => nofun))
        intro _
        apply Async.Respects.bind
        · apply Async.Respects.await
          apply Async.Respects.within
            (cacheVaultInnerKeyMaterialFromEnvelopeDecrypt_later _ _ _ _)
          exact Later.within_session
        · intro _
          apply Async.Respects.bind (.lift (assertMutationAllowed_later _))
          intro _
          trivial

theorem unlockWithoutSessionCache_later :
    (unlockWithoutSessionCache platform input response puk).Respects
      Later := by
  apply Async.Respects.bind
  · apply Async.Respects.await
    apply Async.Respects.bind (unchanged_later fun _ => rfl)
    intro _
    apply Async.Respects.bind (.await (derivePortableVaultKeys_later puk))
    intro derivedKeys
    apply Async.Respects.await
    apply Async.Respects.bind
    · apply Async.Respects.await
      exact unwrapUserVaultKeyWithDerivedKeysAndInnerMaterial_later _ _
    · intro unwrapped
      exact .tryFinally trivial (Later.zeroBuffer unwrapped.2)
  · intro _
    apply Async.Respects.bind (.lift (assertMutationAllowed_later _))
    intro _
    trivial

theorem unlockPortableVaultBrokerResponse_later :
    (unlockPortableVaultBrokerResponse platform input).Respects Later := by
  apply Async.Respects.bind (.lift (assertMutationAllowed_later _))
  intro _
  apply Async.Respects.bind (unchanged_later fun _ => rfl)
  intro _
  cases parseUnlockResponse platform input.response with
  | error error =>
      apply Async.Respects.bind (.lift (dispose_later input.session))
      intro _
      trivial
  | ok response =>
      apply Async.Respects.bind
      · exact .attempt (.await (unseal_later input.session _))
      · intro unsealed
        cases unsealed with
        | error error => trivial
        | ok puk =>
            apply Async.Respects.tryFinally _ (Later.zeroBuffer puk)
            apply Async.Respects.tryCatch
            · cases input.operation with
              | some operation =>
                  exact unlockIntoSessionCache_later response input puk
                    operation
              | none =>
                  exact unlockWithoutSessionCache_later response input puk
            · intro error
              trivial

theorem brokerProgram_later (call : BrokerCall) :
    (brokerProgram platform call).Respects Later := by
  cases call with
  | createPortableVaultBrokerUnlockSession pair =>
      apply Async.Respects.bind
        (createPortableVaultBrokerUnlockSession_later pair)
      exact fun _ => trivial
  | unsealSession session sealedPuk =>
      apply Async.Respects.bind (unseal_later session sealedPuk)
      exact fun _ => trivial
  | dispose session =>
      apply Async.Respects.bind (.lift (dispose_later session))
      exact fun _ => trivial
  | unlockPortableVaultBrokerResponse input =>
      apply Async.Respects.bind (unlockPortableVaultBrokerResponse_later input)
      exact fun _ => trivial
  | beginVaultSessionUnlock ownerId =>
      apply Async.Respects.bind
        (.lift (within_later (beginVaultSessionUnlock_later ownerId)))
      exact fun _ => trivial
  | lockVaultSession =>
      apply Async.Respects.bind (.lift (within_later lockVaultSession_later))
      exact fun _ => trivial
  | clearVaultSessionOwner =>
      apply Async.Respects.bind
        (.lift (within_later clearVaultSessionOwner_later))
      exact fun _ => trivial

end Programs

/-- Whatever happens on the page, it is a later state of the page. -/
theorem brokerMachine_conduct (platform : BrokerSessionPlatform) :
    (brokerMachine platform).Conduct Later :=
  { programs := brokerProgram_later
    environment := fun event page =>
      .within_session page _ (sessionEnvironment_later event page.session) }

end VaultCore
