import VaultCore.Async.Triple
import VaultCore.Broker.Persistence

/-!
# What an unlock has in its hands

A task's custody is what it has recorded so far, the arrays of key material
that it has still to zero and whether it has written the inner key cache.
-/

namespace VaultCore

structure Custody where
  trace : List BrokerEvent := []
  live : List BufferRef := []
  cached : Bool := false

namespace Custody

/-- An array of key material that the task has made. -/
def Secret (custody : Custody) (reference : BufferRef) : Prop :=
  .unsealed reference ∈ custody.trace ∨ .restored reference ∈ custody.trace

/-- What is recorded of the receipts of a call is what its verifier did. -/
structure Verdicts (call : BrokerCall) (trace : List BrokerEvent) : Prop where
  exclusive : ∀ resolved rejected, .receiptResolved resolved ∈ trace →
    .receiptRejected rejected ∉ trace
  resolved : ∀ input, call = .unlockPortableVaultBrokerResponse input →
    ∀ receipt, .receiptResolved receipt ∈ trace →
      callVerifier input.verifyAndConsumeCompletionReceipt receipt = .ok ()
  rejected : ∀ input, call = .unlockPortableVaultBrokerResponse input →
    ∀ receipt, .receiptRejected receipt ∈ trace →
      ∃ error, callVerifier input.verifyAndConsumeCompletionReceipt receipt =
        .error error

theorem Verdicts.of_none {call : BrokerCall} {trace : List BrokerEvent}
    (unresolved : ∀ receipt, .receiptResolved receipt ∉ trace)
    (unrejected : ∀ receipt, .receiptRejected receipt ∉ trace) :
    Verdicts call trace :=
  { exclusive := fun resolved _ member => absurd member (unresolved resolved)
    resolved := fun _ _ receipt member =>
      absurd member (unresolved receipt)
    rejected := fun _ _ receipt member =>
      absurd member (unrejected receipt) }

/-- What the custody says is so on the page. -/
structure Valid (call : BrokerCall) (custody : Custody) (page : BrokerPage) :
    Prop where
  /-- A key is taken for each derivation. -/
  derived : ∀ session, custody.trace.count (.derived session) ≤
    custody.trace.count (.taken session)
  allocated : ∀ reference, custody.Secret reference →
    reference.index < page.session.buffers.length
  zeroed : ∀ reference, custody.Secret reference →
    reference ∉ custody.live → AllZero (page.buffer reference)
  receipts : Verdicts call custody.trace

/-- The cache is written after the receipt has been resolved, with an array
that the task has restored, and under its current token. -/
structure Commits (input : PortableVaultBrokerClientUnlockInput)
    (held now : Custody) (finish : BrokerPage) : Prop where
  before : held.cached = false
  after : now.cached = true
  resolved : ∃ receipt, .receiptResolved receipt ∈ held.trace
  entry : ∃ inner wrappingKey, .restored inner ∈ held.trace ∧
    finish.session.cachedEntry = some { inner, wrappingKey }
  allowed : ∃ operation, input.operation = some operation ∧
    finish.session.mutationAllowed (some operation) = .ok ()

/-- How a segment of a call has changed its custody so far. -/
structure Change (call : BrokerCall) (held now : Custody)
    (start finish : BrokerPage) : Prop where
  trace : ∃ emitted, finish.trace = start.trace ++ emitted ∧
    now.trace = held.trace ++ emitted
  valid : now.Valid call finish
  cache : ∀ input, call = .unlockPortableVaultBrokerResponse input →
    (now.cached = held.cached ∧
      finish.session.cachedEntry = start.session.cachedEntry) ∨
    Commits input held now finish

variable {call : BrokerCall} {held now : Custody}
  {start page finish : BrokerPage}

theorem Valid.later (valid : now.Valid call page)
    (later : Later page finish) : now.Valid call finish := by
  constructor
  case derived => exact valid.derived
  case allocated =>
    intro reference secret
    exact Nat.lt_of_lt_of_le (valid.allocated reference secret)
      later.session.buffers
  case zeroed =>
    intro reference secret gone
    exact later.session.zeros reference (valid.allocated reference secret)
      (valid.zeroed reference secret gone)
  case receipts => exact valid.receipts

theorem Valid.empty (call : BrokerCall) (page : BrokerPage) :
    ({} : Custody).Valid call page :=
  { derived := fun _ => Nat.le_refl _
    allocated := fun _ secret => by
      cases secret with
      | inl made => cases made
      | inr made => cases made
    zeroed := fun _ secret => by
      cases secret with
      | inl made => cases made
      | inr made => cases made
    receipts := .of_none (fun _ => List.not_mem_nil)
      (fun _ => List.not_mem_nil) }

theorem Change.begins (valid : now.Valid call page) :
    Change call now now page page :=
  { trace := ⟨[], (List.append_nil _).symm, (List.append_nil _).symm⟩
    valid
    cache := fun _ _ => .inl ⟨rfl, rfl⟩ }

variable (call) in
/-- The custody of a task, followed over its segments. -/
def tracking : Async.Tracking Custody BrokerPage :=
  { valid := Valid call
    change := Change call
    begins := fun _ _ => Change.begins }

/-- A step that leaves the core of the browser session as it is keeps what has
become of the cache. -/
theorem Change.cache_of_core (change : Change call held now start page)
    {after : Custody} (cached : after.cached = now.cached)
    (core : finish.session.toSessionCore = page.session.toSessionCore) :
    ∀ input, call = .unlockPortableVaultBrokerResponse input →
      (after.cached = held.cached ∧
        finish.session.cachedEntry = start.session.cachedEntry) ∨
      Commits input held after finish := by
  intro input same
  cases change.cache input same with
  | inl kept =>
      refine .inl ⟨cached.trans kept.1, ?_⟩
      rw [core]
      exact kept.2
  | inr commits =>
      refine .inr ⟨commits.before, cached.trans commits.after,
        commits.resolved, ?_, ?_⟩
      · rw [core]
        exact commits.entry
      · rw [core]
        exact commits.allowed

theorem Change.arrays (change : Change call held now start page)
    {session : SessionState} (later : SessionLater page.session session)
    (core : session.toSessionCore = page.session.toSessionCore) :
    Change call held now start { page with session := session } :=
  { trace := change.trace
    valid := change.valid.later (.within_session page session later)
    cache := change.cache_of_core rfl core }

theorem Change.of_session (change : Change call held now start page)
    (apart : ∀ input, call ≠ .unlockPortableVaultBrokerResponse input)
    {session : SessionState} (later : SessionLater page.session session) :
    Change call held now start { page with session := session } :=
  { trace := change.trace
    valid := change.valid.later (.within_session page session later)
    cache := fun input same => absurd same (apart input) }

theorem Change.addPrivateKey (change : Change call held now start page)
    (key : EcdhPrivateKey) :
    Change call held now start (page.addPrivateKey key) :=
  { trace := change.trace
    valid := change.valid.later (.addPrivateKey key page)
    cache := change.cache_of_core rfl rfl }

theorem Change.dropPrivateKey (change : Change call held now start page)
    (session : PortableVaultBrokerUnlockSession) :
    Change call held now start (page.dropPrivateKey session) :=
  { trace := change.trace
    valid := change.valid.later (.dropPrivateKey session page)
    cache := change.cache_of_core rfl rfl }

/-- What recording an event asks of the custody before it. -/
structure Records (call : BrokerCall) (now : Custody) (event : BrokerEvent)
    (live : List BufferRef) (page : BrokerPage) : Prop where
  derives : ∀ session, event = .derived session →
    now.trace.count (.derived session) < now.trace.count (.taken session)
  secret : ∀ reference, event = .unsealed reference ∨
      event = .restored reference →
    reference.index < page.session.buffers.length ∧ reference ∈ live
  keeps : ∀ reference ∈ now.live, reference ∈ live
  receipts : Verdicts call (now.trace ++ [event])

theorem Valid.record {event : BrokerEvent} {live : List BufferRef}
    (valid : now.Valid call page)
    (records : now.Records call event live page) :
    ({ now with trace := now.trace ++ [event], live := live } : Custody).Valid
      call (page.record event) := by
  have split : ∀ reference,
      ({ now with trace := now.trace ++ [event], live } : Custody).Secret
        reference →
      now.Secret reference ∨
        event = .unsealed reference ∨ event = .restored reference := by
    intro reference secret
    simp only [Secret, List.mem_append, List.mem_singleton] at secret ⊢
    grind
  constructor
  case derived =>
    intro session
    have before := valid.derived session
    simp only [List.count_append, List.count_singleton]
    by_cases same : event = .derived session
    · have room := records.derives session same
      subst same
      simp only [beq_self_eq_true, if_true]
      omega
    · have other : (event == .derived session) = false := by simpa using same
      simp only [other, Bool.false_eq_true, if_false]
      omega
  case allocated =>
    intro reference secret
    cases split reference secret with
    | inl earlier => exact valid.allocated reference earlier
    | inr new => exact (records.secret reference new).1
  case zeroed =>
    intro reference secret gone
    cases split reference secret with
    | inl earlier =>
        apply valid.zeroed reference earlier
        intro live
        exact gone (records.keeps reference live)
    | inr new => exact absurd (records.secret reference new).2 gone
  case receipts => exact records.receipts

theorem Change.record {event : BrokerEvent} {live : List BufferRef}
    (change : Change call held now start page)
    (records : now.Records call event live page) :
    Change call held
      { now with trace := now.trace ++ [event], live := live } start
      (page.record event) := by
  obtain ⟨emitted, written, recorded⟩ := change.trace
  constructor
  case trace =>
    refine ⟨emitted ++ [event], ?_, ?_⟩
    · simp only [BrokerPage.record, written, List.append_assoc]
    · simp only [recorded, List.append_assoc]
  case valid => exact change.valid.record records
  case cache => exact change.cache_of_core rfl rfl

/-- The custody without an array that has been zeroed. -/
def discharge (reference : BufferRef) (custody : Custody) : Custody :=
  { custody with live := custody.live.filter (· ≠ reference) }

theorem Change.discharge (change : Change call held now start page)
    (reference : BufferRef) :
    Change call held (now.discharge reference) start
      (page.zeroBuffer reference) := by
  have zeroed := change.arrays (.zeroBuffer reference page.session) rfl
  constructor
  case trace => exact zeroed.trace
  case cache => exact zeroed.cache_of_core rfl rfl
  case valid =>
    constructor
    case derived => exact zeroed.valid.derived
    case allocated => exact zeroed.valid.allocated
    case receipts => exact zeroed.valid.receipts
    case zeroed =>
      intro other secret gone
      by_cases same : other = reference
      · rw [same]
        exact allZero_zeroedBuffers
      · apply zeroed.valid.zeroed other secret
        intro live
        exact gone (List.mem_filter.mpr ⟨live, by simpa using same⟩)

end Custody

end VaultCore
