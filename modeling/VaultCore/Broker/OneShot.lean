import VaultCore.Async.Balance
import VaultCore.Broker.UnlockCustody
import VaultCore.Envelopes.RoundTrip

/-!
# One use, and nothing left behind

In every run of the page a private key is used for at most one derivation, and
an unlock that has returned has zeroed its portable unlock key, and its inner
blob unless the cache has it.
-/

namespace VaultCore

section Calls

variable {platform : BrokerSessionPlatform}

/-- What is true when a call has ended. -/
def BrokerCall.Settles (call : BrokerCall)
    (outcome : Except VaultError BrokerValue) (now : Custody)
    (page : BrokerPage) : Prop :=
  ∀ input, call = .unlockPortableVaultBrokerResponse input →
    ∃ result, outcome = result.map .result ∧
      Custody.Settles input.operation result now page

open Async.Tracking (Triple Moves)

/-- A call that only runs session code. -/
theorem sessionCall_triple {α : Type} {call : BrokerCall}
    {code : SessionSync α} (value : α → BrokerValue)
    (apart : ∀ input, call ≠ .unlockPortableVaultBrokerResponse input)
    (respects : code.Respects SessionLater) :
    (Custody.tracking call).Triple (fun now _ => now = {})
      (do
        let result ← Async.lift (code.within sessionOfPage)
        return value result : BrokerAsync BrokerValue)
      call.Settles := by
  have settles : ∀ outcome now page, call.Settles outcome now page :=
    fun _ _ _ input same => absurd same (apart input)
  have moves : (Custody.tracking call).Triple (fun now _ => now = {})
      (Async.lift (code.within sessionOfPage) : BrokerAsync α)
      fun _ _ _ => True := by
    apply Triple.lift
    intro held now start page change _
    exact ⟨now, change.of_session apart (respects page.session), trivial⟩
  apply moves.bind
  · intro result
    exact .done fun now page _ => settles _ now page
  · exact fun error now page _ => settles _ now page

theorem createCall_triple (pair : EcdhKeyPair) :
    (Custody.tracking (.createPortableVaultBrokerUnlockSession pair)).Triple
      (fun now _ => now = {})
      (brokerProgram platform (.createPortableVaultBrokerUnlockSession pair))
      (BrokerCall.createPortableVaultBrokerUnlockSession pair).Settles := by
  have settles : ∀ outcome now page,
      (BrokerCall.createPortableVaultBrokerUnlockSession pair).Settles outcome
        now page := fun _ _ _ => nofun
  have creates : (Custody.tracking
      (.createPortableVaultBrokerUnlockSession pair)).Triple
      (fun now _ => now = {})
      (createPortableVaultBrokerUnlockSession platform pair)
      fun _ _ _ => True := by
    apply Triple.bind_awaitOutcome _ fun _ _ _ _ _ => trivial
    intro generated _
    apply Triple.bind_awaitOutcome _ fun _ _ _ _ _ => trivial
    intro exported _
    apply Triple.bind_unchanged (fun _ => rfl) _ fun _ _ _ _ => trivial
    intro publicJwk
    apply Triple.bind_awaitOutcome _ fun _ _ _ _ _ => trivial
    intro thumbprint _
    apply Triple.bind_unchanged (fun _ => rfl) _ fun _ _ _ _ => trivial
    intro page
    have adds : (Custody.tracking
        (.createPortableVaultBrokerUnlockSession pair)).Triple
        (fun now _ => now = {})
        (Async.lift (Sync.modify (BrokerPage.addPrivateKey
          generated.privateKey)) : BrokerAsync Unit)
        fun _ _ _ => True := by
      apply Triple.lift
      intro held now start page change _
      exact ⟨now, change.addPrivateKey _, trivial⟩
    apply adds.bind
    · exact fun _ => .done fun _ _ _ => trivial
    · exact fun _ _ _ _ => trivial
  apply creates.bind
  · exact fun created => .done fun now page _ => settles _ now page
  · exact fun error now page _ => settles _ now page

theorem brokerProgram_triple (call : BrokerCall) :
    (Custody.tracking call).Triple (fun now _ => now = {})
      (brokerProgram platform call) call.Settles := by
  cases call with
  | createPortableVaultBrokerUnlockSession pair =>
      exact createCall_triple pair
  | unsealSession session sealedPuk =>
      apply (Custody.unseal_triple sealedPuk).bind
      · intro puk
        exact .done fun _ _ _ => nofun
      · exact fun _ _ _ _ => nofun
  | dispose session =>
      have drops : (Custody.tracking (.dispose session)).Triple
          (fun now _ => now = {})
          (Async.lift session.dispose) fun _ _ _ => True := by
        apply Triple.lift
        intro held now start page change _
        exact ⟨now, change.dropPrivateKey session, trivial⟩
      apply drops.bind
      · intro _
        exact .done fun _ _ _ => nofun
      · exact fun _ _ _ _ => nofun
  | unlockPortableVaultBrokerResponse input =>
      apply Custody.unlockPortableVaultBrokerResponse_triple.bind
      · intro result
        apply Triple.done
        intro now page settles other same
        cases same
        exact ⟨.ok result, rfl, settles⟩
      · intro error now page settles other same
        cases same
        exact ⟨.error error, rfl, settles⟩
  | beginVaultSessionUnlock ownerId =>
      exact sessionCall_triple _ nofun (beginVaultSessionUnlock_later ownerId)
  | lockVaultSession =>
      exact sessionCall_triple _ nofun lockVaultSession_later
  | clearVaultSessionOwner =>
      exact sessionCall_triple _ nofun clearVaultSessionOwner_later

theorem brokerProgram_owns (call : BrokerCall) (page : BrokerPage) :
    (brokerProgram platform call).Owns (Custody.Valid call)
      (Custody.Change call)
      (fun outcome held start finish => ∃ after,
        Custody.Change call held after start finish ∧
          call.Settles outcome after finish) {} page page :=
  brokerProgram_triple call {} {} page page (.begins (.empty call page)) rfl

end Calls

section Segments

variable {call : BrokerCall} {ran : List (BrokerPage × BrokerPage)}
  {kept : Custody}

/-- What a segment records. -/
def emittedIn (segment : BrokerPage × BrokerPage) : List BrokerEvent :=
  segment.2.trace.drop segment.1.trace.length

/-- What the segments of a task have recorded. -/
def eventsOf (ran : List (BrokerPage × BrokerPage)) : List BrokerEvent :=
  ran.flatMap emittedIn

theorem Custody.Change.emittedIn {held : Custody} {start finish : BrokerPage}
    (change : Custody.Change call held kept start finish) :
    kept.trace = held.trace ++ VaultCore.emittedIn (start, finish) := by
  obtain ⟨emitted, written, recorded⟩ := change.trace
  rw [recorded, VaultCore.emittedIn, written, List.drop_left]

theorem eventsOf_append (earlier later : List (BrokerPage × BrokerPage)) :
    eventsOf (earlier ++ later) = eventsOf earlier ++ eventsOf later :=
  List.flatMap_append

theorem trace_eq_eventsOf (history : Async.Ran (Custody.Change call) {} ran
    kept) : kept.trace = eventsOf ran := by
  induction history with
  | nil => rfl
  | @snoc ran held kept start finish history change ih =>
      rw [change.emittedIn, ih, eventsOf_append]
      simp [eventsOf]

theorem derived_le_taken (history : Async.Ran (Custody.Change call) {} ran
    kept) (session : PortableVaultBrokerUnlockSession) :
    (eventsOf ran).count (.derived session) ≤
      (eventsOf ran).count (.taken session) := by
  rw [← trace_eq_eventsOf history]
  cases history with
  | nil => exact Nat.le_refl _
  | snoc history change => exact change.valid.derived session

/-- The segment writes the cache: after the receipt has been resolved, with an
array that the task has restored, and under its current token. -/
structure CommitsCache (input : PortableVaultBrokerClientUnlockInput)
    (earlier : List BrokerEvent) (finish : BrokerPage) : Prop where
  resolved : ∃ receipt, .receiptResolved receipt ∈ earlier
  entry : ∃ inner wrappingKey, .restored inner ∈ earlier ∧
    finish.session.cachedEntry = some { inner, wrappingKey }
  allowed : ∃ operation, input.operation = some operation ∧
    finish.session.mutationAllowed (some operation) = .ok ()

variable {input : PortableVaultBrokerClientUnlockInput}

/-- A custody that has written the cache did so in one of its segments. -/
theorem commitsCache_of_cached (history : Async.Ran
    (Custody.Change (.unlockPortableVaultBrokerResponse input)) {} ran kept)
    (cached : kept.cached = true) :
    ∃ before segment after, ran = before ++ segment :: after ∧
      CommitsCache input (eventsOf before) segment.2 := by
  induction history with
  | nil => cases cached
  | @snoc ran held kept start finish history change ih =>
      cases change.cache input rfl with
      | inl same =>
          obtain ⟨before, segment, after, split, commits⟩ :=
            ih (same.1.symm.trans cached)
          refine ⟨before, segment, after ++ [(start, finish)], ?_, commits⟩
          rw [split, List.append_assoc, List.cons_append]
      | inr commits =>
          refine ⟨ran, (start, finish), [], rfl, ?_⟩
          rw [← trace_eq_eventsOf history]
          exact
            { resolved := commits.resolved
              entry := commits.entry
              allowed := commits.allowed }

/-- A segment that changes the cache entry writes the cache. -/
theorem commitsCache_of_changed (history : Async.Ran
    (Custody.Change (.unlockPortableVaultBrokerResponse input)) {} ran kept)
    {before after : List (BrokerPage × BrokerPage)}
    {segment : BrokerPage × BrokerPage}
    (split : ran = before ++ segment :: after)
    (changed : segment.2.session.cachedEntry ≠
      segment.1.session.cachedEntry) :
    kept.cached = true ∧ CommitsCache input (eventsOf before) segment.2 := by
  induction history generalizing after with
  | nil => cases before <;> cases split
  | @snoc ran held kept start finish history change ih =>
      cases after using List.reverseRecOn with
      | nil =>
          obtain ⟨rfl, last⟩ := List.append_inj' split rfl
          cases last
          cases change.cache input rfl with
          | inl same => exact absurd same.2 changed
          | inr commits =>
              rw [← trace_eq_eventsOf history]
              exact ⟨commits.after,
                { resolved := commits.resolved
                  entry := commits.entry
                  allowed := commits.allowed }⟩
      | append_singleton after last _ =>
          have shorter : ran ++ [(start, finish)] =
              (before ++ segment :: after) ++ [last] := by
            rw [split, List.append_assoc, List.cons_append]
          obtain ⟨same, -⟩ := List.append_inj' shorter rfl
          obtain ⟨cached, commits⟩ := ih same
          refine ⟨?_, commits⟩
          cases change.cache input rfl with
          | inl same => exact same.1.trans cached
          | inr other => exact other.after

end Segments

section Runs

variable {platform : BrokerSessionPlatform} {initial : BrokerPage}
  {events : List BrokerStep} {task : Nat} {call : BrokerCall}

variable (platform initial) in
/-- The page after a run. -/
def pageAfter (events : List BrokerStep) : BrokerPage :=
  ((brokerMachine platform).run (Pool.initial initial) events).state

variable (platform initial) in
/-- The segments of a task in a run. -/
def segmentsOf (events : List BrokerStep) (task : Nat) :
    List (BrokerPage × BrokerPage) :=
  (brokerMachine platform).segments task (Pool.initial initial) events

variable (platform initial) in
theorem tasks_later (events : List BrokerStep) :
    Later initial (pageAfter platform initial events) ∧
      ∀ task ∈ ((brokerMachine platform).run (Pool.initial initial)
        events).tasks, task.2.Respects Later := by
  have unstarted : ∀ task ∈ (Pool.initial initial :
      Pool BrokerCall BrokerPage VaultError BrokerValue).tasks,
      task.2.Respects Later := fun _ member => absurd member List.not_mem_nil
  exact (brokerMachine_conduct platform).run unstarted events

variable (platform initial) in
theorem pageAfter_later (events later : List BrokerStep) :
    Later (pageAfter platform initial events)
      (pageAfter platform initial (events ++ later)) := by
  rw [pageAfter, pageAfter, Machine.run_append]
  exact ((brokerMachine_conduct platform).run
    (tasks_later platform initial events).2 later).1

variable (platform initial) in
theorem segmentsOf_follow (events later : List BrokerStep) (task : Nat) :
    Machine.SegmentsFollow Later (pageAfter platform initial events)
      (pageAfter platform initial (events ++ later))
      ((brokerMachine platform).segments task
        ((brokerMachine platform).run (Pool.initial initial) events)
        later) := by
  have follow := (brokerMachine_conduct platform).segments
    (tasks_later platform initial events).2 task later
  rw [← Machine.run_append] at follow
  exact follow

variable (platform initial) in
theorem segmentsOf_whole (events : List BrokerStep) (task : Nat) :
    Machine.SegmentsFollow Later initial (pageAfter platform initial events)
      (segmentsOf platform initial events task) :=
  segmentsOf_follow platform initial [] events task

theorem segmentsOf_append (events later : List BrokerStep) (task : Nat) :
    segmentsOf platform initial (events ++ later) task =
      segmentsOf platform initial events task ++
        (brokerMachine platform).segments task
          ((brokerMachine platform).run (Pool.initial initial) events)
          later :=
  Machine.segments_append task (Pool.initial initial) events later

/-- What the segments of a task have made of its custody, and in which state
the task has ended. -/
theorem task_custody {rest : BrokerAsync BrokerValue}
    (found : ((brokerMachine platform).run (Pool.initial initial)
      events).tasks[task]? = some (call, rest)) :
    ∃ kept, Async.Ran (Custody.Change call) {}
        (segmentsOf platform initial events task) kept ∧
      ∀ outcome, rest = .done outcome →
        ∃ earlier start finish,
          segmentsOf platform initial events task =
            earlier ++ [(start, finish)] ∧
          kept.Valid call finish ∧ call.Settles outcome kept finish := by
  have account : Machine.Accounted _ _ _ _
      (segmentsOf platform initial events task) rest :=
    Machine.accounted found (segmentsOf_whole platform initial events task)
      (brokerProgram_owns call) (fun _ _ _ _ change => change.valid)
      (fun _ _ _ valid later => valid.later later)
  generalize segmentsOf platform initial events task = ran at account ⊢
  cases account with
  | @ended earlier held start finish outcome past ends =>
      obtain ⟨after, change, settles⟩ := ends
      refine ⟨after, .snoc past change, ?_⟩
      intro result same
      cases same
      exact ⟨earlier, start, finish, rfl, change.valid, settles⟩
  | suspended past _ => exact ⟨_, past, nofun⟩

/-! ### One use of a private key -/

/-- Calling it leaves the session without its private key. -/
def BrokerCall.Closes (session : PortableVaultBrokerUnlockSession) :
    BrokerCall → Prop
  | .dispose other => other = session
  | .unsealSession other _ => other = session
  | _ => False

theorem BrokerPage.closed_of_privateKey_none {page : BrokerPage}
    {session : PortableVaultBrokerUnlockSession}
    (present : session.index < page.privateKeys.length)
    (gone : page.privateKey session = none) : page.Closed session := by
  unfold BrokerPage.privateKey at gone
  rw [BrokerPage.Closed, List.getElem?_eq_getElem present] at *
  cases held : page.privateKeys[session.index] with
  | none => rfl
  | some key =>
      rw [held] at gone
      cases gone

theorem BrokerPage.closed_dropPrivateKey {page : BrokerPage}
    {session : PortableVaultBrokerUnlockSession}
    (present : session.index < page.privateKeys.length) :
    (page.dropPrivateKey session).Closed session :=
  List.getElem?_set_self present

theorem closed_takePrivateKey {page : BrokerPage}
    {session : PortableVaultBrokerUnlockSession}
    (present : session.index < page.privateKeys.length) :
    (takePrivateKey session page).2.Closed session := by
  simp only [takePrivateKey, Sync.bind_apply, Sync.get_apply]
  cases held : page.privateKey session with
  | none => exact BrokerPage.closed_of_privateKey_none present held
  | some key => exact BrokerPage.closed_dropPrivateKey present

/-- The first segment of `unseal` or `dispose` closes the session. -/
theorem closed_after_start {page : BrokerPage} {closing : BrokerCall}
    {session : PortableVaultBrokerUnlockSession}
    (closes : closing.Closes session)
    (present : session.index < page.privateKeys.length) :
    ((brokerProgram platform closing).runSegment page).2.Closed session := by
  cases closing with
  | dispose other =>
      cases closes
      exact BrokerPage.closed_dropPrivateKey present
  | unsealSession other sealedPuk =>
      cases closes
      have respects : (brokerProgram platform
          (.unsealSession session sealedPuk)).Respects Later :=
        brokerProgram_later _
      -- The key is taken first, and the rest of the segment comes later.
      obtain ⟨-, rest⟩ := respects page
      exact (rest.runSegment _).1.closed session
        (closed_takePrivateKey present)
  | _ => exact closes.elim

theorem no_derivation_of_closed {session : PortableVaultBrokerUnlockSession}
    {ran : List (BrokerPage × BrokerPage)} {kept : Custody}
    (history : Async.Ran (Custody.Change call) {} ran kept)
    (closed : ∀ segment ∈ ran, segment.1.Closed session)
    (later : ∀ segment ∈ ran, Later segment.1 segment.2) :
    .derived session ∉ eventsOf ran := by
  intro derived
  have taken : BrokerEvent.taken session ∈ eventsOf ran := by
    have count := derived_le_taken history session
    have positive := List.count_pos_iff.mpr derived
    exact List.count_pos_iff.mp (by omega)
  obtain ⟨segment, member, emitted⟩ := List.mem_flatMap.mp taken
  obtain ⟨events, written, once⟩ := (later segment member).emitted
  rw [emittedIn, written, List.drop_left] at emitted
  exact (once.available session emitted).1 (closed segment member)

/-- Keys taken from a session and not yet used. -/
def unusedKeys (session : PortableVaultBrokerUnlockSession)
    (trace : List BrokerEvent) : Int :=
  trace.count (.taken session) - trace.count (.derived session)

theorem unusedKeys_append (session : PortableVaultBrokerUnlockSession)
    (earlier later : List BrokerEvent) :
    unusedKeys session (earlier ++ later) =
      unusedKeys session earlier + unusedKeys session later := by
  simp only [unusedKeys, List.count_append]
  omega

theorem balance_unusedKeys (session : PortableVaultBrokerUnlockSession)
    {ran : List (BrokerPage × BrokerPage)} {kept : Custody}
    (history : Async.Ran (Custody.Change call) {} ran kept) :
    Machine.balance (fun page => unusedKeys session page.trace) ran =
      unusedKeys session kept.trace := by
  induction history with
  | nil => rfl
  | @snoc ran held kept start finish history change ih =>
      obtain ⟨emitted, written, recorded⟩ := change.trace
      rw [Machine.balance_append, ih, recorded, unusedKeys_append]
      simp only [Machine.balance, List.map_cons, List.map_nil, List.sum_cons,
        List.sum_nil, written, unusedKeys_append]
      omega

/-- A run uses a key at most as often as it takes one. -/
theorem unusedKeys_le (session : PortableVaultBrokerUnlockSession)
    (events : List BrokerStep) :
    unusedKeys session initial.trace ≤
      unusedKeys session (pageAfter platform initial events).trace := by
  have tasks : ∀ task, 0 ≤ Machine.balance
      (fun page => unusedKeys session page.trace)
      (segmentsOf platform initial events task) := by
    intro task
    cases found : ((brokerMachine platform).run (Pool.initial initial)
        events).tasks[task]? with
    | none =>
        have recorded : Machine.Recorded (brokerMachine platform)
            ((brokerMachine platform).run (Pool.initial initial) events) _ :=
          Machine.run_recorded initial events
        have unstarted : segmentsOf platform initial events task = [] :=
          recorded.unstarted task (List.getElem?_eq_none_iff.mp found)
        rw [unstarted]
        exact Int.le_refl _
    | some entry =>
        obtain ⟨call, rest⟩ := entry
        obtain ⟨kept, history, -⟩ := task_custody found
        have used := derived_le_taken history session
        rw [← trace_eq_eventsOf history] at used
        rw [balance_unusedKeys session history]
        simp only [unusedKeys]
        omega
  exact Machine.run_nonneg_of_tasks (fun _ _ => rfl) initial events tasks

/-- What is recorded of a session during a run. -/
theorem derived_at_most_once (session : PortableVaultBrokerUnlockSession)
    (events : List BrokerStep) :
    ((pageAfter platform initial events).trace.drop
      initial.trace.length).count (.derived session) ≤ 1 := by
  obtain ⟨emitted, written, taken⟩ :=
    (tasks_later platform initial events).1.emitted
  have used : unusedKeys session initial.trace ≤
      unusedKeys session (pageAfter platform initial events).trace :=
    unusedKeys_le session events
  have once := taken.once session
  rw [written, unusedKeys_append] at used
  rw [written, List.drop_left]
  simp only [unusedKeys] at used
  omega

end Runs

section Statement

variable (platform : BrokerSessionPlatform) (initial : BrokerPage)
  (events : List BrokerStep)

/-- The private key of a session is used for at most one derivation, and not at
all by a call that starts after a `dispose` or an `unseal` of the session. -/
structure OneUse (session : PortableVaultBrokerUnlockSession) : Prop where
  once : ((pageAfter platform initial events).trace.drop
    initial.trace.length).count (.derived session) ≤ 1
  spent : ∀ before closing middle call after,
    events = before ++ .start closing :: (middle ++ .start call :: after) →
    closing.Closes session →
    session.index < (pageAfter platform initial before).privateKeys.length →
    .derived session ∉ eventsOf (segmentsOf platform initial events
      ((brokerMachine platform).run (Pool.initial initial)
        (before ++ .start closing :: middle)).tasks.length)

/-- The call has left the cache alone and has zeroed the inner blob that it
had restored. -/
structure LeavesNoBlob (task : Nat) : Prop where
  unwritten : ∀ segment ∈ segmentsOf platform initial events task,
    segment.2.session.cachedEntry = segment.1.session.cachedEntry
  zeroed : ∀ inner,
    .restored inner ∈ eventsOf (segmentsOf platform initial events task) →
    AllZero ((pageAfter platform initial events).buffer inner)

/-- None of the segments has put an array that the task restores into the
cache. -/
def Uncommitted (ran : List (BrokerPage × BrokerPage)) (task : Nat) : Prop :=
  ∀ segment ∈ ran, ∀ inner wrappingKey,
    .restored inner ∈ eventsOf (segmentsOf platform initial events task) →
    segment.2.session.cachedEntry ≠ some { inner, wrappingKey }

/-- What holds of an unlock that has returned. -/
structure UnlockCustody (task : Nat)
    (input : PortableVaultBrokerClientUnlockInput)
    (outcome : Except VaultError BrokerValue) : Prop where
  puk : ∀ puk,
    .unsealed puk ∈ eventsOf (segmentsOf platform initial events task) →
    AllZero ((pageAfter platform initial events).buffer puk)
  verdicts : Custody.Verdicts (.unlockPortableVaultBrokerResponse input)
    (eventsOf (segmentsOf platform initial events task))
  written : ∀ before segment after,
    segmentsOf platform initial events task = before ++ segment :: after →
    segment.2.session.cachedEntry ≠ segment.1.session.cachedEntry →
    CommitsCache input (eventsOf before) segment.2
  unlocked : ∀ operation vaultKey requestId receipt,
    input.operation = some operation →
    outcome = .ok (.result (.unlocked vaultKey requestId receipt)) →
    (∃ before segment after,
      segmentsOf platform initial events task = before ++ segment :: after ∧
        CommitsCache input (eventsOf before) segment.2) ∧
    ∃ last, (segmentsOf platform initial events task).getLast? = some last ∧
      last.2.session.mutationAllowed (some operation) = .ok ()
  rejected : ∀ receipt,
    .receiptRejected receipt ∈
      eventsOf (segmentsOf platform initial events task) →
    LeavesNoBlob platform initial events task
  stale : ∀ before after operation, events = before ++ after →
    input.operation = some operation →
    StaleOperation operation
      (pageAfter platform initial before).session.toSessionCore →
    Uncommitted platform initial events
      (segmentsOf platform initial before task) task →
    LeavesNoBlob platform initial events task

end Statement

section Proof

variable {platform : BrokerSessionPlatform} {initial : BrokerPage}
  {events : List BrokerStep} {task : Nat}
  {input : PortableVaultBrokerClientUnlockInput}
  {outcome : Except VaultError BrokerValue}

/-- After the start of a closing call the session has no key, and it never has
one again. -/
theorem closed_after_closing {closing : BrokerCall}
    {session : PortableVaultBrokerUnlockSession}
    (closes : closing.Closes session) (before middle : List BrokerStep)
    (present : session.index <
      (pageAfter platform initial before).privateKeys.length) :
    (pageAfter platform initial
      (before ++ .start closing :: middle)).Closed session := by
  have closed : (pageAfter platform initial
      (before ++ [.start closing])).Closed session := by
    rw [pageAfter, Machine.run_append]
    exact closed_after_start closes present
  have later := pageAfter_later platform initial (before ++ [.start closing])
    middle
  rw [List.append_assoc, List.singleton_append] at later
  exact later.closed session closed

theorem segmentsOf_unstarted {before : List BrokerStep}
    (unstarted : ((brokerMachine platform).run (Pool.initial initial)
      before).tasks.length ≤ task) :
    segmentsOf platform initial before task = [] := by
  have recorded : Machine.Recorded (brokerMachine platform)
      ((brokerMachine platform).run (Pool.initial initial) before) _ :=
    Machine.run_recorded initial before
  exact recorded.unstarted task unstarted

theorem oneUse (session : PortableVaultBrokerUnlockSession) :
    OneUse platform initial events session := by
  constructor
  case once => exact derived_at_most_once session events
  case spent =>
    intro before closing middle call after split closes present
    have closed := closed_after_closing closes before middle present
    have regrouped : events =
        (before ++ .start closing :: middle) ++ .start call :: after := by
      rw [split, List.append_assoc, List.cons_append]
    generalize before ++ .start closing :: middle = earlier at *
    generalize number : ((brokerMachine platform).run (Pool.initial initial)
      earlier).tasks.length = task
    cases found : ((brokerMachine platform).run (Pool.initial initial)
        events).tasks[task]? with
    | none =>
        rw [segmentsOf_unstarted (List.getElem?_eq_none_iff.mp found)]
        exact List.not_mem_nil
    | some entry =>
        obtain ⟨_, rest⟩ := entry
        obtain ⟨kept, history, -⟩ := task_custody found
        have whole := segmentsOf_whole platform initial events task
        apply no_derivation_of_closed history _ whole.within
        intro segment member
        rw [regrouped, segmentsOf_append,
          segmentsOf_unstarted (Nat.le_of_eq number), List.nil_append]
          at member
        have follow := segmentsOf_follow platform initial earlier
          (.start call :: after) task
        exact (follow.after segment member).closed session closed

/-- An unlock that has not written the cache leaves no blob. -/
theorem leavesNoBlob_of_uncached {kept : Custody} {finish : BrokerPage}
    {earlier : List (BrokerPage × BrokerPage)} {start : BrokerPage}
    {result : Except VaultError PortableVaultBrokerClientUnlockResult}
    (history : Async.Ran
      (Custody.Change (.unlockPortableVaultBrokerResponse input)) {}
      (segmentsOf platform initial events task) kept)
    (last : segmentsOf platform initial events task =
      earlier ++ [(start, finish)])
    (valid : kept.Valid (.unlockPortableVaultBrokerResponse input) finish)
    (settles : Custody.Settles input.operation result kept finish)
    (uncached : kept.cached = false) :
    LeavesNoBlob platform initial events task := by
  constructor
  case unwritten =>
    intro segment member
    obtain ⟨before, after, split⟩ := List.append_of_mem member
    by_contra changed
    have written := (commitsCache_of_changed history split changed).1
    rw [uncached] at written
    cases written
  case zeroed =>
    intro inner restored
    rw [← trace_eq_eventsOf history] at restored
    have gone : inner ∉ kept.live := by
      rw [settles.inner uncached]
      exact List.not_mem_nil
    have later : Later finish (pageAfter platform initial events) := by
      apply (segmentsOf_whole platform initial events task).before
        (start, finish)
      rw [last]
      exact List.mem_append_right _ List.mem_cons_self
    exact later.session.zeros inner (valid.allocated inner (.inr restored))
      (valid.zeroed inner (.inr restored) gone)

/-- A token that is stale before the cache is written is stale when it would
be written. -/
theorem not_committed_of_stale {kept : Custody}
    {operation : VaultSessionOperation} {before after : List BrokerStep}
    (history : Async.Ran
      (Custody.Change (.unlockPortableVaultBrokerResponse input)) {}
      (segmentsOf platform initial events task) kept)
    (split : events = before ++ after)
    (token : input.operation = some operation)
    (stale : StaleOperation operation
      (pageAfter platform initial before).session.toSessionCore)
    (uncommitted : Uncommitted platform initial events
      (segmentsOf platform initial before task) task) :
    kept.cached = false := by
  cases cached : kept.cached with
  | false => rfl
  | true =>
      exfalso
      obtain ⟨earlier, segment, later, ran, commits⟩ :=
        commitsCache_of_cached history cached
      have member : segment ∈ segmentsOf platform initial events task := by
        rw [ran]
        exact List.mem_append_right _ List.mem_cons_self
      rw [split, segmentsOf_append] at member
      cases List.mem_append.mp member with
      | inl first =>
          obtain ⟨inner, wrappingKey, restored, entry⟩ := commits.entry
          apply uncommitted segment first inner wrappingKey _ entry
          rw [ran, eventsOf_append]
          exact List.mem_append_left _ restored
      | inr second =>
          have follow := segmentsOf_follow platform initial before after task
          have reached := (follow.after segment second).trans
            (follow.within segment second)
          obtain ⟨_, same, allowed⟩ := commits.allowed
          rw [token] at same
          cases same
          have gone := (reached.session.stale operation stale).2
          simp only [SessionCore.mutationAllowed, gone, Bool.false_eq_true,
            if_false, reduceCtorEq] at allowed

theorem unlockCustody
    (found : ((brokerMachine platform).run (Pool.initial initial)
      events).tasks[task]? =
        some (.unlockPortableVaultBrokerResponse input, .done outcome)) :
    UnlockCustody platform initial events task input outcome := by
  obtain ⟨kept, history, ends⟩ := task_custody found
  obtain ⟨earlier, start, finish, last, valid, settled⟩ := ends outcome rfl
  obtain ⟨result, same, settles⟩ := settled input rfl
  have recorded := trace_eq_eventsOf history
  have noBlob := leavesNoBlob_of_uncached history last valid settles
  constructor
  case puk =>
    intro puk unsealed
    rw [← recorded] at unsealed
    have later := (segmentsOf_whole platform initial events task).before
      (start, finish) (by
        rw [last]
        exact List.mem_append_right _ List.mem_cons_self)
    exact later.session.zeros puk (valid.allocated puk (.inl unsealed))
      (valid.zeroed puk (.inl unsealed) fun live =>
        settles.puk puk live unsealed)
  case verdicts =>
    rw [← recorded]
    exact valid.receipts
  case written =>
    intro before segment after split changed
    exact (commitsCache_of_changed history split changed).2
  case unlocked =>
    intro operation vaultKey requestId receipt token unlocked
    cases result with
    | error error =>
        rw [same] at unlocked
        cases unlocked
    | ok value =>
        rw [same] at unlocked
        cases unlocked
        obtain ⟨cached, allowed⟩ := settles.confirmed vaultKey requestId
          receipt rfl operation token
        refine ⟨commitsCache_of_cached history cached, (start, finish), ?_,
          allowed⟩
        rw [last, List.getLast?_append]
        rfl
  case rejected =>
    intro receipt rejected
    apply noBlob
    rw [← recorded] at rejected
    cases cached : kept.cached with
    | false => rfl
    | true =>
        exfalso
        obtain ⟨before, segment, after, split, commits⟩ :=
          commitsCache_of_cached history cached
        obtain ⟨resolvedReceipt, resolved⟩ := commits.resolved
        apply valid.receipts.exclusive resolvedReceipt receipt _ rejected
        rw [recorded, split, eventsOf_append]
        exact List.mem_append_left _ resolved
  case stale =>
    intro before after operation split token stale uncommitted
    exact noBlob (not_committed_of_stale history split token stale uncommitted)

/-- In every interleaving of unlock sessions and unlocks with begin, lock and
owner changes, a private key is used once and not after its session has been
closed, and an unlock that has returned leaves no key material behind. -/
theorem portable_broker_unlock_one_shot (platform : BrokerSessionPlatform)
    (initial : BrokerPage) (events : List BrokerStep) :
    (∀ session, OneUse platform initial events session) ∧
      ∀ task input outcome,
        ((brokerMachine platform).run (Pool.initial initial)
          events).tasks[task]? =
            some (.unlockPortableVaultBrokerResponse input, .done outcome) →
        UnlockCustody platform initial events task input outcome :=
  ⟨oneUse, fun _ _ _ found => unlockCustody found⟩

end Proof

namespace Reference

def ephemeralKey : EcdhPrivateKey := { secret := [5] }

/-- Every Diffie-Hellman exchange gives what the private key determines. -/
def sessionPlatform : BrokerSessionPlatform :=
  { envelopePlatform puk with
    sha256 := derive
    exportP256PublicKey := fun key =>
      { kty := some (js "EC")
        crv := some (js "P-256")
        x := some (bytesToBase64Url key.point)
        y := some (bytesToBase64Url key.point)
        d := none }
    importP256PublicKey := fun _ => .ok { point := [] }
    deriveEcdhBits := fun _ key => .ok (derive key.secret) }

def pukSealing : Sealing :=
  { key := (derive (derive ephemeralKey.secret).val).material
    iv := referenceIv.val
    aad := pukSealInfo (js "grant")
    plaintext := puk }

def sealedPuk : PortableVaultBrokerSealedPuk :=
  { version := js "v1"
    algorithm := js "ECDH-P256-HKDF-SHA256-A256GCM"
    brokerPublicJwk :=
      { kty := js "EC", crv := js "P-256", x := js "x", y := js "y" }
    salt := bytesToBase64Url (List.replicate 32 1)
    iv := bytesToBase64Url referenceIv.val
    ciphertext := bytesToBase64Url
      (sealed (envelopeLedger puk (Reference.material 7)) pukSealing)
    context := js "grant" }

def brokerResponse : PortableVaultBrokerUnlockResponse :=
  { encryptedVaultKey := createdEnvelope puk
    sealedPuk
    requestId := js "request"
    completionReceipt := js "receipt" }

/-- An unlock under the token of the first begin, with an accepting
verifier. -/
def unlockInput : PortableVaultBrokerClientUnlockInput :=
  { response := some brokerResponse
    session := { index := 0 }
    expectedOpaqueScope := referenceScope
    profile := referenceProfile
    operation := some { id := 0 }
    verifyAndConsumeCompletionReceipt := some fun _ => .ok () }

def freshPage : BrokerPage := { privateKeys := [some ephemeralKey] }

def unlockRun : List BrokerStep :=
  [.start (.beginVaultSessionUnlock (js "owner")),
    .start (.unlockPortableVaultBrokerResponse unlockInput)] ++
    List.replicate 16 (.resume 1)

def isUnlocked : Option (BrokerCall × BrokerAsync BrokerValue) → Bool
  | some (.unlockPortableVaultBrokerResponse _,
      .done (.ok (.result (.unlocked _ _ _)))) => true
  | _ => false

theorem eq_of_isUnlocked :
    ∀ {task : Option (BrokerCall × BrokerAsync BrokerValue)},
      isUnlocked task = true → ∃ input vaultKey requestId receipt,
        task = some (.unlockPortableVaultBrokerResponse input,
          .done (.ok (.result (.unlocked vaultKey requestId receipt))))
  | some (.unlockPortableVaultBrokerResponse _,
      .done (.ok (.result (.unlocked _ _ _)))), _ => ⟨_, _, _, _, rfl⟩

theorem unlockRun_unlocked : ∃ vaultKey requestId receipt,
    ((brokerMachine sessionPlatform).run (Pool.initial freshPage)
      unlockRun).tasks[1]? =
        some (.unlockPortableVaultBrokerResponse unlockInput,
          .done (.ok (.result (.unlocked vaultKey requestId receipt)))) := by
  have ended : isUnlocked ((brokerMachine sessionPlatform).run
      (Pool.initial freshPage) unlockRun).tasks[1]? = true := by
    decide +kernel
  obtain ⟨input, vaultKey, requestId, receipt, found⟩ :=
    eq_of_isUnlocked ended
  have started : .start (.unlockPortableVaultBrokerResponse input) ∈
      unlockRun := by
    apply (brokerMachine sessionPlatform).started_of_mem_tasks nofun
      (fun _ listed => listed) _ (List.mem_of_getElem? found)
  have same : input = unlockInput := by
    simpa [unlockRun] using started
  exact ⟨vaultKey, requestId, receipt, same ▸ found⟩

end Reference

/-- An unlock of a fresh session, resumed to its end. -/
theorem portable_broker_unlock_one_shot_unlocked :
    ∃ vaultKey requestId receipt,
      ((brokerMachine Reference.sessionPlatform).run
        (Pool.initial Reference.freshPage) Reference.unlockRun).tasks[1]? =
          some (.unlockPortableVaultBrokerResponse Reference.unlockInput,
            .done (.ok (.result (.unlocked vaultKey requestId receipt)))) ∧
      UnlockCustody Reference.sessionPlatform Reference.freshPage
        Reference.unlockRun 1 Reference.unlockInput
        (.ok (.result (.unlocked vaultKey requestId receipt))) := by
  obtain ⟨vaultKey, requestId, receipt, found⟩ := Reference.unlockRun_unlocked
  refine ⟨vaultKey, requestId, receipt, found, ?_⟩
  apply (portable_broker_unlock_one_shot Reference.sessionPlatform
    Reference.freshPage Reference.unlockRun).2
  exact found

end VaultCore
