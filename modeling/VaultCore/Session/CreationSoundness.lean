import VaultCore.Async.Suspensions
import VaultCore.Session.CreationCustody
import VaultCore.Session.LeaseCoherence

/-!
# Envelopes created from the cache open to the session key

Whatever the page does between the segments of a creating call, an envelope it
resolves to opens to the vault key and its token is allowed in the last
segment.  From the point where the token is revoked the call leaves the
session alone and can only be rejected.
-/

namespace VaultCore

/-- No mutation is allowed under the token any more: it has been issued and is
not current, or there is none and the session has an owner. -/
def RevokedOperation (operation : Option VaultSessionOperation)
    (core : SessionCore) : Prop :=
  match operation with
  | some token => StaleOperation token core
  | none => core.ownershipModeEnabled = true

namespace RevokedOperation

variable {operation : Option VaultSessionOperation}
  {core finish : SessionCore}

theorem refused (revoked : RevokedOperation operation core) :
    core.mutationAllowed operation ≠ .ok () := by
  intro allowed
  cases operation with
  | none =>
      have enabled : core.ownershipModeEnabled = true := revoked
      rw [SessionCore.mutationAllowed, if_pos enabled] at allowed
      cases allowed
  | some token =>
      have stale : StaleOperation token core := revoked
      rw [SessionCore.mutationAllowed, stale.2] at allowed
      cases allowed

/-- Nothing that happens to the session gives the token back. -/
theorem step {token : Option VaultSessionOperation} {powers : SessionPowers}
    (revoked : RevokedOperation operation core)
    (effect : SessionEffect token powers core finish) :
    RevokedOperation operation finish := by
  cases operation with
  | some stale => exact StaleOperation.step revoked effect
  | none =>
      have enabled : core.ownershipModeEnabled = true := revoked
      cases effect with
      | unchanged => exact enabled
      | locked => exact enabled
      | deleted => exact enabled
      | reset => exact enabled
      | disowned _ => exact enabled
      | begun _ _ _ => rfl
      | purged _ _ => rfl
      | installed vaultKey role allowed _ _ =>
          obtain ⟨committed, fields, -⟩ :=
            SessionCore.installed_of_allowed allowed vaultKey role
          exact fields.enabled.trans enabled
      | cached _ _ => exact enabled
      | uncached _ => exact enabled
      | pinned _ _ => exact enabled
      | unpinned _ _ => exact enabled
      | exited _ _ => exact enabled

end RevokedOperation

/-- What is revoked in one page is revoked in the other. -/
def RevocationsKept (start finish : CreationPage) : Prop :=
  ∀ operation,
    RevokedOperation operation start.session.toSessionCore →
    RevokedOperation operation finish.session.toSessionCore

instance : Std.Refl RevocationsKept := ⟨fun _ _ revoked => revoked⟩

instance : IsTrans CreationPage RevocationsKept :=
  ⟨fun _ _ _ first second operation revoked =>
    second operation (first operation revoked)⟩

theorem RevocationsKept.of_effect {start finish : CreationPage}
    {token : Option VaultSessionOperation} {powers : SessionPowers}
    (effect : StateEffect token powers start.session finish.session) :
    RevocationsKept start finish :=
  fun _ revoked => revoked.step effect

theorem SessionKept.effect {operation : Option VaultSessionOperation}
    {start finish : SessionState}
    (kept : SessionKept operation start finish) :
    StateEffect operation .none start finish := by
  unfold StateEffect
  cases kept with
  | inl same =>
      rw [same]
      exact .unchanged
  | inr cleared =>
      obtain ⟨allowed, same⟩ := cleared
      rw [same, clearCachedEntry_core]
      exact .uncached allowed

theorem SessionKept.of_revoked {operation : Option VaultSessionOperation}
    {start finish : SessionState}
    (kept : SessionKept operation start finish)
    (revoked : RevokedOperation operation start.toSessionCore) :
    finish = start :=
  kept.resolve_right fun cleared => revoked.refused cleared.1

/-- The envelope that a call has resolved to opens to its vault key. -/
def EnvelopeCreation.Opens (platform : BrokerPlatform) :
    EnvelopeCreation → CreationValue → CreationPage → Prop
  | .passkeyPrf input, .passkeyPrfEnvelope envelope, _ =>
      ∀ prfRequired, unlockWithPasskeyPrfEnvelope platform.toPlatform envelope
        (some input.prfOutput) input.scope input.profile prfRequired =
          .ok input.vaultKey.restored
  | .brokerEnrollment input, .enrollmentPackage package, page =>
      unlockPortableVaultBrokerEncryptedVaultKey platform
        package.encryptedVaultKey (page.array package.puk) input.opaqueScope
        input.profile = .ok input.vaultKey.restored
  | _, _, _ => False

/-- How a creating call ends. -/
structure Concluded (platform : BrokerPlatform) (creation : EnvelopeCreation)
    (outcome : Except VaultError CreationValue) (now : Cells Bytes)
    (page : CreationPage) : Prop where
  opens : RestorableKey platform.toPlatform creation.vaultKey →
    ∀ value, outcome = .ok value → creation.Opens platform value page
  allowed : ∀ value, outcome = .ok value →
    page.session.mutationAllowed creation.operation = .ok ()
  zeroed : ∀ error, outcome = .error error → Zeroed now

theorem Concluded.of_error {platform : BrokerPlatform}
    {creation : EnvelopeCreation} {error : VaultError} {now : Cells Bytes}
    {page : CreationPage} (zeroed : Zeroed now) :
    Concluded platform creation (.error error) now page where
  opens := fun _ _ impossible => by cases impossible
  allowed := fun _ impossible => by cases impossible
  zeroed := fun _ _ => zeroed

/-- How a segment of a call changes what it holds and the session. -/
def CreationCall.Change (call : CreationCall) (held kept : Cells Bytes)
    (start finish : CreationPage) : Prop :=
  Cells.Change held kept start.arrays finish.arrays ∧
    match call with
    | .session _ => ∃ token powers,
        StateEffect token powers start.session finish.session
    | .create creation =>
        SessionKept creation.operation start.session finish.session

/-- How the last segment of a call changes them. -/
def CreationCall.Last (platform : BrokerPlatform) (call : CreationCall)
    (outcome : Except VaultError CreationValue) (held : Cells Bytes)
    (start finish : CreationPage) : Prop :=
  ∃ kept, call.Change held kept start finish ∧
    ∀ creation, call = .create creation →
      Concluded platform creation outcome kept finish

section Programs

variable {platform : BrokerPlatform} {α : Type} {start page : CreationPage}

/-- Session code holds no array of the page. -/
theorem within_session_owns {token : Option VaultSessionOperation}
    {powers : SessionPowers} {program : SessionAsync α} {call : SessionCall}
    (meets : program.Meets (fun _ => True) (StateEffect token powers)
      (fun _ begun finish => StateEffect token powers begun finish)
      start.session page.session)
    (arrays : page.arrays = start.arrays) :
    (program.within sessionOfCreation).Owns
      (fun cells later => cells.Held later.arrays)
      (CreationCall.Change (.session call))
      (fun _ held begun finish => held = {} ∧
        CreationCall.Change (.session call) held {} begun finish)
      {} start page := by
  have unchanged : Cells.Change ({} : Cells Bytes) {} start.arrays
      page.arrays := by
    rw [arrays]
    exact .refl fun _ member => absurd member List.not_mem_nil
  induction program generalizing start page with
  | done outcome => exact ⟨rfl, unchanged, token, powers, meets⟩
  | sync update rest ih =>
      exact ih page.session meets arrays unchanged
  | pause rest ih =>
      refine ⟨{}, ⟨unchanged, token, powers, meets.1⟩, ?_⟩
      intro later _
      exact ih (meets.2 later.session trivial) rfl
        (.refl fun _ member => absurd member List.not_mem_nil)

theorem session_owns (call : SessionCall) (origin : CreationPage) :
    (creationProgram platform (.session call)).Owns
      (fun cells later => cells.Held later.arrays)
      (CreationCall.Change (.session call))
      (CreationCall.Last platform (.session call)) {} origin origin := by
  apply Async.Owns.bind
  apply (within_session_owns (sessionProgram_effects platform.toPlatform call
    origin.session origin.session rfl) rfl).mono
  intro outcome held begun finish ended
  cases outcome with
  | ok value => exact ⟨{}, ended.2, fun _ impossible => by cases impossible⟩
  | error error =>
      exact ⟨{}, ended.2, fun _ impossible => by cases impossible⟩

theorem passkeyPrf_owns (input : PasskeyPrfEnvelopeInput)
    (origin : CreationPage) :
    (creationProgram platform (.create (.passkeyPrf input))).Owns
      (fun cells later => cells.Held later.arrays)
      (CreationCall.Change (.create (.passkeyPrf input)))
      (CreationCall.Last platform (.create (.passkeyPrf input))) {} origin
      origin := by
  have sound := @createPasskeyPrfEnvelopeWithSessionCache_sound
    platform.toPlatform input
  apply Async.Owns.bind
  apply (sound {} {} origin origin
    (Async.Tracking.begins _ _ _
      fun _ member => absurd member List.not_mem_nil) .empty).mono
  intro outcome held begun finish ended
  obtain ⟨kept, changed, promised⟩ := ended
  cases outcome with
  | ok envelope =>
      obtain ⟨allowed, opened⟩ := promised.2 envelope rfl
      refine ⟨kept, changed, ?_⟩
      intro creation same
      cases same
      constructor
      case opens =>
        intro key value resolved
        cases resolved
        exact opened key
      case allowed => exact fun _ _ => allowed
      case zeroed => exact fun _ impossible => by cases impossible
  | error error =>
      refine ⟨kept, changed, ?_⟩
      intro creation same
      exact .of_error promised.1

theorem brokerEnrollment_owns (input : BrokerEnrollmentInput)
    (origin : CreationPage) :
    (creationProgram platform (.create (.brokerEnrollment input))).Owns
      (fun cells later => cells.Held later.arrays)
      (CreationCall.Change (.create (.brokerEnrollment input)))
      (CreationCall.Last platform (.create (.brokerEnrollment input))) {}
      origin origin := by
  have sound :=
    @createPortableVaultBrokerEnrollmentPackageWithSessionCache_sound platform
      input
  apply Async.Owns.bind
  apply (sound {} {} origin origin
    (Async.Tracking.begins _ _ _
      fun _ member => absurd member List.not_mem_nil) rfl).mono
  intro outcome held begun finish ended
  obtain ⟨kept, changed, promised⟩ := ended
  cases outcome with
  | ok package =>
      refine ⟨kept, changed, ?_⟩
      intro creation same
      cases same
      constructor
      case opens =>
        intro key value resolved
        cases resolved
        have puk := changed.1.contents _ promised.1.1.present
        simp only [EnvelopeCreation.Opens, CreationPage.array, puk,
          Option.getD_some]
        exact promised.1.2 key
      case allowed => exact fun _ _ => promised.2 package rfl
      case zeroed => exact fun _ impossible => by cases impossible
  | error error =>
      refine ⟨kept, changed, ?_⟩
      intro creation same
      exact .of_error promised.1

variable (platform) in
theorem creation_privateHeap :
    (creationMachine platform).PrivateHeap CreationPage.arrays
      CreationCall.Change (CreationCall.Last platform) := by
  constructor
  case owns =>
    intro call origin
    cases call with
    | session call => exact session_owns call origin
    | create creation =>
        cases creation with
        | passkeyPrf input => exact passkeyPrf_owns input origin
        | brokerEnrollment input => exact brokerEnrollment_owns input origin
  case confined =>
    intro call held kept begun finish changed
    exact changed.1
  case ends =>
    intro call outcome held begun finish last
    obtain ⟨kept, changed, -⟩ := last
    exact ⟨kept, changed⟩
  case environment =>
    intro event state
    rfl

end Programs

section Suspensions

theorem resolveInnerVaultKeyBlobForWrap_suspensions (platform : Platform)
    (sessionVaultKey : CryptoKey) (operation : Option VaultSessionOperation) :
    (resolveInnerVaultKeyBlobForWrap platform sessionVaultKey none
      operation).SuspendsAtMost 1 := by
  apply Async.SuspendsAtMost.bind_lift
  intro cached
  cases cached with
  | none => trivial
  | some entry =>
      change Async.SuspendsAtMost _ (1 + 0)
      apply Async.SuspendsAtMost.tryCatch
      · apply Async.SuspendsAtMost.bind_lift
        intro state
        apply Async.SuspendsAtMost.bind_awaitOutcome
        intro _
        apply Async.SuspendsAtMost.bind_lift
        intro _
        trivial
      · intro error
        apply Async.SuspendsAtMost.bind_lift
        intro _
        apply Async.SuspendsAtMost.bind_lift
        intro _
        trivial

theorem rejectCachedMaterial_suspensions {α : Type}
    (operation : Option VaultSessionOperation) (error : VaultError) :
    (rejectCachedMaterial operation error :
      SessionAsync α).SuspendsAtMost 0 := by
  apply Async.SuspendsAtMost.bind_lift
  intro _
  apply Async.SuspendsAtMost.bind_lift
  intro _
  trivial

theorem createPasskeyPrfEnvelopeWithSessionCache_suspensions
    (platform : Platform) (input : PasskeyPrfEnvelopeInput) :
    (createPasskeyPrfEnvelopeWithSessionCache platform
      input).SuspendsAtMost 3 := by
  apply Async.SuspendsAtMost.bind_lift
  intro _
  cases input.innerVaultKeyBlob with
  | some inner =>
      apply Async.SuspendsAtMost.bind_awaitOutcome
      intro envelope
      apply Async.SuspendsAtMost.bind_lift
      intro _
      trivial
  | none =>
      apply Async.SuspendsAtMost.bind_lift
      intro cached
      cases cached with
      | some entry =>
          change Async.SuspendsAtMost _ (3 + 0)
          apply Async.SuspendsAtMost.tryCatch
          · apply Async.SuspendsAtMost.bind_awaitOutcome
            intro prfWrappingKey
            apply Async.SuspendsAtMost.bind_lift
            intro state
            apply Async.SuspendsAtMost.bind_awaitOutcome
            intro rewrappedInner
            apply Async.SuspendsAtMost.bind_lift
            intro _
            apply Async.SuspendsAtMost.bind_awaitOutcome
            intro envelope
            apply Async.SuspendsAtMost.bind_lift
            intro _
            trivial
          · exact rejectCachedMaterial_suspensions input.operation
      | none =>
          change Async.SuspendsAtMost _ (2 + 1)
          apply Async.SuspendsAtMost.bind
          · exact (resolveInnerVaultKeyBlobForWrap_suspensions platform
              input.vaultKey input.operation).await
          · intro resolved
            apply Async.SuspendsAtMost.bind_lift
            intro _
            apply Async.SuspendsAtMost.bind_lift
            intro state
            apply Async.SuspendsAtMost.bind_awaitOutcome
            intro envelope
            apply Async.SuspendsAtMost.bind_lift
            intro _
            trivial

theorem createPortableVaultBrokerEnrollmentPackage_suspensions
    (platform : BrokerPlatform) (input : BrokerEnrollmentInput) :
    (createPortableVaultBrokerEnrollmentPackage platform
      input).SuspendsAtMost 1 := by
  apply Async.SuspendsAtMost.bind_lift
  intro puk
  change Async.SuspendsAtMost _ (1 + 0)
  apply Async.SuspendsAtMost.tryCatch
  · apply Async.SuspendsAtMost.bind_lift
    intro page
    apply Async.SuspendsAtMost.bind_awaitOutcome
    intro encryptedVaultKey
    trivial
  · intro error
    apply Async.SuspendsAtMost.bind_lift
    intro _
    trivial

theorem createPortableVaultBrokerEncryptedVaultKey_suspensions
    (platform : BrokerPlatform) (input : BrokerEnrollmentInput)
    (puk : OwnArray) (cached : VaultInnerKeyMaterialCacheEntry) :
    (createPortableVaultBrokerEncryptedVaultKeyFromCachedMaterial platform
      input puk cached).SuspendsAtMost 3 := by
  apply Async.SuspendsAtMost.bind_lift
  intro page
  apply Async.SuspendsAtMost.bind_awaitOutcome
  intro derivedKeys
  apply Async.SuspendsAtMost.bind_lift
  intro later
  apply Async.SuspendsAtMost.bind_awaitOutcome
  intro bytes
  apply Async.SuspendsAtMost.bind_lift
  intro rewrappedInner
  apply Async.SuspendsAtMost.tryFinally
  apply Async.SuspendsAtMost.bind_lift
  intro last
  exact .awaitOutcome _

theorem createPortableVaultBrokerEnrollmentPackageWithSessionCache_suspensions
    (platform : BrokerPlatform) (input : BrokerEnrollmentInput) :
    (createPortableVaultBrokerEnrollmentPackageWithSessionCache platform
      input).SuspendsAtMost 4 := by
  apply Async.SuspendsAtMost.bind_lift
  intro _
  apply Async.SuspendsAtMost.bind_lift
  intro cached
  cases cached with
  | none =>
      change Async.SuspendsAtMost _ (2 + 2)
      apply Async.SuspendsAtMost.bind
      · exact (createPortableVaultBrokerEnrollmentPackage_suspensions platform
          input).await
      · intro enrollment
        change Async.SuspendsAtMost _ (2 + 0)
        apply Async.SuspendsAtMost.tryCatch
        · apply Async.SuspendsAtMost.bind_lift
          intro _
          trivial
        · intro error
          apply Async.SuspendsAtMost.bind_lift
          intro _
          trivial
  | some entry =>
      apply Async.SuspendsAtMost.bind_lift
      intro puk
      change Async.SuspendsAtMost _ (4 + 0)
      apply Async.SuspendsAtMost.tryCatch
      · change Async.SuspendsAtMost _ (4 + 0)
        apply Async.SuspendsAtMost.bind
        · exact (createPortableVaultBrokerEncryptedVaultKey_suspensions
            platform input puk entry).await
        · intro encryptedVaultKey
          apply Async.SuspendsAtMost.bind_lift
          intro _
          trivial
      · intro error
        apply Async.SuspendsAtMost.bind_lift
        intro _
        exact (rejectCachedMaterial_suspensions input.operation error).within

/-- A creating call suspends at most four times. -/
theorem EnvelopeCreation.program_suspensions (platform : BrokerPlatform)
    (creation : EnvelopeCreation) :
    (creation.program platform).SuspendsAtMost 4 := by
  change Async.SuspendsAtMost _ (4 + 0)
  cases creation with
  | passkeyPrf input =>
      apply Async.SuspendsAtMost.bind
      · apply Async.SuspendsAtMost.mono
        · exact (createPasskeyPrfEnvelopeWithSessionCache_suspensions
            platform.toPlatform input).within
        · decide
      · exact fun _ => trivial
  | brokerEnrollment input =>
      apply Async.SuspendsAtMost.bind
      · exact
          createPortableVaultBrokerEnrollmentPackageWithSessionCache_suspensions
            platform input
      · exact fun _ => trivial

end Suspensions

section Runs

/-- Every run keeps what has been revoked. -/
theorem creation_moves (platform : BrokerPlatform) (initial : CreationPage) :
    (creationMachine platform).MovesAlong RevocationsKept
      (Pool.initial initial) := by
  apply Machine.MovesAlong.of_segments
  · intro events task segment member
    obtain ⟨call, held, kept, changed⟩ :=
      (creation_privateHeap platform).change_of_mem member
    cases call with
    | session call =>
        obtain ⟨token, powers, effect⟩ := changed.2
        exact .of_effect effect
    | create creation => exact .of_effect changed.2.effect
  · intro event page
    have locks : StateEffect none .none page.session
        (sessionEnvironment event page.session) := by
      cases sessionEnvironment_core event page.session with
      | inl same => exact .of_core_eq same
      | inr locked =>
          unfold StateEffect
          rw [locked]
          exact .locked
    exact .of_effect locks

/-- What holds of a creating call of a run, with what is left of it. -/
structure SoundCreation (platform : BrokerPlatform) (initial : CreationPage)
    (events : List CreationStep) (task : Nat) (creation : EnvelopeCreation)
    (rest : CreationAsync CreationValue) : Prop where
  /-- What the call resolves to opens to its vault key, and its token is
  allowed in the segment that resolves. -/
  resolves : ∀ value, rest = .done (.ok value) → ∃ earlier start finish,
    (creationMachine platform).segments task (Pool.initial initial) events =
        earlier ++ [(start, finish)] ∧
      creation.Opens platform value finish ∧
      finish.session.mutationAllowed creation.operation = .ok ()
  /-- Once its token is revoked the call leaves the session as it is, and if
  it has not ended by then it is rejected. -/
  revoked : ∀ before later, events = before ++ later →
    RevokedOperation creation.operation ((creationMachine platform).run
      (Pool.initial initial) before).state.session.toSessionCore →
    (∀ segment ∈ (creationMachine platform).segments task
        ((creationMachine platform).run (Pool.initial initial) before) later,
      segment.2.session = segment.1.session) ∧
    ((creationMachine platform).segments task
        ((creationMachine platform).run (Pool.initial initial) before)
        later ≠ [] →
      rest.isSuspended = true ∨ ∃ error, rest = .done (.error error))
  /-- The call ends in its fifth segment at the latest. -/
  settles : rest.isSuspended = true → ((creationMachine platform).segments
    task (Pool.initial initial) events).length ≤ 4
  /-- After a rejection every array that the call has added is zeroed. -/
  zeroed : ∀ error, rest = .done (.error error) →
    ∀ segment ∈ (creationMachine platform).segments task
      (Pool.initial initial) events,
    ∀ array : OwnArray, segment.1.arrays.length ≤ array.index →
      array.index < segment.2.arrays.length →
      AllZero (((creationMachine platform).run (Pool.initial initial)
        events).state.array array)

variable {platform : BrokerPlatform} {initial : CreationPage}
  {events : List CreationStep} {task : Nat} {creation : EnvelopeCreation}
  {rest : CreationAsync CreationValue}

/-- The segments of a creating call that run under a revoked token. -/
theorem segments_of_revoked
    (found : ((creationMachine platform).run (Pool.initial initial)
      events).tasks[task]? = some (.create creation, rest))
    {before later : List CreationStep} (split : events = before ++ later)
    (revoked : RevokedOperation creation.operation
      ((creationMachine platform).run (Pool.initial initial)
        before).state.session.toSessionCore)
    {segment : CreationPage × CreationPage}
    (member : segment ∈ (creationMachine platform).segments task
      ((creationMachine platform).run (Pool.initial initial) before) later) :
    RevokedOperation creation.operation segment.1.session.toSessionCore ∧
      segment.2.session = segment.1.session := by
  have follow := ((creation_moves platform initial).later before).segments
    task later
  have already := follow.after segment member creation.operation revoked
  obtain ⟨kept, -, tracked⟩ := (creation_privateHeap platform).tracked found
  have listed : segment ∈ (creationMachine platform).segments task
      (Pool.initial initial) events := by
    rw [split, Machine.segments_append]
    exact List.mem_append_right _ member
  obtain ⟨held, next, changed⟩ :=
    tracked.history.change_of_mem segment listed
  exact ⟨already, changed.2.of_revoked already⟩

/-- How a creating call has ended, with the arrays that it has added. -/
theorem concluded_of_ended {outcome : Except VaultError CreationValue}
    (found : ((creationMachine platform).run (Pool.initial initial)
      events).tasks[task]? = some (.create creation, .done outcome)) :
    ∃ earlier start finish now,
      (creationMachine platform).segments task (Pool.initial initial) events =
          earlier ++ [(start, finish)] ∧
        Concluded platform creation outcome now finish ∧
        now.Held ((creationMachine platform).run (Pool.initial initial)
          events).state.arrays ∧
        ∀ segment ∈ earlier ++ [(start, finish)], ∀ index,
          segment.1.arrays.length ≤ index →
          index < segment.2.arrays.length → index ∈ now.indices := by
  obtain ⟨kept, still, tracked⟩ := (creation_privateHeap platform).tracked
    found
  have added := (creation_privateHeap platform).listed_of_added
    tracked.history
  generalize (creationMachine platform).segments task (Pool.initial initial)
    events = ran at tracked added
  cases tracked with
  | @ended earlier held kept start finish _ _ last changed =>
      obtain ⟨now, same, concluded⟩ := last
      -- Both lists hold what the call held before and what it has added.
      have listed : ∀ index, index ∈ now.indices ↔ index ∈ kept.indices := by
        intro index
        rw [same.1.indices, changed.1.indices]
      refine ⟨earlier, start, finish, now, rfl, concluded creation rfl, ?_, ?_⟩
      · apply same.1.contents.transfer changed.1.contents _ still
        exact fun index => (listed index).mp
      · intro segment member index above below
        exact (listed index).mpr (added segment member index above below)

/-- A call does not resolve in a segment that runs under a revoked token. -/
theorem unresolved_of_revoked {value : CreationValue}
    (found : ((creationMachine platform).run (Pool.initial initial)
      events).tasks[task]? = some (.create creation, .done (.ok value)))
    {before later : List CreationStep} (split : events = before ++ later)
    (revoked : RevokedOperation creation.operation
      ((creationMachine platform).run (Pool.initial initial)
        before).state.session.toSessionCore) :
    (creationMachine platform).segments task
      ((creationMachine platform).run (Pool.initial initial) before) later =
        [] := by
  by_contra unfinished
  obtain ⟨earlier, start, finish, now, segments, concluded, -⟩ :=
    concluded_of_ended found
  rw [split, Machine.segments_append] at segments
  have last := congrArg List.getLast? segments
  rw [List.getLast?_append_of_ne_nil _ unfinished, List.getLast?_concat]
    at last
  obtain ⟨stale, unchanged⟩ := segments_of_revoked found split revoked
    (List.mem_of_getLast? last)
  apply stale.refused
  rw [← unchanged]
  exact concluded.allowed value rfl

/-- In every run a creating call is sound, whatever the page calls and however
the segments interleave. -/
theorem session_cached_creation_sound (platform : BrokerPlatform)
    (initial : CreationPage) (events : List CreationStep) (task : Nat)
    (creation : EnvelopeCreation) (rest : CreationAsync CreationValue)
    (crypto : platform.toPlatform.Lawful)
    (user : IsUserVaultKey creation.vaultKey)
    (probe : platform.toPlatform.IdealProbe creation.vaultKey.material)
    (found : ((creationMachine platform).run (Pool.initial initial)
      events).tasks[task]? = some (.create creation, rest)) :
    SoundCreation platform initial events task creation rest := by
  have history := (Machine.run_recorded initial events).started task _ rest
    found
  constructor
  case resolves =>
    intro value ended
    subst ended
    obtain ⟨earlier, start, finish, now, segments, concluded, -⟩ :=
      concluded_of_ended found
    exact ⟨earlier, start, finish, segments,
      concluded.opens ⟨crypto, user, probe⟩ value rfl,
      concluded.allowed value rfl⟩
  case revoked =>
    intro before later split revoked
    constructor
    · intro segment member
      exact (segments_of_revoked found split revoked member).2
    · intro unfinished
      obtain ⟨outcome, rfl⟩ | ⟨next, rfl⟩ := history.settled
      · cases outcome with
        | error error => exact .inr ⟨error, rfl⟩
        | ok value =>
            exact absurd (unresolved_of_revoked found split revoked)
              unfinished
      · exact .inl rfl
  case settles =>
    intro suspended
    obtain ⟨outcome, rfl⟩ | ⟨next, rfl⟩ := history.settled
    · cases suspended
    · exact (history.suspensions (creation.program_suspensions platform)
        rfl).1
  case zeroed =>
    intro error ended segment member array above below
    subst ended
    obtain ⟨earlier, start, finish, now, segments, concluded, held, added⟩ :=
      concluded_of_ended found
    rw [segments] at member
    obtain ⟨content, listed⟩ := Cells.mem_indices.mp
      (added segment member array.index above below)
    have contents := held _ listed
    simp only [CreationPage.array, contents, Option.getD_some]
    exact concluded.zeroed error rfl _ listed

namespace Reference

/-- A session of one owner with the wrapped vault key in its cache. -/
def enrollingPage : CreationPage :=
  { session :=
      { toSessionCore :=
          { SessionCore.issueVaultSessionOperation (js "alice") {} with
            cachedEntry := some
              { inner := { index := 0 }
                wrappingKey := (keysOf []).wrappingKey } }
        buffers := [wrap (material 7).val] } }

/-- The handle that the session has of the vault key. -/
def sessionKey : CryptoKey :=
  { createdKey (material 7) with extractable := false }

def passkeyEnrollment : EnvelopeCreation :=
  .passkeyPrf
    { vaultKey := sessionKey
      prfOutput
      scope := referenceScope
      profile := referenceProfile
      operation := some { id := 0 }
      iv := referenceIv }

def brokerEnrollment : EnvelopeCreation :=
  .brokerEnrollment
    { vaultKey := sessionKey
      opaqueScope := referenceScope
      profile := referenceProfile
      operation := some { id := 0 }
      randomBytes := ⟨puk, List.length_replicate⟩
      iv := referenceIv }

end Reference

/-- Both calls with the cached material of their session key. -/
theorem session_cached_creation_sound_enrolled :
    SoundCreation (Reference.envelopePlatform Reference.prfOutput)
      Reference.enrollingPage
      [.start (.create Reference.passkeyEnrollment), .resume 0, .resume 0,
        .resume 0] 0 Reference.passkeyEnrollment
      (.done (.ok (.passkeyPrfEnvelope
        { encryptedVaultKey :=
            Reference.createdEnvelope Reference.prfOutput }))) ∧
    SoundCreation (Reference.envelopePlatform Reference.puk)
      Reference.enrollingPage
      [.start (.create Reference.brokerEnrollment), .resume 0, .resume 0,
        .resume 0, .resume 0] 0 Reference.brokerEnrollment
      (.done (.ok (.enrollmentPackage
        { puk := { index := 0 }
          encryptedVaultKey :=
            Reference.createdEnvelope Reference.puk }))) := by
  have probe := fun secret => @Reference.envelopeLedger_idealProbe secret
    (Reference.material 7) List.length_replicate
  constructor
  · exact session_cached_creation_sound _ Reference.enrollingPage _ 0 _ _
      (Reference.platform_lawful _) ⟨rfl, List.length_replicate⟩ (probe _) rfl
  · exact session_cached_creation_sound _ Reference.enrollingPage _ 0 _ _
      (Reference.platform_lawful _) ⟨rfl, List.length_replicate⟩ (probe _) rfl

end Runs

end VaultCore
