import VaultCore.Session.CacheCustody
import VaultCore.Envelopes.RoundTrip

/-!
# Integrity of the inner key cache

The cached array restores the session key it was validated against, and every
other array handed to the cache is zeroed once its call has finished with it.
Both need that no array is handed over while it is cached or while another
call still validates it: the cache zeroes the entry it replaces, also when the
new entry is the same array.
-/

namespace VaultCore

section Provenance

variable (platform : Platform)

/-- The session key that the present entry was validated against, after a step
of the given call. -/
def provenanceStep (start finish : SessionState) (actor : Option SessionCall)
    (key : Option CryptoKey) : Option CryptoKey :=
  if finish.cachedEntry = start.cachedEntry then key
  else finish.cachedEntry.bind fun _ => actor.bind SessionCall.validatedKey

def cacheProvenanceFrom
    (pool : Pool SessionCall SessionState VaultError SessionValue)
    (key : Option CryptoKey) : List SessionStep → Option CryptoKey
  | [] => key
  | event :: events =>
      let next := (sessionMachine platform).step pool event
      cacheProvenanceFrom next
        (provenanceStep pool.state next.state (pool.actor event) key) events

/-- The session key that the call which stored the cached entry validated it
against. -/
def cacheProvenance (initial : SessionState) (events : List SessionStep) :
    Option CryptoKey :=
  cacheProvenanceFrom platform (Pool.initial initial) none events

theorem cacheProvenance_append (initial : SessionState)
    (events : List SessionStep) (event : SessionStep) :
    let pool := (sessionMachine platform).run (Pool.initial initial) events
    cacheProvenance platform initial (events ++ [event]) =
      provenanceStep pool.state
        ((sessionMachine platform).step pool event).state (pool.actor event)
        (cacheProvenance platform initial events) := by
  intro pool
  have general : ∀ (start : Pool SessionCall SessionState VaultError
      SessionValue) (key : Option CryptoKey),
      cacheProvenanceFrom platform start key (events ++ [event]) =
        provenanceStep ((sessionMachine platform).run start events).state
          ((sessionMachine platform).step
            ((sessionMachine platform).run start events) event).state
          (((sessionMachine platform).run start events).actor event)
          (cacheProvenanceFrom platform start key events) := by
    induction events with
    | nil =>
        intro start key
        rfl
    | cons first rest ih =>
        intro start key
        exact ih _ _
  exact general _ _

/-- The provenance of an entry is the key of a call that was started. -/
theorem validated_of_cacheProvenance {initial : SessionState}
    {events : List SessionStep} {key : CryptoKey}
    (known : cacheProvenance platform initial events = some key) :
    ∃ call, PoolEvent.start call ∈ events ∧ call.validatedKey = some key := by
  induction events using List.reverseRecOn with
  | nil => cases known
  | append_singleton events event ih =>
      rw [cacheProvenance_append, provenanceStep] at known
      split at known
      · obtain ⟨call, started, validated⟩ := ih known
        exact ⟨call, List.mem_append_left _ started, validated⟩
      · obtain ⟨entry, -, acted⟩ := Option.bind_eq_some_iff.mp known
        obtain ⟨call, actor, validated⟩ := Option.bind_eq_some_iff.mp acted
        refine ⟨call, ?_, validated⟩
        cases event with
        | start started =>
            cases actor
            exact List.mem_append_right _ (List.mem_singleton_self _)
        | resume task =>
            obtain ⟨entry, found, same⟩ := Option.map_eq_some_iff.mp actor
            have none : ∀ task ∈ (Pool.initial initial : Pool SessionCall
                SessionState VaultError SessionValue).tasks,
                PoolEvent.start task.1 ∈ events := by
              intro task impossible
              cases impossible
            have started := (sessionMachine platform).started_of_mem_tasks none
              (fun _ => id) entry (List.mem_of_getElem? found)
            rw [← same]
            exact List.mem_append_left _ started
        | environment occurrence => cases actor

/-- What the cache promises in the state a run has reached. -/
structure CacheIntegrity (initial : SessionState)
    (events : List SessionStep) : Prop where
  /-- The cached array restores the key it was validated against. -/
  cached : ∀ entry,
    ((sessionMachine platform).run (Pool.initial initial)
      events).state.cachedEntry = some entry →
    ∃ key, cacheProvenance platform initial events = some key ∧
      restoreInnerVaultKey platform
        (((sessionMachine platform).run (Pool.initial initial)
          events).state.buffer entry.inner) entry.wrappingKey false =
        .ok key.restored
  /-- Every other array that a call has finished with is zero. -/
  zeroed : ∀ task (call : SessionCall) rest (inner : BufferRef),
    ((sessionMachine platform).run (Pool.initial initial)
      events).tasks[task]? = some (call, rest) →
    call.handover ((sessionMachine platform).segments task
      (Pool.initial initial) events) = some { inner, finished := true } →
    (∀ entry, ((sessionMachine platform).run (Pool.initial initial)
      events).state.cachedEntry = some entry → entry.inner ≠ inner) →
    ∀ byte ∈ ((sessionMachine platform).run (Pool.initial initial)
      events).state.buffer inner, byte = 0

/-- A step of a run of the cache: only its operations are called, and a call is
given an array that exists. -/
def CacheStep (initial : SessionState) (events : List SessionStep) :
    SessionStep → Prop
  | .start call =>
      call.usesInnerKeyCache = true ∧
        ∀ inner, call.givenInner = some inner →
          inner.index < ((sessionMachine platform).run (Pool.initial initial)
            events).state.buffers.length
  | _ => True

/-- No call is given the cached array, or one that another call validates. -/
def SoleHandover (initial : SessionState) (events : List SessionStep) :
    SessionStep → Prop
  | .start call =>
      ∀ inner, call.givenInner = some inner →
        (∀ entry, ((sessionMachine platform).run (Pool.initial initial)
          events).state.cachedEntry = some entry → entry.inner ≠ inner) ∧
        ∀ task (other : SessionCall) rest,
          ((sessionMachine platform).run (Pool.initial initial)
            events).tasks[task]? = some (other, rest) →
          other.handover ((sessionMachine platform).segments task
            (Pool.initial initial) events) ≠
              some { inner, finished := false }
  | _ => True

end Provenance

section Buffers

def contentOf (buffers : List Bytes) (reference : BufferRef) : Bytes :=
  (buffers[reference.index]?).getD []

def AllZero (bytes : Bytes) : Prop := ∀ byte ∈ bytes, byte = 0

/-- A step that may add arrays and zero one of them. -/
structure BufferStep (zeroed : Option BufferRef) (start finish : List Bytes) :
    Prop where
  grows : start.length ≤ finish.length
  keeps : ∀ reference : BufferRef, reference.index < start.length →
    zeroed ≠ some reference →
      contentOf finish reference = contentOf start reference
  zeroes : ∀ reference, zeroed = some reference →
    AllZero (contentOf finish reference)

variable {buffers : List Bytes} {reference : BufferRef}

theorem contentOf_append (bound : reference.index < buffers.length)
    (more : List Bytes) :
    contentOf (buffers ++ more) reference = contentOf buffers reference := by
  rw [contentOf, contentOf, List.getElem?_append_left bound]

theorem allZero_zeroedBuffers :
    AllZero (contentOf (zeroedBuffers buffers reference) reference) := by
  intro byte member
  simp only [contentOf, zeroedBuffers, List.getElem?_modify_eq] at member
  cases found : buffers[reference.index]? with
  | none =>
      rw [found] at member
      cases member
  | some bytes =>
      rw [found] at member
      exact List.eq_of_mem_replicate member

theorem contentOf_zeroedBuffers {other : BufferRef}
    (different : reference ≠ other) :
    contentOf (zeroedBuffers buffers reference) other =
      contentOf buffers other := by
  have indices : reference.index ≠ other.index := by
    intro same
    cases reference
    cases other
    exact different (congrArg BufferRef.mk same)
  rw [contentOf, zeroedBuffers, List.getElem?_modify_ne _ _ indices]
  rfl

theorem BufferStep.refl : BufferStep none buffers buffers :=
  { grows := Nat.le_refl _
    keeps := fun _ _ _ => rfl
    zeroes := nofun }

theorem BufferStep.append (more : List Bytes) :
    BufferStep none buffers (buffers ++ more) :=
  { grows := by simp
    keeps := fun _ bound _ => contentOf_append bound more
    zeroes := nofun }

theorem BufferStep.zero (more : List Bytes) :
    BufferStep (some reference) buffers
      (zeroedBuffers (buffers ++ more) reference) := by
  constructor
  case grows => simp [zeroedBuffers]
  case keeps =>
    intro other bound different
    have apart : reference ≠ other := fun same => different (by rw [same])
    rw [contentOf_zeroedBuffers apart, contentOf_append bound]
  case zeroes =>
    intro other same
    cases same
    exact allZero_zeroedBuffers

theorem bufferStep_clearCachedEntry (state : SessionState) :
    BufferStep (state.cachedEntry.map fun entry => entry.inner) state.buffers
      state.clearCachedEntry.buffers := by
  rw [clearCachedEntry_buffers]
  cases state.cachedEntry with
  | none => exact .refl
  | some entry =>
      have cleared := @BufferStep.zero state.buffers entry.inner []
      rw [List.append_nil] at cleared
      exact cleared

theorem BufferStep.allZero {zeroed : Option BufferRef} {finish : List Bytes}
    (step : BufferStep zeroed buffers finish)
    (bound : reference.index < buffers.length)
    (zero : AllZero (contentOf buffers reference)) :
    AllZero (contentOf finish reference) := by
  by_cases same : zeroed = some reference
  · exact step.zeroes reference same
  · rw [step.keeps reference bound same]
    exact zero

end Buffers

section Facts

variable {platform : Platform}

/-- What holds of the cache and of the arrays that calls have taken over. -/
structure CacheFacts (platform : Platform) (state : SessionState)
    (key : Option CryptoKey) (stages : Nat → CacheStage) (count : Nat) :
    Prop where
  cached : ∀ entry, state.cachedEntry = some entry →
    entry.inner.index < state.buffers.length ∧
      ∃ vaultKey, key = some vaultKey ∧
        assertInnerVaultKeyBlobMatchesVaultKey platform
          (contentOf state.buffers entry.inner) vaultKey entry.wrappingKey =
          .ok ()
  validating : ∀ task owned, task < count →
    stages task = .validating owned →
      owned.inner.index < state.buffers.length ∧
        contentOf state.buffers owned.inner = owned.bytes ∧
        ∀ entry, state.cachedEntry = some entry → entry.inner ≠ owned.inner
  separate : ∀ task other owned otherOwned, task < count → other < count →
    task ≠ other → stages task = .validating owned →
      stages other = .validating otherOwned →
        owned.inner ≠ otherOwned.inner
  settled : ∀ task inner, task < count → stages task = .after inner →
    inner.index < state.buffers.length ∧
      ((∃ entry, state.cachedEntry = some entry ∧ entry.inner = inner) ∨
        AllZero (contentOf state.buffers inner))

/-- What a task may own after a step, next to the other tasks. -/
structure CacheStageFacts (state : SessionState) (stages : Nat → CacheStage)
    (count task : Nat) (kept : CacheStage) : Prop where
  validating : ∀ owned, kept = .validating owned →
    owned.inner.index < state.buffers.length ∧
      contentOf state.buffers owned.inner = owned.bytes ∧
      (∀ entry, state.cachedEntry = some entry →
        entry.inner ≠ owned.inner) ∧
      ∀ other otherOwned, other < count → other ≠ task →
        stages other = .validating otherOwned →
          otherOwned.inner ≠ owned.inner
  settled : ∀ inner, kept = .after inner →
    inner.index < state.buffers.length ∧
      ((∃ entry, state.cachedEntry = some entry ∧ entry.inner = inner) ∨
        AllZero (contentOf state.buffers inner))

variable {start finish : SessionState} {key nextKey : Option CryptoKey}
  {stages : Nat → CacheStage} {count task : Nat}
  {zeroed : Option BufferRef} {kept : CacheStage}

/-- A step that zeroes at most one array, which no other task validates. -/
theorem CacheFacts.step (facts : CacheFacts platform start key stages count)
    (buffers : BufferStep zeroed start.buffers finish.buffers)
    (unowned : ∀ other owned, other < count → other ≠ task →
      stages other = .validating owned →
        zeroed ≠ some owned.inner ∧
          ∀ entry, finish.cachedEntry = some entry →
            entry.inner ≠ owned.inner)
    (dropped : ∀ entry, start.cachedEntry = some entry →
      finish.cachedEntry = some entry ∨ zeroed = some entry.inner)
    (cached : ∀ entry, finish.cachedEntry = some entry →
      entry.inner.index < finish.buffers.length ∧
        ∃ vaultKey, nextKey = some vaultKey ∧
          assertInnerVaultKeyBlobMatchesVaultKey platform
            (contentOf finish.buffers entry.inner) vaultKey
            entry.wrappingKey = .ok ())
    (own : CacheStageFacts finish stages count task kept) :
    CacheFacts platform finish nextKey (Function.update stages task kept)
      count := by
  have lookup : ∀ other, other ≠ task →
      Function.update stages task kept other = stages other := by
    intro other different
    exact Function.update_of_ne different _ _
  constructor
  case cached => exact cached
  case validating =>
    intro other owned bound stage
    by_cases same : other = task
    · subst same
      rw [Function.update_self] at stage
      obtain ⟨within, content, apart, -⟩ := own.validating owned stage
      exact ⟨within, content, apart⟩
    · rw [lookup other same] at stage
      obtain ⟨within, content, -⟩ := facts.validating other owned bound stage
      obtain ⟨spared, apart⟩ := unowned other owned bound same stage
      refine ⟨Nat.lt_of_lt_of_le within buffers.grows, ?_, apart⟩
      rw [buffers.keeps _ within spared, content]
  case separate =>
    intro first second owned otherOwned firstBound secondBound different
      firstStage secondStage
    by_cases same : first = task
    · subst same
      rw [Function.update_self] at firstStage
      rw [lookup second (Ne.symm different)] at secondStage
      obtain ⟨-, -, -, apart⟩ := own.validating owned firstStage
      exact (apart second otherOwned secondBound (Ne.symm different)
        secondStage).symm
    · rw [lookup first same] at firstStage
      by_cases sameSecond : second = task
      · subst sameSecond
        rw [Function.update_self] at secondStage
        obtain ⟨-, -, -, apart⟩ := own.validating otherOwned secondStage
        exact apart first owned firstBound different firstStage
      · rw [lookup second sameSecond] at secondStage
        exact facts.separate first second owned otherOwned firstBound
          secondBound different firstStage secondStage
  case settled =>
    intro other inner bound stage
    by_cases same : other = task
    · subst same
      rw [Function.update_self] at stage
      exact own.settled inner stage
    · rw [lookup other same] at stage
      obtain ⟨within, state⟩ := facts.settled other inner bound stage
      refine ⟨Nat.lt_of_lt_of_le within buffers.grows, ?_⟩
      rcases state with held | zero
      · obtain ⟨entry, present, sameInner⟩ := held
        rcases dropped entry present with still | cleared
        · exact .inl ⟨entry, still, sameInner⟩
        · rw [← sameInner]
          exact .inr (buffers.zeroes _ cleared)
      · exact .inr (buffers.allZero within zero)

/-- The cached array survives a step that leaves the entry and zeroes another
array. -/
theorem CacheFacts.cached_of_kept
    (facts : CacheFacts platform start key stages count)
    (buffers : BufferStep zeroed start.buffers finish.buffers)
    (entry : finish.cachedEntry = start.cachedEntry)
    (spared : ∀ entry, start.cachedEntry = some entry →
      zeroed ≠ some entry.inner) (actor : Option SessionCall) :
    ∀ entry, finish.cachedEntry = some entry →
      entry.inner.index < finish.buffers.length ∧
        ∃ vaultKey, provenanceStep start finish actor key = some vaultKey ∧
          assertInnerVaultKeyBlobMatchesVaultKey platform
            (contentOf finish.buffers entry.inner) vaultKey
            entry.wrappingKey = .ok () := by
  intro present held
  rw [entry] at held
  obtain ⟨within, vaultKey, known, matching⟩ := facts.cached present held
  refine ⟨Nat.lt_of_lt_of_le within buffers.grows, vaultKey, ?_, ?_⟩
  · rw [provenanceStep, if_pos entry]
    exact known
  · rw [buffers.keeps _ within (spared present held)]
    exact matching

theorem CacheFacts.spared (facts : CacheFacts platform start key stages count)
    {other : Nat} {owned : ValidatedInner} (bound : other < count)
    (stage : stages other = .validating owned) :
    (start.cachedEntry.map fun entry => entry.inner) ≠ some owned.inner := by
  intro same
  obtain ⟨entry, held, sameInner⟩ := Option.map_eq_some_iff.mp same
  obtain ⟨-, -, apart⟩ := facts.validating other owned bound stage
  exact apart entry held sameInner

variable {call : SessionCall} {held : CacheStage}

/-- The array a call comes by is no other task's and is not cached. -/
structure FreshInner (start : SessionState) (stages : Nat → CacheStage)
    (count : Nat) (inner : BufferRef) (buffers : List Bytes) : Prop where
  within : inner.index < buffers.length
  uncached : ∀ entry, start.cachedEntry = some entry → entry.inner ≠ inner
  unowned : ∀ other owned, other < count →
    stages other = .validating owned → owned.inner ≠ inner
  added : ∃ more, buffers = start.buffers ++ more

theorem CacheFacts.fresh (facts : CacheFacts platform start key stages count)
    {inner : BufferRef} {buffers : List Bytes}
    (hands : HandsBuffer call start inner buffers)
    (given : ∀ inner, call.givenInner = some inner →
      FreshInner start stages count inner start.buffers) :
    FreshInner start stages count inner buffers := by
  cases hands with
  | given handed => exact given inner handed
  | extracted bytes apart extracts =>
      have beyond : ∀ other : BufferRef,
          other.index < start.buffers.length →
          other ≠ { index := start.buffers.length } := by
        intro other bound same
        rw [same] at bound
        exact Nat.lt_irrefl _ bound
      constructor
      case within => simp
      case uncached =>
        intro entry present
        exact beyond _ (facts.cached entry present).1
      case unowned =>
        intro other owned bound stage
        exact beyond _ (facts.validating other owned bound stage).1
      case added => exact ⟨[bytes], rfl⟩

private theorem CacheFacts.change_quiet
    (facts : CacheFacts platform start key stages count)
    (within : task < count) (stage : stages task = held)
    (entry : finish.cachedEntry = start.cachedEntry)
    (buffers : finish.buffers = start.buffers) (actor : Option SessionCall) :
    CacheFacts platform finish (provenanceStep start finish actor key)
      (Function.update stages task held) count := by
  have quiet : BufferStep none start.buffers finish.buffers := by
    rw [buffers]
    exact .refl
  apply facts.step quiet
  · intro other owned bound _ validates
    refine ⟨nofun, ?_⟩
    rw [entry]
    exact (facts.validating other owned bound validates).2.2
  · intro present here
    exact .inl (entry.trans here)
  · exact facts.cached_of_kept quiet entry (fun _ _ => nofun) actor
  · constructor
    case validating =>
      intro owned same
      rw [same] at stage
      obtain ⟨inside, content, apart⟩ :=
        facts.validating task owned within stage
      rw [buffers, entry]
      refine ⟨inside, content, apart, ?_⟩
      intro other otherOwned bound different validates
      exact facts.separate other task otherOwned owned bound within different
        validates stage
    case settled =>
      intro inner same
      rw [same] at stage
      rw [buffers, entry]
      exact facts.settled task inner within stage

private theorem CacheFacts.change_cleared
    (facts : CacheFacts platform start key stages count)
    (entry : finish.cachedEntry = none)
    (buffers : finish.buffers = start.clearCachedEntry.buffers) :
    CacheFacts platform finish nextKey (Function.update stages task .before)
      count := by
  have cleared : BufferStep (start.cachedEntry.map fun entry => entry.inner)
      start.buffers finish.buffers := by
    rw [buffers]
    exact bufferStep_clearCachedEntry start
  have empty : ∀ present, finish.cachedEntry ≠ some present := by
    intro present impossible
    rw [entry] at impossible
    cases impossible
  apply facts.step cleared
  · intro other owned bound _ validates
    refine ⟨facts.spared bound validates, ?_⟩
    intro present impossible
    exact absurd impossible (empty present)
  · intro present here
    rw [here]
    exact .inr rfl
  · intro present impossible
    exact absurd impossible (empty present)
  · exact ⟨nofun, nofun⟩

private theorem CacheFacts.change_handed
    (facts : CacheFacts platform start key stages count)
    {owned : ValidatedInner}
    (fresh : FreshInner start stages count owned.inner finish.buffers)
    (content : owned.bytes = finish.buffer owned.inner)
    (entry : finish.cachedEntry = start.cachedEntry)
    (actor : Option SessionCall) :
    CacheFacts platform finish (provenanceStep start finish actor key)
      (Function.update stages task (.validating owned)) count := by
  obtain ⟨more, buffers⟩ := fresh.added
  have grown : BufferStep none start.buffers finish.buffers := by
    rw [buffers]
    exact .append more
  apply facts.step grown
  · intro other otherOwned bound _ validates
    refine ⟨nofun, ?_⟩
    rw [entry]
    exact (facts.validating other otherOwned bound validates).2.2
  · intro present here
    exact .inl (entry.trans here)
  · exact facts.cached_of_kept grown entry (fun _ _ => nofun) actor
  · constructor
    case validating =>
      intro other same
      cases same
      rw [entry]
      refine ⟨fresh.within, content.symm, fresh.uncached, ?_⟩
      intro other otherOwned bound _ validates
      exact fresh.unowned other otherOwned bound validates
    case settled => nofun

private theorem CacheFacts.change_refused
    (facts : CacheFacts platform start key stages count)
    {inner : BufferRef} {buffers : List Bytes}
    (fresh : FreshInner start stages count inner buffers)
    (zeroed : finish.buffers = zeroedBuffers buffers inner)
    (entry : finish.cachedEntry = start.cachedEntry)
    (actor : Option SessionCall) :
    CacheFacts platform finish (provenanceStep start finish actor key)
      (Function.update stages task (.after inner)) count := by
  obtain ⟨more, added⟩ := fresh.added
  have step : BufferStep (some inner) start.buffers finish.buffers := by
    rw [zeroed, added]
    exact .zero more
  apply facts.step step
  · intro other owned bound _ validates
    constructor
    · intro same
      exact fresh.unowned other owned bound validates
        (Option.some.inj same).symm
    · rw [entry]
      exact (facts.validating other owned bound validates).2.2
  · intro present here
    exact .inl (entry.trans here)
  · apply facts.cached_of_kept step entry
    intro present here same
    exact fresh.uncached present here (Option.some.inj same).symm
  · constructor
    case validating => nofun
    case settled =>
      intro other same
      cases same
      refine ⟨?_, .inr (step.zeroes inner rfl)⟩
      rw [zeroed, zeroedBuffers, List.length_modify]
      exact fresh.within

private theorem CacheFacts.change_committed
    (facts : CacheFacts platform start key stages count)
    (within : task < count) {owned : ValidatedInner}
    (stage : stages task = .validating owned)
    (matching : assertInnerVaultKeyBlobMatchesVaultKey platform owned.bytes
      owned.vaultKey owned.wrappingKey = .ok ())
    (validated : call.validatedKey = some owned.vaultKey)
    (entry : finish.cachedEntry = some
      { inner := owned.inner, wrappingKey := owned.wrappingKey })
    (buffers : finish.buffers = start.clearCachedEntry.buffers) :
    CacheFacts platform finish (provenanceStep start finish (some call) key)
      (Function.update stages task (.after owned.inner)) count := by
  have cleared : BufferStep (start.cachedEntry.map fun entry => entry.inner)
      start.buffers finish.buffers := by
    rw [buffers]
    exact bufferStep_clearCachedEntry start
  obtain ⟨inside, content, apart⟩ := facts.validating task owned within stage
  have stored : ∀ present, finish.cachedEntry = some present →
      present = { inner := owned.inner, wrappingKey := owned.wrappingKey } := by
    intro present here
    exact (Option.some.inj (entry.symm.trans here)).symm
  have replaced : finish.cachedEntry ≠ start.cachedEntry := by
    intro same
    exact apart _ (same.symm.trans entry) rfl
  apply facts.step cleared
  · intro other otherOwned bound different validates
    refine ⟨facts.spared bound validates, ?_⟩
    intro present here
    rw [stored present here]
    exact facts.separate task other owned otherOwned within bound
      (Ne.symm different) stage validates
  · intro present here
    rw [here]
    exact .inr rfl
  · intro present here
    rw [stored present here]
    refine ⟨Nat.lt_of_lt_of_le inside cleared.grows, owned.vaultKey, ?_, ?_⟩
    · rw [provenanceStep, if_neg replaced, entry]
      exact validated
    · rw [cleared.keeps _ inside (facts.spared within stage), content]
      exact matching
  · constructor
    case validating => nofun
    case settled =>
      intro inner same
      cases same
      exact ⟨Nat.lt_of_lt_of_le inside cleared.grows, .inl ⟨_, entry, rfl⟩⟩

private theorem CacheFacts.change_rejected
    (facts : CacheFacts platform start key stages count)
    (within : task < count) {owned : ValidatedInner}
    (stage : stages task = .validating owned)
    (zeroed : finish.buffers = zeroedBuffers start.buffers owned.inner)
    (entry : finish.cachedEntry = start.cachedEntry)
    (actor : Option SessionCall) :
    CacheFacts platform finish (provenanceStep start finish actor key)
      (Function.update stages task (.after owned.inner)) count := by
  have step : BufferStep (some owned.inner) start.buffers finish.buffers := by
    have zeroing := @BufferStep.zero start.buffers owned.inner []
    rw [List.append_nil] at zeroing
    rw [zeroed]
    exact zeroing
  obtain ⟨inside, content, apart⟩ := facts.validating task owned within stage
  apply facts.step step
  · intro other otherOwned bound different validates
    constructor
    · intro same
      exact facts.separate task other owned otherOwned within bound
        (Ne.symm different) stage validates (Option.some.inj same)
    · rw [entry]
      exact (facts.validating other otherOwned bound validates).2.2
  · intro present here
    exact .inl (entry.trans here)
  · apply facts.cached_of_kept step entry
    intro present here same
    exact apart present here (Option.some.inj same).symm
  · constructor
    case validating => nofun
    case settled =>
      intro inner same
      cases same
      exact ⟨Nat.lt_of_lt_of_le inside step.grows,
        .inr (step.zeroes owned.inner rfl)⟩

/-- Every change of a task keeps the facts, when an array that it is given is
neither cached nor owned by another task. -/
theorem CacheFacts.change
    (facts : CacheFacts platform start key stages count)
    (within : task < count) (stage : stages task = held)
    (changed : CacheChange platform call held kept start finish)
    (given : held = .before → ∀ inner, call.givenInner = some inner →
      FreshInner start stages count inner start.buffers) :
    CacheFacts platform finish (provenanceStep start finish (some call) key)
      (Function.update stages task kept) count := by
  cases changed with
  | quiet _ entry buffers =>
      exact facts.change_quiet within stage entry buffers _
  | cleared _ entry buffers => exact facts.change_cleared entry buffers
  | handed owned hands _ _ content entry =>
      exact facts.change_handed (facts.fresh hands (given rfl)) content entry _
  | refused hands _ zeroed entry =>
      exact facts.change_refused (facts.fresh hands (given rfl)) zeroed entry _
  | committed matching validated entry buffers =>
      exact facts.change_committed within stage matching validated entry
        buffers
  | rejected zeroed entry =>
      exact facts.change_rejected within stage zeroed entry _

end Facts

section Runs

variable {platform : Platform} {initial : SessionState}
  {events : List SessionStep}
  {ledger : Machine.Ledger SessionCall CacheStage SessionState}

/-- The ledger of a run of the cache. -/
structure CacheLedger (platform : Platform) (initial : SessionState)
    (events : List SessionStep)
    (ledger : Machine.Ledger SessionCall CacheStage SessionState) : Prop where
  operations : ∀ call ∈ ledger.calls, call.usesInnerKeyCache = true
  stages : ∀ task call, ledger.calls[task]? = some call →
    (ledger.owned task).Matches call (ledger.ran task)
  running : ∀ task, task < ledger.calls.length → ledger.ran task ≠ []
  unstarted : ∀ task, ledger.calls.length ≤ task →
    ledger.owned task = .before ∧ ledger.ran task = []
  facts : CacheFacts platform ledger.state
    (cacheProvenance platform initial events) ledger.owned ledger.calls.length

theorem CacheLedger.of_empty (empty : initial.cachedEntry = none) :
    CacheLedger platform initial []
      { state := initial
        calls := []
        owned := fun _ => .before
        ran := fun _ => [] } := by
  constructor
  case operations =>
    intro call member
    cases member
  case stages =>
    intro task call found
    cases found
  case running =>
    intro task bound
    exact absurd bound (Nat.not_lt_zero task)
  case unstarted =>
    intro task _
    exact ⟨rfl, rfl⟩
  case facts =>
    constructor
    case cached =>
      intro entry present
      rw [empty] at present
      cases present
    case validating =>
      intro task owned bound
      exact absurd bound (Nat.not_lt_zero task)
    case separate =>
      intro task other owned otherOwned bound
      exact absurd bound (Nat.not_lt_zero task)
    case settled =>
      intro task inner bound
      exact absurd bound (Nat.not_lt_zero task)

/-- A new task owns nothing. -/
theorem CacheFacts.grow {state : SessionState} {key : Option CryptoKey}
    {stages : Nat → CacheStage} {count : Nat}
    (facts : CacheFacts platform state key stages count)
    (new : stages count = .before) :
    CacheFacts platform state key stages (count + 1) := by
  have earlier : ∀ task, task < count + 1 → stages task ≠ .before →
      task < count := by
    intro task bound stage
    rcases Nat.lt_succ_iff_lt_or_eq.mp bound with before | same
    · exact before
    · rw [same] at stage
      exact absurd new stage
  constructor
  case cached => exact facts.cached
  case validating =>
    intro task owned bound stage
    exact facts.validating task owned (earlier task bound (by simp [stage]))
      stage
  case separate =>
    intro task other owned otherOwned bound otherBound different stage
      otherStage
    exact facts.separate task other owned otherOwned
      (earlier task bound (by simp [stage]))
      (earlier other otherBound (by simp [otherStage])) different stage
      otherStage
  case settled =>
    intro task inner bound stage
    exact facts.settled task inner (earlier task bound (by simp [stage]))
      stage

theorem CacheLedger.fresh (holds : CacheLedger platform initial events ledger)
    (agrees : Machine.Ownership.Agrees (sessionMachine platform) initial events
      ledger)
    {call : SessionCall}
    (step : CacheStep platform initial events (.start call))
    (sole : SoleHandover platform initial events (.start call))
    (inner : BufferRef) (given : call.givenInner = some inner) :
    FreshInner ledger.state ledger.owned (ledger.calls.length + 1) inner
      ledger.state.buffers := by
  obtain ⟨uncached, unpending⟩ := sole inner given
  have within := step.2 inner given
  rw [← agrees.state] at within uncached
  constructor
  case within => exact within
  case uncached => exact uncached
  case unowned =>
    intro other owned bound stage same
    rcases Nat.lt_succ_iff_lt_or_eq.mp bound with earlier | new
    · obtain ⟨otherCall, found⟩ : ∃ otherCall,
          ledger.calls[other]? = some otherCall :=
        ⟨_, List.getElem?_eq_getElem earlier⟩
      have pending := holds.stages other otherCall found
      rw [stage, CacheStage.Matches, same, agrees.ran] at pending
      rw [agrees.calls, List.getElem?_map, Option.map_eq_some_iff] at found
      obtain ⟨entry, present, rfl⟩ := found
      exact unpending other entry.1 entry.2 present pending
    · rw [new, (holds.unstarted _ (Nat.le_refl _)).1] at stage
      cases stage
  case added => exact ⟨[], (List.append_nil _).symm⟩

theorem CacheLedger.provenance_step
    (agrees : Machine.Ownership.Agrees (sessionMachine platform) initial events
      ledger)
    {event : SessionStep} {finish : SessionState}
    (stepped : finish = ((sessionMachine platform).run (Pool.initial initial)
      (events ++ [event])).state) :
    cacheProvenance platform initial (events ++ [event]) =
      provenanceStep ledger.state finish
        (((sessionMachine platform).run (Pool.initial initial)
          events).actor event)
        (cacheProvenance platform initial events) := by
  rw [cacheProvenance_append, stepped, Machine.run_append, Machine.run_cons,
    Machine.run_nil, agrees.state]

theorem CacheLedger.start (holds : CacheLedger platform initial events ledger)
    (agrees : Machine.Ownership.Agrees (sessionMachine platform) initial events
      ledger)
    {call : SessionCall} {kept : CacheStage} {finish : SessionState}
    (step : CacheStep platform initial events (.start call))
    (sole : SoleHandover platform initial events (.start call))
    (changed : CacheChange platform call .before kept ledger.state finish)
    (begun : Machine.Ownership.Agrees (sessionMachine platform) initial
      (events ++ [.start call]) (ledger.begin call kept finish)) :
    CacheLedger platform initial (events ++ [.start call])
      (ledger.begin call kept finish) := by
  obtain ⟨unowned, unran⟩ := holds.unstarted _ (Nat.le_refl _)
  have provenance := CacheLedger.provenance_step agrees begun.state
  simp only [Machine.Ledger.begin, Machine.Ledger.advance] at provenance ⊢
  constructor
  case operations =>
    intro other member
    rcases List.mem_append.mp member with earlier | new
    · exact holds.operations other earlier
    · rw [List.mem_singleton.mp new]
      exact step.1
  case stages =>
    intro task other found
    simp only at found ⊢
    by_cases new : task = ledger.calls.length
    · rw [new, List.getElem?_concat_length, Option.some.injEq] at found
      rw [new, Function.update_self, Function.update_self, ← found]
      apply CacheStage.Matches.change _ changed
      rw [unran]
      unfold CacheStage.Matches SessionCall.handover
      cases call.givenInner with
      | some inner => rfl
      | none => simp [handoverIn]
    · rw [Function.update_of_ne new, Function.update_of_ne new]
      have bound : task < ledger.calls.length := by
        obtain ⟨within, -⟩ := List.getElem?_eq_some_iff.mp found
        rw [List.length_append, List.length_singleton] at within
        omega
      rw [List.getElem?_append_left bound] at found
      exact holds.stages task other found
  case running =>
    intro task bound
    simp only at bound ⊢
    by_cases new : task = ledger.calls.length
    · rw [new, Function.update_self, unran]
      exact List.cons_ne_nil _ _
    · rw [Function.update_of_ne new]
      rw [List.length_append, List.length_singleton] at bound
      exact holds.running task (by omega)
  case unstarted =>
    intro task beyond
    simp only [List.length_append, List.length_singleton] at beyond ⊢
    have other : task ≠ ledger.calls.length := by omega
    rw [Function.update_of_ne other, Function.update_of_ne other]
    exact holds.unstarted task (by omega)
  case facts =>
    rw [provenance, List.length_append, List.length_singleton]
    apply (holds.facts.grow unowned).change (Nat.lt_succ_self _) unowned
      changed
    intro _ inner given
    exact holds.fresh agrees step sole inner given

theorem CacheLedger.resume (holds : CacheLedger platform initial events ledger)
    (agrees : Machine.Ownership.Agrees (sessionMachine platform) initial events
      ledger)
    {task : Nat} {call : SessionCall} {kept : CacheStage}
    {finish : SessionState} (found : ledger.calls[task]? = some call)
    (changed : CacheChange platform call (ledger.owned task) kept ledger.state
      finish)
    (resumed : Machine.Ownership.Agrees (sessionMachine platform) initial
      (events ++ [.resume task]) (ledger.advance task kept finish)) :
    CacheLedger platform initial (events ++ [.resume task])
      (ledger.advance task kept finish) := by
  obtain ⟨within, -⟩ := List.getElem?_eq_some_iff.mp found
  have actor : ((sessionMachine platform).run (Pool.initial initial)
      events).actor (.resume task : SessionStep) = some call := by
    rw [agrees.calls, List.getElem?_map] at found
    exact found
  have provenance := CacheLedger.provenance_step agrees resumed.state
  rw [actor] at provenance
  simp only [Machine.Ledger.advance] at provenance ⊢
  have stage := holds.stages task call found
  constructor
  case operations => exact holds.operations
  case stages =>
    intro other otherCall present
    simp only at present ⊢
    by_cases same : other = task
    · subst same
      rw [found] at present
      cases present
      rw [Function.update_self, Function.update_self]
      exact stage.change changed
    · rw [Function.update_of_ne same, Function.update_of_ne same]
      exact holds.stages other otherCall present
  case running =>
    intro other bound
    simp only at bound ⊢
    by_cases same : other = task
    · rw [same, Function.update_self]
      simp
    · rw [Function.update_of_ne same]
      exact holds.running other bound
  case unstarted =>
    intro other beyond
    simp only at beyond ⊢
    have different : other ≠ task := by omega
    rw [Function.update_of_ne different, Function.update_of_ne different]
    exact holds.unstarted other beyond
  case facts =>
    rw [provenance]
    apply holds.facts.change within rfl changed
    intro before inner given
    -- A call that is given its array hands it over in its first segment.
    rw [before, CacheStage.Matches, SessionCall.handover, given] at stage
    exact absurd (handoverIn_none stage) (holds.running task within)

/-- What the environment does to the cache. -/
theorem sessionEnvironment_cache (event : SessionEvent)
    (state : SessionState) :
    ((sessionEnvironment event state).cachedEntry = state.cachedEntry ∧
        ∃ more, (sessionEnvironment event state).buffers =
          state.buffers ++ more) ∨
      (sessionEnvironment event state).cachedEntry = none ∧
        (sessionEnvironment event state).buffers =
          state.clearCachedEntry.buffers := by
  cases event with
  | clock time => exact .inl ⟨rfl, [], (List.append_nil _).symm⟩
  | timerFires handle =>
      simp only [sessionEnvironment]
      cases state.timeouts.fire state.now handle with
      | none => exact .inl ⟨rfl, [], (List.append_nil _).symm⟩
      | some timeouts =>
          have cleared :=
            lockVaultSession_cachedEntry { state with timeouts }
          refine .inr ⟨cleared, ?_⟩
          have zeroed := lockVaultSession_buffers { state with timeouts }
          rw [clearCachedEntry_buffers] at zeroed ⊢
          exact zeroed
  | configureVaultSession config =>
      exact .inl ⟨rfl, [], (List.append_nil _).symm⟩
  | callbacks listeners lockCleanupHandlers =>
      exact .inl ⟨rfl, [], (List.append_nil _).symm⟩
  | allocate bytes => exact .inl ⟨rfl, [bytes], rfl⟩

theorem CacheFacts.environment {state finish : SessionState}
    {key : Option CryptoKey} {stages : Nat → CacheStage} {count : Nat}
    (facts : CacheFacts platform state key stages count)
    (unowned : stages count = .before)
    (effect : (finish.cachedEntry = state.cachedEntry ∧
        ∃ more, finish.buffers = state.buffers ++ more) ∨
      finish.cachedEntry = none ∧
        finish.buffers = state.clearCachedEntry.buffers) :
    CacheFacts platform finish (provenanceStep state finish none key) stages
      count := by
  have same : Function.update stages count .before = stages := by
    rw [← unowned]
    exact Function.update_eq_self count stages
  rw [← same]
  rcases effect with grown | cleared
  · obtain ⟨entry, more, buffers⟩ := grown
    have step : BufferStep none state.buffers finish.buffers := by
      rw [buffers]
      exact .append more
    apply facts.step step
    · intro other owned bound _ validates
      refine ⟨nofun, ?_⟩
      rw [entry]
      exact (facts.validating other owned bound validates).2.2
    · intro present here
      exact .inl (entry.trans here)
    · exact facts.cached_of_kept step entry (fun _ _ => nofun) none
    · exact ⟨nofun, nofun⟩
  · exact facts.change_cleared cleared.1 cleared.2

theorem CacheLedger.environment
    (holds : CacheLedger platform initial events ledger)
    (agrees : Machine.Ownership.Agrees (sessionMachine platform) initial events
      ledger) (event : SessionEvent) :
    CacheLedger platform initial (events ++ [.environment event])
      { ledger with state := sessionEnvironment event ledger.state } := by
  have stepped : sessionEnvironment event ledger.state =
      ((sessionMachine platform).run (Pool.initial initial)
        (events ++ [.environment event])).state := by
    rw [Machine.run_append, Machine.run_cons, Machine.run_nil, agrees.state]
    rfl
  have provenance := CacheLedger.provenance_step agrees stepped
  simp only [Pool.actor] at provenance
  constructor
  case operations => exact holds.operations
  case stages => exact holds.stages
  case running => exact holds.running
  case unstarted => exact holds.unstarted
  case facts =>
    rw [provenance]
    exact holds.facts.environment (holds.unstarted _ (Nat.le_refl _)).1
      (sessionEnvironment_cache event ledger.state)

theorem CacheLedger.idle (holds : CacheLedger platform initial events ledger)
    (agrees : Machine.Ownership.Agrees (sessionMachine platform) initial events
      ledger)
    {task : Nat}
    (resting : Machine.Ownership.Agrees (sessionMachine platform) initial
      (events ++ [.resume task]) ledger) :
    CacheLedger platform initial (events ++ [.resume task]) ledger := by
  have provenance : cacheProvenance platform initial
      (events ++ [.resume task]) = cacheProvenance platform initial events := by
    rw [CacheLedger.provenance_step agrees resting.state, provenanceStep,
      if_pos rfl]
  constructor
  case operations => exact holds.operations
  case stages => exact holds.stages
  case running => exact holds.running
  case unstarted => exact holds.unstarted
  case facts =>
    rw [provenance]
    exact holds.facts

/-- A step of the cache that hands no array over twice. -/
def SoleCacheStep (platform : Platform) (initial : SessionState)
    (events : List SessionStep) (event : SessionStep) : Prop :=
  CacheStep platform initial events event ∧
    SoleHandover platform initial events event

theorem cacheLedger_preserved (platform : Platform) (initial : SessionState) :
    (cacheOwnership platform).Preserved (SoleCacheStep platform initial)
      initial (CacheLedger platform initial) := by
  constructor
  case valid =>
    intro events ledger holds task bound
    change (ledger.owned task).Valid ledger.state
    cases stage : ledger.owned task with
    | before => trivial
    | validating owned =>
        exact (holds.facts.validating task owned bound stage).2.1
    | after inner => trivial
  case start =>
    intro events ledger holds agrees call kept finish met changed begun
    exact holds.start agrees met.1 met.2 (changed met.1.1) begun
  case resume =>
    intro events ledger holds agrees task call kept finish found changed
      resumed
    have uses := holds.operations call (List.mem_of_getElem? found)
    exact holds.resume agrees found (changed uses) resumed
  case idle =>
    intro events ledger holds task resting agrees
    exact holds.idle agrees resting
  case environment =>
    intro events ledger holds agrees event _
    exact holds.environment agrees event

end Runs

/-- In every run of the cache in which no array is handed over while it is
cached or still validated, the cache keeps its promise. -/
theorem inner_key_cache_integrity (platform : Platform)
    (initial : SessionState) (empty : initial.cachedEntry = none)
    (events : List SessionStep)
    (sole : Machine.RunsWith (SoleCacheStep platform initial) events)
    (ideal : ∀ call key, PoolEvent.start call ∈ events →
      call.validatedKey = some key → platform.IdealProbe key.material) :
    CacheIntegrity platform initial events := by
  obtain ⟨ledger, agrees, holds, -⟩ := Machine.Ownership.run_preserved
    (cacheLedger_preserved platform initial) (.of_empty empty) sole
  constructor
  case cached =>
    intro entry present
    rw [← agrees.state] at present
    obtain ⟨-, key, known, matching⟩ := holds.facts.cached entry present
    obtain ⟨call, started, validated⟩ :=
      validated_of_cacheProvenance platform known
    refine ⟨key, known, ?_⟩
    rw [← agrees.state]
    exact assertInnerVaultKeyBlobMatchesVaultKey_restores
      (ideal call key started validated) matching
  case zeroed =>
    intro task call rest inner started handed uncached
    have found : ledger.calls[task]? = some call := by
      rw [agrees.calls, List.getElem?_map, started]
      rfl
    obtain ⟨bound, -⟩ := List.getElem?_eq_some_iff.mp found
    have stage := holds.stages task call found
    rw [agrees.ran] at stage
    rw [← agrees.state] at uncached ⊢
    cases owned : ledger.owned task with
    | before =>
        rw [owned, CacheStage.Matches, handed] at stage
        cases stage
    | validating validated =>
        rw [owned, CacheStage.Matches, handed] at stage
        cases stage
    | after settled =>
        rw [owned, CacheStage.Matches, handed] at stage
        cases stage
        rcases (holds.facts.settled task inner bound owned).2 with held | zero
        · obtain ⟨entry, present, same⟩ := held
          exact absurd same (uncached entry present)
        · exact zero

section Runs

variable {platform : Platform} {inner : BufferRef}
  {wrappingKey vaultKey : CryptoKey} {state : SessionState}

/-- What is left of a caching call once its array has been validated. -/
def cacheValidated (inner : BufferRef) (wrappingKey : CryptoKey)
    (operation : Option VaultSessionOperation)
    (validation : Except VaultError Unit) : SessionAsync SessionValue :=
  asynchronousCall (fun _ => .unit) do
    Async.tryCatch
      (do
        Async.done validation
        Async.lift (assertVaultSessionMutationAllowed operation))
      (fun error => do
        Async.lift (zeroSensitiveBytes inner)
        Async.throw error)
    Async.lift (storeCachedEntry inner wrappingKey)

private theorem cacheCall_first
    (allowed : state.mutationAllowed none = .ok ()) :
    (sessionProgram platform (.cacheVaultInnerKeyMaterialFromEnvelopeDecrypt
      inner wrappingKey vaultKey none)).runSegment state =
      (.pause (cacheValidated inner wrappingKey none
        (assertInnerVaultKeyBlobMatchesVaultKey platform (state.buffer inner)
          vaultKey wrappingKey)), state) := by
  simp only [sessionProgram, asynchronousCall,
    cacheVaultInnerKeyMaterialFromEnvelopeDecrypt, Async.lift,
    Async.bind_sync, Async.tryCatch, Async.runSegment,
    assertVaultSessionMutationAllowed, allowed]
  rfl

private theorem cacheCall_last
    (allowed : state.mutationAllowed none = .ok ()) :
    (cacheValidated inner wrappingKey none (.ok ())).runSegment state =
      (.done (.ok .unit), (storeCachedEntry inner wrappingKey state).2) := by
  simp only [cacheValidated, asynchronousCall, Async.lift, Async.bind_done_ok,
    Async.tryCatch, Async.bind_sync, Async.runSegment,
    assertVaultSessionMutationAllowed, allowed]
  rfl

end Runs

namespace Reference

/-- A platform whose cipher tells the probe of one key apart. -/
def probedPlatform : Platform := platform (envelopeLedger [] (material 7))

/-- The legacy blob of the vault key, cached once. -/
def cachingCall : SessionCall :=
  .cacheVaultInnerKeyMaterialFromEnvelopeDecrypt { index := 0 } vaultKey
    vaultKey none

def cachingRun : List SessionStep :=
  [.start cachingCall, .resume 0]

/-- A session with one array that holds the blob. -/
def blobSession : SessionState := { buffers := [(material 7).val] }

def blobEntry : VaultInnerKeyMaterialCacheEntry :=
  { inner := { index := 0 }, wrappingKey := vaultKey }

private theorem blob_matches :
    assertInnerVaultKeyBlobMatchesVaultKey probedPlatform (material 7).val
      vaultKey vaultKey = .ok () := by
  have restored : restoreInnerVaultKey probedPlatform (material 7).val vaultKey
      false = .ok { vaultKey with extractable := false } := rfl
  exact assertInnerVaultKeyBlobMatchesVaultKey_ok (platform_lawful _) restored
    rfl rfl

/-- The session once the blob has been cached. -/
def cachedSession : SessionState :=
  { blobSession with cachedEntry := some blobEntry }

private theorem cachingRun_started :
    (sessionMachine probedPlatform).run (Pool.initial blobSession)
      [.start cachingCall] =
      { state := blobSession
        tasks := [(cachingCall, .pause (cacheValidated { index := 0 } vaultKey
          none (.ok ())))] } := by
  have first := @cacheCall_first probedPlatform { index := 0 } vaultKey vaultKey
    blobSession rfl
  have content : blobSession.buffer { index := 0 } = (material 7).val := rfl
  rw [content, blob_matches] at first
  rw [Machine.run_cons, Machine.run_nil, Machine.step]
  change ({ state := (Async.runSegment (sessionProgram probedPlatform
    cachingCall) blobSession).2, tasks := [] ++ [(cachingCall,
      (Async.runSegment (sessionProgram probedPlatform cachingCall)
        blobSession).1)] } : Pool _ _ _ _) = _
  rw [cachingCall, first]
  rfl

private theorem cachingRun_cached :
    (sessionMachine probedPlatform).run (Pool.initial blobSession) cachingRun =
      { state := cachedSession
        tasks := [(cachingCall, .done (.ok .unit))] } := by
  have last := @cacheCall_last { index := 0 } vaultKey blobSession rfl
  have split : cachingRun =
      [PoolEvent.start cachingCall] ++ [PoolEvent.resume 0] := rfl
  rw [split, Machine.run_append, cachingRun_started, Machine.run_cons,
    Machine.run_nil]
  simp only [Machine.step, List.getElem?_cons_zero, Async.wake, last,
    List.set_cons_zero]
  rfl

/-- The blob is cached, and the cached array is cached once more. -/
def recachingRun : List SessionStep :=
  cachingRun ++ [.start cachingCall, .resume 1]

/-- Caching the array again zeroed it. -/
def recachedSession : SessionState :=
  { cachedSession with
    buffers := zeroedBuffers blobSession.buffers { index := 0 } }

private theorem recachingRun_recached :
    (sessionMachine probedPlatform).run (Pool.initial blobSession)
      recachingRun =
      { state := recachedSession
        tasks := [(cachingCall, .done (.ok .unit)),
          (cachingCall, .done (.ok .unit))] } := by
  have first := @cacheCall_first probedPlatform { index := 0 } vaultKey vaultKey
    cachedSession rfl
  have content : cachedSession.buffer { index := 0 } = (material 7).val := rfl
  rw [content, blob_matches] at first
  have last := @cacheCall_last { index := 0 } vaultKey cachedSession rfl
  have restarted : (sessionMachine probedPlatform).step
      { state := cachedSession
        tasks := [(cachingCall, .done (.ok .unit))] } (.start cachingCall) =
      { state := cachedSession
        tasks := [(cachingCall, .done (.ok .unit)),
          (cachingCall, .pause (cacheValidated { index := 0 } vaultKey none
            (.ok ())))] } := by
    change ({ state := (Async.runSegment (sessionProgram probedPlatform
      cachingCall) cachedSession).2
              tasks := [(cachingCall, .done (.ok .unit))] ++ [(cachingCall,
        (Async.runSegment (sessionProgram probedPlatform cachingCall)
          cachedSession).1)] } : Pool _ _ _ _) = _
    rw [cachingCall, first]
    rfl
  rw [recachingRun, Machine.run_append, cachingRun_cached, Machine.run_cons,
    restarted, Machine.run_cons, Machine.run_nil]
  simp only [Machine.step, List.getElem?_cons_succ, List.getElem?_cons_zero,
    Async.wake, last, List.set_cons_succ, List.set_cons_zero]
  rfl

end Reference

/-- The steps of the first caching are sound. -/
private theorem cachingRun_sole :
    Machine.RunsWith
      (SoleCacheStep Reference.probedPlatform Reference.blobSession)
      Reference.cachingRun := by
  have started : Machine.RunsWith
      (SoleCacheStep Reference.probedPlatform Reference.blobSession)
      ([] ++ [.start Reference.cachingCall]) := by
    apply Machine.RunsWith.snoc _ .nil
    constructor
    · refine ⟨rfl, ?_⟩
      intro inner given
      cases given
      exact Nat.zero_lt_one
    · intro inner given
      refine ⟨?_, ?_⟩
      · intro entry present
        cases present
      · intro task other rest found
        cases found
  exact started.snoc (.resume 0) ⟨trivial, trivial⟩

/-- A blob that is cached once. -/
theorem inner_key_cache_integrity_cached :
    Reference.blobSession.cachedEntry = none ∧
      CacheIntegrity Reference.probedPlatform Reference.blobSession
        Reference.cachingRun := by
  refine ⟨rfl, ?_⟩
  apply inner_key_cache_integrity Reference.probedPlatform
    Reference.blobSession rfl Reference.cachingRun cachingRun_sole
  intro call key started validated
  have same : call = Reference.cachingCall := by
    simpa [Reference.cachingRun] using started
  rw [same] at validated
  cases validated
  exact Reference.envelopeLedger_idealProbe List.length_replicate

/-- Caching the cached array again leaves zeros in the cache. -/
theorem recached_array_is_zeroed :
    Machine.RunsWith (CacheStep Reference.probedPlatform Reference.blobSession)
        Reference.recachingRun ∧
      ¬ CacheIntegrity Reference.probedPlatform Reference.blobSession
        Reference.recachingRun := by
  constructor
  · have started : Machine.RunsWith
        (CacheStep Reference.probedPlatform Reference.blobSession)
        ([] ++ [.start Reference.cachingCall]) := by
      apply Machine.RunsWith.snoc _ .nil
      refine ⟨rfl, ?_⟩
      intro inner given
      cases given
      exact Nat.zero_lt_one
    have cached : Machine.RunsWith
        (CacheStep Reference.probedPlatform Reference.blobSession)
        Reference.cachingRun := started.snoc (.resume 0) trivial
    have restarted : Machine.RunsWith
        (CacheStep Reference.probedPlatform Reference.blobSession)
        (Reference.cachingRun ++ [.start Reference.cachingCall]) := by
      apply Machine.RunsWith.snoc _ cached
      refine ⟨rfl, ?_⟩
      intro inner given
      cases given
      rw [Reference.cachingRun_cached]
      exact Nat.zero_lt_one
    exact restarted.snoc (.resume 1) trivial
  · intro integrity
    obtain ⟨key, known, restored⟩ := integrity.cached Reference.blobEntry (by
      rw [Reference.recachingRun_recached]
      rfl)
    obtain ⟨call, started, validated⟩ :=
      validated_of_cacheProvenance Reference.probedPlatform known
    have same : call = Reference.cachingCall := by
      simpa [Reference.recachingRun, Reference.cachingRun] using started
    rw [same] at validated
    cases validated
    rw [Reference.recachingRun_recached] at restored
    have zeros : restoreInnerVaultKey Reference.probedPlatform
        (Reference.recachedSession.buffer Reference.blobEntry.inner)
        Reference.blobEntry.wrappingKey false =
        .ok { algorithm := .aesGcm, material := Reference.material 0
              extractable := false } := rfl
    have equal := congrArg (fun key : CryptoKey => key.material.val.head?)
      (Except.ok.inj (zeros.symm.trans restored))
    cases equal

end VaultCore
