import VaultCore.Async.Ownership
import VaultCore.Session.Segments

/-!
# Byte arrays handed to the inner key cache

A call that caches inner key material takes a byte array over, validates its
content across a suspension point, and then either caches it or zeroes it.
Between the two it owns the array.
-/

namespace VaultCore

/-- A byte array handed to the cache, and whether the call that took it over
has finished with it. -/
structure Handover where
  inner : BufferRef
  finished : Bool

/-- The handover in the first of these segments: the call has finished with
the array when its token was refused there or a later segment has run. -/
def handoverIn (token : Option VaultSessionOperation)
    (handed : SessionState → BufferRef) :
    List (SessionState × SessionState) → Option Handover
  | [] => none
  | [segment] => some
      { inner := handed segment.1
        finished := !(segment.1.mutationAllowed token).isOk }
  | segment :: _ :: _ => some { inner := handed segment.1, finished := true }

namespace SessionCall

/-- The operations of the inner key cache, and the lock. -/
def usesInnerKeyCache : SessionCall → Bool
  | .lockVaultSession => true
  | .getCachedVaultInnerKeyMaterial _ => true
  | .clearVaultInnerKeyMaterialCache _ => true
  | .resolveInnerVaultKeyBlobForWrap _ _ _ => true
  | .cacheVaultInnerKeyMaterialFromEnvelopeDecrypt _ _ _ _ => true
  | .cacheVaultInnerKeyMaterialFromPasskeyEnvelope _ _ _ _ _ => true
  | .cacheVaultInnerKeyMaterialAfterPasswordUnlock _ _ _ _ => true
  | .cacheVaultInnerKeyMaterialAfterRecoveryUnlock _ _ _ _ => true
  | .cacheVaultInnerKeyMaterialFromPasskeyUnlock _ _ _ _ => true
  | _ => false

/-- The array that a call is given to cache. -/
def givenInner : SessionCall → Option BufferRef
  | .cacheVaultInnerKeyMaterialFromEnvelopeDecrypt inner _ _ _ => some inner
  | _ => none

/-- Whether a call extracts the array it caches from an envelope. -/
def extractsInner : SessionCall → Bool
  | .cacheVaultInnerKeyMaterialFromPasskeyEnvelope _ _ _ _ _ => true
  | .cacheVaultInnerKeyMaterialAfterPasswordUnlock _ _ _ _ => true
  | .cacheVaultInnerKeyMaterialAfterRecoveryUnlock _ _ _ _ => true
  | .cacheVaultInnerKeyMaterialFromPasskeyUnlock _ _ _ _ => true
  | _ => false

/-- The session key that a caching call validates its array against. -/
def validatedKey : SessionCall → Option CryptoKey
  | .cacheVaultInnerKeyMaterialFromEnvelopeDecrypt _ _ sessionVaultKey _ =>
      some sessionVaultKey
  | .cacheVaultInnerKeyMaterialFromPasskeyEnvelope _ _ _ sessionVaultKey _ =>
      some sessionVaultKey
  | .cacheVaultInnerKeyMaterialAfterPasswordUnlock sessionVaultKey _ _ _ =>
      some sessionVaultKey
  | .cacheVaultInnerKeyMaterialAfterRecoveryUnlock sessionVaultKey _ _ _ =>
      some sessionVaultKey
  | .cacheVaultInnerKeyMaterialFromPasskeyUnlock sessionVaultKey _ _ _ =>
      some sessionVaultKey
  | _ => none

/-- The array that a call with the given segments has handed to the cache.  An
extracted array is handed over in the segment that allocates it. -/
def handover (call : SessionCall)
    (ran : List (SessionState × SessionState)) : Option Handover :=
  match call.givenInner with
  | some inner => handoverIn call.token (fun _ => inner) ran
  | none =>
      if call.extractsInner then
        handoverIn call.token (fun start => { index := start.buffers.length })
          (ran.dropWhile fun segment =>
            segment.2.buffers.length == segment.1.buffers.length)
      else none

end SessionCall

/-- The buffers with one of them zeroed. -/
def zeroedBuffers (buffers : List Bytes) (reference : BufferRef) :
    List Bytes :=
  buffers.modify reference.index fun bytes => List.replicate bytes.length 0

/-- What a caching call owns while it validates an array. -/
structure ValidatedInner where
  inner : BufferRef
  bytes : Bytes
  wrappingKey : CryptoKey
  vaultKey : CryptoKey

/-- How far a caching call is. -/
inductive CacheStage where
  | before
  | validating (owned : ValidatedInner)
  | after (inner : BufferRef)

/-- The content of an owned array stays as it was read. -/
def CacheStage.Valid : CacheStage → SessionState → Prop
  | .before, _ => True
  | .validating owned, state => state.buffer owned.inner = owned.bytes
  | .after _, _ => True

/-- The stages in which a segment of the call may change nothing. -/
def CacheStage.Resting (call : SessionCall) : CacheStage → Prop
  | .before => call.givenInner = none
  | .validating _ => False
  | .after _ => True

/-- How a call that begins its handover in the given session comes by its
array, and the arrays there are then. -/
inductive HandsBuffer (call : SessionCall) (start : SessionState) :
    BufferRef → List Bytes → Prop where
  | given {inner : BufferRef} : call.givenInner = some inner →
      HandsBuffer call start inner start.buffers
  | extracted (bytes : Bytes) : call.givenInner = none →
      call.extractsInner = true →
      HandsBuffer call start { index := start.buffers.length }
        (start.buffers ++ [bytes])

/-- How one segment of a call changes what the call owns, the cached entry and
the arrays. -/
inductive CacheChange (platform : Platform) (call : SessionCall) :
    CacheStage → CacheStage → SessionState → SessionState → Prop where
  | quiet {stage : CacheStage} {start finish : SessionState}
      (resting : stage.Resting call)
      (entry : finish.cachedEntry = start.cachedEntry)
      (buffers : finish.buffers = start.buffers) :
      CacheChange platform call stage stage start finish
  | cleared {start finish : SessionState}
      (apart : call.givenInner = none)
      (entry : finish.cachedEntry = none)
      (buffers : finish.buffers = start.clearCachedEntry.buffers) :
      CacheChange platform call .before .before start finish
  | handed {start finish : SessionState} (owned : ValidatedInner)
      (hands : HandsBuffer call start owned.inner finish.buffers)
      (allowed : start.mutationAllowed call.token = .ok ())
      (validated : call.validatedKey = some owned.vaultKey)
      (content : owned.bytes = finish.buffer owned.inner)
      (entry : finish.cachedEntry = start.cachedEntry) :
      CacheChange platform call .before (.validating owned) start finish
  | refused {start finish : SessionState} {inner : BufferRef}
      {buffers : List Bytes} {error : VaultError}
      (hands : HandsBuffer call start inner buffers)
      (refusal : start.mutationAllowed call.token = .error error)
      (zeroed : finish.buffers = zeroedBuffers buffers inner)
      (entry : finish.cachedEntry = start.cachedEntry) :
      CacheChange platform call .before (.after inner) start finish
  | committed {start finish : SessionState} {owned : ValidatedInner}
      (matching : assertInnerVaultKeyBlobMatchesVaultKey platform owned.bytes
        owned.vaultKey owned.wrappingKey = .ok ())
      (validated : call.validatedKey = some owned.vaultKey)
      (entry : finish.cachedEntry = some
        { inner := owned.inner, wrappingKey := owned.wrappingKey })
      (buffers : finish.buffers = start.clearCachedEntry.buffers) :
      CacheChange platform call (.validating owned) (.after owned.inner) start
        finish
  | rejected {start finish : SessionState} {owned : ValidatedInner}
      (zeroed : finish.buffers = zeroedBuffers start.buffers owned.inner)
      (entry : finish.cachedEntry = start.cachedEntry) :
      CacheChange platform call (.validating owned) (.after owned.inner) start
        finish

section Programs

variable {platform : Platform} {call : SessionCall} {α β : Type}
  {start state : SessionState}

/-- The last segment of the program ends with some change and leaves nothing
that is still validated. -/
def CacheSettles (platform : Platform) (call : SessionCall)
    (owned : CacheStage) (start finish : SessionState) : Prop :=
  ∃ kept, CacheChange platform call owned kept start finish ∧
    kept.Resting call

/-- The program uses the cache as a call that has taken nothing over yet. -/
def UsesCache (platform : Platform) (call : SessionCall)
    (program : SessionAsync α) (start state : SessionState) : Prop :=
  program.Owns CacheStage.Valid (CacheChange platform call)
    (fun _ owned begun finish => CacheSettles platform call owned begun finish)
    .before start state

/-- The program caches an array that its call is just taking over. -/
theorem cacheVaultInnerKeyMaterialFromEnvelopeDecrypt_owns
    {inner : BufferRef} {wrappingKey sessionVaultKey : CryptoKey}
    {token : Option VaultSessionOperation} (same : call.token = token)
    (core : state.toSessionCore = start.toSessionCore)
    (hands : HandsBuffer call start inner state.buffers)
    (validated : call.validatedKey = some sessionVaultKey) :
    (cacheVaultInnerKeyMaterialFromEnvelopeDecrypt platform inner wrappingKey
      sessionVaultKey token).Owns CacheStage.Valid (CacheChange platform call)
      (fun _ owned begun finish =>
        CacheChange platform call owned (.after inner) begun finish)
      .before start state := by
  have allowedStart : state.mutationAllowed token =
      start.mutationAllowed call.token := by rw [core, same]
  have entry : state.cachedEntry = start.cachedEntry := by rw [core]
  apply Async.Owns.bind
  apply Async.Owns.tryCatch
  apply Async.Owns.bind_lift
  · intro _ checked ran
    simp only [assertVaultSessionMutationAllowed, Prod.mk.injEq] at ran
    obtain ⟨allowed, rfl⟩ := ran
    apply Async.Owns.bind_lift
    · intro read checked ran
      cases ran
      apply Async.Owns.bind_awaitOutcome
      · exact .handed
          { inner, bytes := state.buffer inner, wrappingKey
            vaultKey := sessionVaultKey }
          hands (allowedStart.symm.trans allowed) validated rfl entry
      · intro _ later matching unchanged
        cases current : later.mutationAllowed token with
        | ok _ =>
            simp only [Async.lift, Async.Owns,
              assertVaultSessionMutationAllowed, current]
            exact .committed matching validated rfl rfl
        | error error =>
            simp only [Async.lift, Async.Owns,
              assertVaultSessionMutationAllowed, current]
            exact .rejected rfl rfl
      · intro error later mismatch unchanged
        exact .rejected rfl rfl
    · intro error checked ran
      cases ran
  · intro error checked ran
    simp only [assertVaultSessionMutationAllowed, Prod.mk.injEq] at ran
    obtain ⟨refusal, rfl⟩ := ran
    exact .refused hands (allowedStart.symm.trans refusal) rfl entry

theorem CacheSettles.quiet {owned : CacheStage}
    (resting : owned.Resting call) :
    CacheSettles platform call owned state state :=
  ⟨owned, .quiet resting rfl rfl, resting⟩

theorem usesCache_done (apart : call.givenInner = none)
    (outcome : Except VaultError α) :
    UsesCache platform call (.done outcome : SessionAsync α) state state :=
  CacheSettles.quiet apart

theorem usesCache_sync {code : SessionSync α} {next : α → SessionAsync β}
    (apart : call.givenInner = none) (unchanged : (code state).2 = state)
    (continues : ∀ value, (code state).1 = .ok value →
      UsesCache platform call (next value) state state) :
    UsesCache platform call (Async.lift code >>= next) state state := by
  apply Async.Owns.bind_lift
  · intro value middle ran
    rw [ran] at unchanged continues
    simp only at unchanged
    rw [unchanged]
    exact continues value rfl
  · intro error middle ran
    rw [ran] at unchanged
    simp only at unchanged
    rw [unchanged]
    exact .quiet apart

theorem usesCache_assert {next : Unit → SessionAsync β}
    {token : Option VaultSessionOperation} (apart : call.givenInner = none)
    (continues : UsesCache platform call (next ()) state state) :
    UsesCache platform call
      (Async.lift (assertVaultSessionMutationAllowed token) >>= next) state
      state := by
  apply usesCache_sync apart rfl
  intro _ _
  exact continues

theorem usesCache_awaitOutcome {outcome : Except VaultError α}
    {next : α → SessionAsync β} (apart : call.givenInner = none)
    (continues : ∀ value later,
      UsesCache platform call (next value) later later) :
    UsesCache platform call (Async.awaitOutcome outcome >>= next) state
      state := by
  apply Async.Owns.bind_awaitOutcome (.quiet apart rfl rfl)
  · intro value later _ _
    exact continues value later
  · intro error later _ _
    exact .quiet apart

theorem usesCache_await {program : SessionAsync α}
    {post : Except VaultError α → CacheStage → SessionState → SessionState →
      Prop} {owned : CacheStage}
    (owns : program.Owns CacheStage.Valid (CacheChange platform call) post
      owned start state)
    (ends : ∀ outcome held begun finish, post outcome held begun finish →
      CacheSettles platform call held begun finish) :
    program.await.Owns CacheStage.Valid (CacheChange platform call)
      (fun _ held begun finish => CacheSettles platform call held begun finish)
      owned start state := by
  apply Async.Owns.await
  apply Async.Owns.mono owns
  intro outcome held begun finish ended
  obtain ⟨kept, changed, resting⟩ := ends outcome held begun finish ended
  exact ⟨kept, changed, fun later _ => .quiet resting⟩

theorem extractAndCache_owns {encryptedVaultKey : EncryptedVaultPayload}
    {derivedKeys : DerivedKeys} {sessionVaultKey : CryptoKey}
    (apart : call.givenInner = none) (extracts : call.extractsInner = true)
    (validated : call.validatedKey = some sessionVaultKey) :
    UsesCache platform call
      (extractAndCache platform encryptedVaultKey derivedKeys sessionVaultKey
        call.token) state state := by
  apply usesCache_awaitOutcome apart
  intro bytes later
  apply Async.Owns.bind_lift
  · intro inner grown ran
    cases ran
    apply usesCache_await
    · exact cacheVaultInnerKeyMaterialFromEnvelopeDecrypt_owns rfl rfl
        (.extracted bytes apart extracts) validated
    · intro outcome held begun finish changed
      exact ⟨_, changed, trivial⟩
  · intro error grown ran
    cases ran

theorem cacheVaultInnerKeyMaterialFromPasskeyEnvelope_owns
    {encryptedVaultKey : EncryptedVaultPayload} {prfOutput : Bytes}
    {prfEncryptionKey sessionVaultKey : CryptoKey}
    (apart : call.givenInner = none) (extracts : call.extractsInner = true)
    (validated : call.validatedKey = some sessionVaultKey) :
    UsesCache platform call
      (cacheVaultInnerKeyMaterialFromPasskeyEnvelope platform
        encryptedVaultKey prfOutput prfEncryptionKey sessionVaultKey
        call.token) state state := by
  apply usesCache_assert apart
  apply usesCache_awaitOutcome apart
  intro wrappingKey later
  exact extractAndCache_owns apart extracts validated

theorem cacheVaultInnerKeyMaterialAfterPasswordUnlock_owns
    {sessionVaultKey : CryptoKey} {envelope : PasswordEnvelope}
    {vaultPassword : JsString}
    (apart : call.givenInner = none) (extracts : call.extractsInner = true)
    (validated : call.validatedKey = some sessionVaultKey) :
    UsesCache platform call
      (cacheVaultInnerKeyMaterialAfterPasswordUnlock platform sessionVaultKey
        envelope vaultPassword call.token) state state := by
  apply usesCache_assert apart
  apply usesCache_sync apart rfl
  intro _ _
  apply usesCache_awaitOutcome apart
  intro derivedKeys later
  exact extractAndCache_owns apart extracts validated

theorem cacheVaultInnerKeyMaterialAfterRecoveryUnlock_owns
    {sessionVaultKey : CryptoKey} {envelope : RecoveryPhraseEnvelope}
    {recoveryPhrase : JsString}
    (apart : call.givenInner = none) (extracts : call.extractsInner = true)
    (validated : call.validatedKey = some sessionVaultKey) :
    UsesCache platform call
      (cacheVaultInnerKeyMaterialAfterRecoveryUnlock platform sessionVaultKey
        envelope recoveryPhrase call.token) state state := by
  apply usesCache_assert apart
  apply usesCache_sync apart rfl
  intro _ _
  apply usesCache_awaitOutcome apart
  intro derivedKeys later
  exact extractAndCache_owns apart extracts validated

theorem cacheVaultInnerKeyMaterialFromPasskeyUnlock_owns
    {sessionVaultKey : CryptoKey} {envelope : PasskeyPrfEnvelope}
    {prfOutput : Bytes}
    (apart : call.givenInner = none) (extracts : call.extractsInner = true)
    (validated : call.validatedKey = some sessionVaultKey) :
    UsesCache platform call
      (cacheVaultInnerKeyMaterialFromPasskeyUnlock platform sessionVaultKey
        envelope prfOutput call.token) state state := by
  apply usesCache_assert apart
  apply usesCache_awaitOutcome apart
  intro prfKey later
  apply usesCache_await
  · exact cacheVaultInnerKeyMaterialFromPasskeyEnvelope_owns apart extracts
      validated
  · intro outcome held begun finish settled
    exact settled

theorem clearVaultInnerKeyMaterialCache_settles
    {token : Option VaultSessionOperation} (apart : call.givenInner = none) :
    CacheSettles platform call .before state
      (clearVaultInnerKeyMaterialCache token state).2 := by
  simp only [clearVaultInnerKeyMaterialCache, clearCachedEntry,
    assertVaultSessionMutationAllowed, Sync.bind_apply, Sync.modify_apply]
  cases state.mutationAllowed token with
  | error error => exact .quiet apart
  | ok _ => exact ⟨.before, .cleared apart rfl rfl, apart⟩

theorem clearCachedEntry_buffers (state : SessionState) :
    state.clearCachedEntry.buffers =
      match state.cachedEntry with
      | some entry => zeroedBuffers state.buffers entry.inner
      | none => state.buffers := by
  unfold SessionState.clearCachedEntry
  cases state.cachedEntry with
  | some entry => rfl
  | none => rfl

theorem lockVaultSession_buffers (state : SessionState) :
    (lockVaultSession state).2.buffers = state.clearCachedEntry.buffers := by
  rw [lockVaultSession_apply]
  rfl

theorem lockVaultSession_cachedEntry (state : SessionState) :
    (lockVaultSession state).2.cachedEntry = none := by
  rw [lockVaultSession_core]
  rfl

/-- A cached array that does not match the session key is cleared. -/
private theorem usesCache_refuted {token : Option VaultSessionOperation}
    (apart : call.givenInner = none) :
    UsesCache platform call (do
      Async.lift (assertVaultSessionMutationAllowed token)
      Async.lift (clearVaultInnerKeyMaterialCache token)
      Async.throw (.vaultAuthorizationError
        innerVaultKeyCacheMismatchMessage) : SessionAsync α) state state := by
  apply usesCache_assert apart
  apply Async.Owns.bind_lift
  · intro _ cleared ran
    have settles := @clearVaultInnerKeyMaterialCache_settles platform call
      state token apart
    rw [ran] at settles
    exact settles
  · intro error cleared ran
    have settles := @clearVaultInnerKeyMaterialCache_settles platform call
      state token apart
    rw [ran] at settles
    exact settles

theorem resolveInnerVaultKeyBlobForWrap_owns {sessionVaultKey : CryptoKey}
    {innerVaultKeyBlob : Option BufferRef}
    {token : Option VaultSessionOperation} (apart : call.givenInner = none) :
    UsesCache platform call
      (resolveInnerVaultKeyBlobForWrap platform sessionVaultKey
        innerVaultKeyBlob token) state state := by
  cases innerVaultKeyBlob with
  | some inner => exact usesCache_done apart _
  | none =>
      apply usesCache_sync apart (getCachedVaultInnerKeyMaterial_state state)
      intro cached _
      cases cached with
      | none => exact usesCache_done apart _
      | some entry =>
          apply Async.Owns.tryCatch
          apply Async.Owns.bind_lift
          · intro read same ran
            cases ran
            apply Async.Owns.bind_awaitOutcome (.quiet apart rfl rfl)
            · intro _ later _ _
              apply Async.Owns.bind_lift
              · intro _ checked ran
                obtain ⟨-, rfl⟩ := Prod.mk.inj ran
                exact .quiet apart
              · intro error checked ran
                obtain ⟨-, rfl⟩ := Prod.mk.inj ran
                exact usesCache_refuted apart
            · intro error later _ _
              exact usesCache_refuted apart
          · intro error same ran
            cases ran

theorem usesCache_asynchronousCall {value : α → SessionValue}
    {program : SessionAsync α}
    (uses : program.Owns CacheStage.Valid (CacheChange platform call)
      (fun _ owned begun finish =>
        CacheSettles platform call owned begun finish) .before start state) :
    UsesCache platform call (asynchronousCall value program) start state := by
  apply Async.Owns.bind
  apply Async.Owns.mono uses
  intro outcome held begun finish settled
  cases outcome with
  | ok value => exact settled
  | error error => exact settled

theorem usesCache_synchronousCall {value : α → SessionValue}
    {code : SessionSync α}
    (settles : CacheSettles platform call .before state (code state).2) :
    UsesCache platform call (synchronousCall value code) state state := by
  apply Async.Owns.bind_lift
  · intro _ finish ran
    rw [ran] at settles
    exact settles
  · intro error finish ran
    rw [ran] at settles
    exact settles

/-- Every operation of the cache changes it in one of the listed ways. -/
theorem sessionProgram_usesCache (uses : call.usesInnerKeyCache = true) :
    UsesCache platform call (sessionProgram platform call) state state := by
  cases call with
  | lockVaultSession =>
      apply usesCache_synchronousCall
      exact ⟨.before, .cleared rfl (lockVaultSession_cachedEntry state)
        (lockVaultSession_buffers state), rfl⟩
  | getCachedVaultInnerKeyMaterial operation =>
      apply usesCache_synchronousCall
      rw [getCachedVaultInnerKeyMaterial_state]
      exact CacheSettles.quiet rfl
  | clearVaultInnerKeyMaterialCache operation =>
      apply usesCache_synchronousCall
      exact clearVaultInnerKeyMaterialCache_settles rfl
  | resolveInnerVaultKeyBlobForWrap sessionVaultKey innerVaultKeyBlob
      operation =>
      apply usesCache_asynchronousCall
      exact resolveInnerVaultKeyBlobForWrap_owns rfl
  | cacheVaultInnerKeyMaterialFromEnvelopeDecrypt inner wrappingKey
      sessionVaultKey operation =>
      apply usesCache_asynchronousCall
      apply Async.Owns.mono
        (cacheVaultInnerKeyMaterialFromEnvelopeDecrypt_owns rfl rfl
          (.given rfl) rfl)
      intro outcome held begun finish changed
      exact ⟨_, changed, trivial⟩
  | cacheVaultInnerKeyMaterialFromPasskeyEnvelope encryptedVaultKey prfOutput
      prfEncryptionKey sessionVaultKey operation =>
      apply usesCache_asynchronousCall
      exact cacheVaultInnerKeyMaterialFromPasskeyEnvelope_owns rfl rfl rfl
  | cacheVaultInnerKeyMaterialAfterPasswordUnlock sessionVaultKey envelope
      vaultPassword operation =>
      apply usesCache_asynchronousCall
      exact cacheVaultInnerKeyMaterialAfterPasswordUnlock_owns rfl rfl rfl
  | cacheVaultInnerKeyMaterialAfterRecoveryUnlock sessionVaultKey envelope
      recoveryPhrase operation =>
      apply usesCache_asynchronousCall
      exact cacheVaultInnerKeyMaterialAfterRecoveryUnlock_owns rfl rfl rfl
  | cacheVaultInnerKeyMaterialFromPasskeyUnlock sessionVaultKey envelope
      prfOutput operation =>
      apply usesCache_asynchronousCall
      exact cacheVaultInnerKeyMaterialFromPasskeyUnlock_owns rfl rfl rfl
  | _ => cases uses

end Programs

section Handovers

variable {platform : Platform} {call : SessionCall}
  {token : Option VaultSessionOperation} {handed : SessionState → BufferRef}
  {ran : List (SessionState × SessionState)} {held kept : CacheStage}
  {start finish : SessionState}

/-- The stage says what the segments of the call have handed over. -/
def CacheStage.Matches (call : SessionCall)
    (ran : List (SessionState × SessionState)) : CacheStage → Prop
  | .before => call.handover ran = none
  | .validating owned =>
      call.handover ran = some { inner := owned.inner, finished := false }
  | .after inner => call.handover ran = some { inner, finished := true }

theorem handoverIn_none (none : handoverIn token handed ran = none) :
    ran = [] := by
  cases ran with
  | nil => rfl
  | cons first rest => cases rest <;> cases none

private theorem handoverIn_append {handover : Handover}
    (some : handoverIn token handed ran = .some handover)
    (segment : SessionState × SessionState) :
    handoverIn token handed (ran ++ [segment]) =
      .some { inner := handover.inner, finished := true } := by
  cases ran with
  | nil => cases some
  | cons first rest =>
      cases rest with
      | nil =>
          cases some
          rfl
      | cons second later =>
          cases some
          rfl

/-- A call that has handed nothing over may do so in its next segment. -/
theorem SessionCall.handover_append_of_none
    (none : call.handover ran = .none)
    (segment : SessionState × SessionState) :
    call.handover (ran ++ [segment]) = call.handover [segment] := by
  unfold SessionCall.handover at none ⊢
  cases given : call.givenInner with
  | some inner =>
      simp only [given] at none
      rw [handoverIn_none none, List.nil_append]
  | none =>
      simp only [given] at none
      simp only
      split
      · rename_i extracts
        rw [if_pos extracts] at none
        rw [List.dropWhile_append, handoverIn_none none]
        rfl
      · rfl

theorem SessionCall.handover_append_of_some {handover : Handover}
    (some : call.handover ran = .some handover)
    (segment : SessionState × SessionState) :
    call.handover (ran ++ [segment]) =
      .some { inner := handover.inner, finished := true } := by
  unfold SessionCall.handover at some ⊢
  cases given : call.givenInner with
  | some inner =>
      simp only [given] at some
      exact handoverIn_append some segment
  | none =>
      simp only [given] at some
      simp only
      split
      · rename_i extracts
        rw [if_pos extracts] at some
        rw [List.dropWhile_append]
        split
        · rename_i empty
          rw [List.isEmpty_iff.mp empty] at some
          cases some
        · exact handoverIn_append some segment
      · rename_i apart
        rw [if_neg apart] at some
        cases some

private theorem handover_unchanged (apart : call.givenInner = none)
    (length : finish.buffers.length = start.buffers.length) :
    call.handover [(start, finish)] = none := by
  unfold SessionCall.handover
  simp only [apart]
  split
  · simp [length, handoverIn]
  · rfl

private theorem handover_begun {inner : BufferRef} {buffers : List Bytes}
    (hands : HandsBuffer call start inner buffers)
    (length : finish.buffers.length = buffers.length) :
    call.handover [(start, finish)] = some
      { inner, finished := !(start.mutationAllowed call.token).isOk } := by
  unfold SessionCall.handover
  cases hands with
  | given handed => simp only [handed, handoverIn]
  | extracted bytes apart extracts =>
      simp only [apart, extracts, if_true]
      have grown : (finish.buffers.length == start.buffers.length) = false := by
        simp [length]
      simp only [List.dropWhile, grown, handoverIn]

/-- Every change keeps the stage in step with the segments. -/
theorem CacheStage.Matches.change (stage : held.Matches call ran)
    (changed : CacheChange platform call held kept start finish) :
    kept.Matches call (ran ++ [(start, finish)]) := by
  have cleared : start.clearCachedEntry.buffers.length =
      start.buffers.length := by
    rw [clearCachedEntry_buffers]
    cases start.cachedEntry with
    | none => rfl
    | some entry => exact List.length_modify ..
  cases changed with
  | quiet resting entry buffers =>
      cases held with
      | before =>
          refine (SessionCall.handover_append_of_none stage _).trans ?_
          exact handover_unchanged resting (congrArg List.length buffers)
      | validating owned => exact resting.elim
      | after inner => exact SessionCall.handover_append_of_some stage _
  | cleared apart entry buffers =>
      refine (SessionCall.handover_append_of_none stage _).trans ?_
      exact handover_unchanged apart
        ((congrArg List.length buffers).trans cleared)
  | handed owned hands allowed validated content entry =>
      refine (SessionCall.handover_append_of_none stage _).trans ?_
      rw [handover_begun hands rfl, allowed]
      rfl
  | refused hands refusal zeroed entry =>
      refine (SessionCall.handover_append_of_none stage _).trans ?_
      rw [handover_begun hands (by rw [zeroed]; exact List.length_modify ..),
        refusal]
      rfl
  | committed matching validated entry buffers =>
      exact SessionCall.handover_append_of_some stage _
  | rejected zeroed entry =>
      exact SessionCall.handover_append_of_some stage _

end Handovers

/-- What the operations of the cache own.  Nothing is said of other calls. -/
def cacheOwnership (platform : Platform) :
    (sessionMachine platform).Ownership CacheStage :=
  { nothing := .before
    valid := CacheStage.Valid
    change := fun call kept next start finish =>
      call.usesInnerKeyCache = true →
        CacheChange platform call kept next start finish
    respects := by
      intro call origin
      by_cases uses : call.usesInnerKeyCache = true
      · apply Async.Owns.mono
        · apply Async.Owns.weaken (sessionProgram_usesCache uses)
          intro held kept begun finish changed _
          exact changed
        · intro outcome held begun finish settled
          obtain ⟨kept, changed, -⟩ := settled
          exact ⟨kept, fun _ => changed⟩
      · apply Async.Owns.unrestricted
        · intro held kept begun finish listed
          exact absurd listed uses
        · intro outcome held begun finish
          exact ⟨held, fun listed => absurd listed uses⟩ }

end VaultCore
