import VaultCore.Session.Effects

/-!
# Segments of the session calls

Rules for programs whose segments have the listed effects, and from them the
discipline of the session: in every interleaving, every segment of every call
has one of these effects under the token of the call.
-/

namespace VaultCore

section Programs

variable {α β : Type} {token : Option VaultSessionOperation}
  {powers : SessionPowers}
  {start state : SessionState}

/-- The program keeps the effects of a call, whatever happens between its
segments; the core has not changed yet in the current one. -/
def Effects (token : Option VaultSessionOperation)
    (powers : SessionPowers)
    (program : SessionAsync α) (state : SessionState) : Prop :=
  ∀ start : SessionState, state.toSessionCore = start.toSessionCore →
    program.Meets (fun _ => True) (StateEffect token powers)
      (fun _ begun finish => StateEffect token powers begun finish)
      start state

theorem StateEffect.refl (state : SessionState) :
    StateEffect token powers state state :=
  .unchanged

theorem StateEffect.from_core {finish : SessionState}
    (quiet : state.toSessionCore = start.toSessionCore)
    (effect : StateEffect token powers state finish) :
    StateEffect token powers start finish := by
  unfold StateEffect at effect ⊢
  rw [← quiet]
  exact effect

theorem effects_done (outcome : Except VaultError α) :
    Effects token powers (.done outcome : SessionAsync α) state := by
  intro start quiet
  exact StateEffect.of_core_eq quiet

theorem effects_pure (value : α) :
    Effects token powers (pure value : SessionAsync α) state :=
  effects_done (.ok value)

theorem effects_throw (error : VaultError) :
    Effects token powers (Async.throw error : SessionAsync α) state :=
  effects_done (.error error)

theorem effects_lift {code : SessionSync α}
    (effect : StateEffect token powers state (code state).2) :
    Effects token powers (Async.lift code) state := by
  intro start quiet
  exact effect.from_core quiet

theorem effects_assert {next : Unit → SessionAsync β}
    (continues : state.mutationAllowed token = .ok () →
      Effects token powers (next ()) state) :
    Effects token powers
      (Async.lift (assertVaultSessionMutationAllowed token) >>= next)
      state := by
  intro start quiet
  apply Async.Meets.bind_lift
  · intro value middle result
    simp only [assertVaultSessionMutationAllowed, Prod.mk.injEq] at result
    obtain ⟨allowed, same⟩ := result
    subst same
    exact continues allowed start quiet
  · intro error middle result
    simp only [assertVaultSessionMutationAllowed, Prod.mk.injEq] at result
    obtain ⟨-, same⟩ := result
    subst same
    exact StateEffect.of_core_eq quiet

theorem effects_get {next : SessionState → SessionAsync β}
    (continues : Effects token powers (next state) state) :
    Effects token powers (Async.lift Sync.get >>= next) state :=
  continues

theorem effects_ofExcept {outcome : Except VaultError α}
    {next : α → SessionAsync β}
    (continues : ∀ value, outcome = .ok value →
      Effects token powers (next value) state) :
    Effects token powers
      (Async.lift (Sync.ofExcept outcome) >>= next) state := by
  intro start quiet
  cases outcome with
  | ok value => exact continues value rfl start quiet
  | error error => exact StateEffect.of_core_eq quiet

theorem effects_awaitOutcome {outcome : Except VaultError α}
    {next : α → SessionAsync β}
    (continues : ∀ value later, outcome = .ok value →
      Effects token powers (next value) later) :
    Effects token powers (Async.awaitOutcome outcome >>= next) state := by
  intro start quiet
  apply Async.Meets.bind_awaitOutcome
  · exact StateEffect.of_core_eq quiet
  · intro value later result _
    exact continues value later result later rfl
  · intro error later _ _
    exact StateEffect.refl later

theorem effects_bind_await {program : SessionAsync α}
    {next : α → SessionAsync β}
    (effects : Effects token powers program state)
    (continues : ∀ value later, Effects token powers (next value) later) :
    Effects token powers (program.await >>= next) state := by
  intro start quiet
  apply Async.Meets.bind_await
  · exact effects start quiet
  · intro value later _
    exact continues value later later rfl
  · intro error later _
    exact StateEffect.refl later

theorem effects_await {program : SessionAsync α}
    (effects : Effects token powers program state) :
    Effects token powers program.await state := by
  intro start quiet
  exact Async.Meets.await_last StateEffect.refl (effects start quiet)

theorem effects_last {code : SessionSync α}
    {outcome : α → Except VaultError β}
    (effect : StateEffect token powers state (code state).2) :
    Effects token powers
      (Async.lift code >>= fun value => .done (outcome value)) state := by
  intro start quiet
  apply Async.Meets.bind_lift
  · intro value middle ran
    rw [ran] at effect
    exact effect.from_core quiet
  · intro error middle ran
    rw [ran] at effect
    exact effect.from_core quiet

theorem effects_synchronousCall {value : α → SessionValue}
    {code : SessionSync α}
    (effect : StateEffect token powers state (code state).2) :
    Effects token powers (synchronousCall value code) state := by
  exact effects_last effect

theorem effects_asynchronousCall {value : α → SessionValue}
    {program : SessionAsync α}
    (effects : Effects token powers program state) :
    Effects token powers (asynchronousCall value program) state := by
  intro start quiet
  apply Async.Meets.bind
  apply Async.Meets.mono (effects start quiet)
  intro outcome begun finish effect
  cases outcome <;> exact effect

theorem unlockVaultSession_effects {vaultKey : CryptoKey}
    {role : Option VaultSessionKeyRole}
    (may : powers.installs vaultKey (role.getD .primary)) :
    Effects token powers (unlockVaultSession vaultKey role token) state := by
  apply effects_assert
  intro _
  apply effects_awaitOutcome
  intro _ later asserted
  apply effects_lift
  apply installVaultSessionKey_effect
  · exact assertUserVaultKeyNonExtractable_ok_iff.mp asserted
  · exact may

theorem awaitCallback_effects {callback : Option (Except VaultError Unit)}
    {next : Unit → SessionAsync β}
    (continues : ∀ later, Effects token powers (next ()) later) :
    Effects token powers (awaitCallback callback >>= next) state := by
  cases callback with
  | none =>
      apply effects_awaitOutcome
      intro _ later _
      exact continues later
  | some outcome =>
      apply effects_awaitOutcome
      intro _ later _
      exact continues later

theorem finalizeUnlock_effects {vaultKey : CryptoKey}
    {role : VaultSessionKeyRole} {enteredEmergency : Bool}
    {callback : Option (Except VaultError Unit)}
    (may : powers.installs vaultKey role) :
    Effects token powers
      (finalizeUnlock vaultKey role enteredEmergency callback token)
      state := by
  apply effects_bind_await
  · exact unlockVaultSession_effects may
  · intro lease later
    cases enteredEmergency with
    | false => exact effects_pure vaultKey
    | true =>
        apply effects_assert
        intro _
        apply awaitCallback_effects
        intro afterCallback
        apply effects_assert
        intro _
        exact effects_pure vaultKey

section Routing

variable {platform : Platform}

/-- What a routed password unlock installs when it starts in this state. -/
theorem unlockVaultWithPasswordRouting_effects
    {input : EmergencyUnlockPasswordInput}
    (same : input.operation = token)
    (may : ∀ envelope vaultKey,
      selectPasswordEnvelope input.record
        (input.target state.toSessionCore) = .ok envelope →
      unlockWithPasswordEnvelope platform input.password envelope input.scope
        input.profile = .ok vaultKey →
      powers.installs vaultKey (input.target state.toSessionCore)) :
    Effects token powers (unlockVaultWithPasswordRouting platform input)
      state := by
  unfold unlockVaultWithPasswordRouting
  rw [same]
  apply effects_assert
  intro _
  apply effects_get
  apply effects_ofExcept
  intro envelope selected
  apply effects_awaitOutcome
  intro vaultKey later unlocked
  apply effects_await
  exact finalizeUnlock_effects (may envelope vaultKey selected unlocked)

theorem unlockVaultWithPasskeyRouting_effects
    {input : EmergencyUnlockPasskeyInput} (same : input.operation = token)
    (may : ∀ envelope vaultKey,
      selectPasskeyEnvelope input.record
        (input.target state.toSessionCore) = .ok envelope →
      unlockWithPasskeyPrfEnvelope platform envelope (some input.prfOutput)
        input.scope input.profile true = .ok vaultKey →
      powers.installs vaultKey (input.target state.toSessionCore)) :
    Effects token powers (unlockVaultWithPasskeyRouting platform input)
      state := by
  unfold unlockVaultWithPasskeyRouting
  rw [same]
  apply effects_assert
  intro _
  apply effects_get
  apply effects_ofExcept
  intro envelope selected
  apply effects_awaitOutcome
  intro vaultKey later unlocked
  apply effects_await
  exact finalizeUnlock_effects (may envelope vaultKey selected unlocked)

theorem unlockVaultWithPasskeyCandidateRouting_effects
    {input : EmergencyUnlockPasskeyCandidateInput}
    (same : input.operation = token)
    (may : ∀ candidates identifier vaultKey,
      selectCandidates input (input.target state.toSessionCore) =
        .ok candidates →
      unlockWithPasskeyPrfEnvelopeCandidates platform
        input.verifiedCredentialId candidates (some input.prfOutput)
        input.scope input.profile = .matched identifier vaultKey →
      powers.installs vaultKey (input.target state.toSessionCore)) :
    Effects token powers
      (unlockVaultWithPasskeyCandidateRouting platform input) state := by
  unfold unlockVaultWithPasskeyCandidateRouting
  rw [same]
  apply effects_assert
  intro _
  apply effects_get
  apply effects_ofExcept
  intro candidates selected
  apply effects_awaitOutcome
  intro result later resolved
  apply effects_assert
  intro _
  cases resolved
  cases found : unlockWithPasskeyPrfEnvelopeCandidates platform
      input.verifiedCredentialId candidates (some input.prfOutput)
      input.scope input.profile with
  | matched identifier vaultKey =>
      apply effects_bind_await
      · exact finalizeUnlock_effects
          (may candidates identifier vaultKey selected found)
      · intro _ afterwards
        exact effects_pure _
  | noMatch count => exact effects_pure _
  | prfUnavailable => exact effects_pure _
  | malformedCandidate reason index => exact effects_pure _
  | cryptoFailure reason index => exact effects_pure _

end Routing

/-- The program changes no core, and when it succeeds its token is allowed. -/
def Guarded (token : Option VaultSessionOperation)
    (powers : SessionPowers)
    (program : SessionAsync α) (state : SessionState) : Prop :=
  ∀ start : SessionState, state.toSessionCore = start.toSessionCore →
    program.Meets (fun _ => True) (StateEffect token powers)
      (fun outcome begun finish =>
        finish.toSessionCore = begun.toSessionCore ∧
          ∀ value, outcome = .ok value →
            finish.mutationAllowed token = .ok ())
      start state

theorem guarded_throw (error : VaultError) :
    Guarded token powers (Async.throw error : SessionAsync α) state := by
  intro start quiet
  exact ⟨quiet, fun value result => by cases result⟩

theorem guarded_quiet {code : SessionSync α} {next : α → SessionAsync β}
    (quietCode : (code state).2.toSessionCore = state.toSessionCore)
    (continues : ∀ value middle, code state = (.ok value, middle) →
      Guarded token powers (next value) middle) :
    Guarded token powers (Async.lift code >>= next) state := by
  intro start quiet
  apply Async.Meets.bind_lift
  · intro value middle ran
    rw [ran] at quietCode
    exact continues value middle ran start (quietCode.trans quiet)
  · intro error middle ran
    rw [ran] at quietCode
    exact ⟨quietCode.trans quiet, fun value result => by cases result⟩

theorem guarded_awaitOutcome {outcome : Except VaultError α}
    {next : α → SessionAsync β}
    (continues : ∀ value later, outcome = .ok value →
      Guarded token powers (next value) later) :
    Guarded token powers (Async.awaitOutcome outcome >>= next) state := by
  intro start quiet
  apply Async.Meets.bind_awaitOutcome
  · exact StateEffect.of_core_eq quiet
  · intro value later result _
    exact continues value later result later rfl
  · intro error later _ _
    exact ⟨rfl, fun value result => by cases result⟩

theorem guarded_assert :
    Guarded token powers
      (Async.lift (assertVaultSessionMutationAllowed token)) state := by
  intro start quiet
  apply Async.Meets.lift
  exact ⟨quiet, fun value result => result⟩

theorem guarded_assert_pure (value : α) :
    Guarded token powers (do
      Async.lift (assertVaultSessionMutationAllowed token)
      pure value) state := by
  intro start quiet
  apply Async.Meets.bind
  apply Async.Meets.mono (guarded_assert start quiet)
  intro outcome begun finish guarded
  cases outcome with
  | ok _ => exact ⟨guarded.1, fun _ _ => guarded.2 _ rfl⟩
  | error error => exact ⟨guarded.1, fun value result => by cases result⟩

theorem guarded_tryCatch {body : SessionAsync α}
    {handler : VaultError → SessionAsync α}
    (guarded : Guarded token powers body state)
    (recovers : ∀ error later, Guarded token powers (handler error) later) :
    Guarded token powers (body.tryCatch handler) state := by
  intro start quiet
  apply Async.Meets.tryCatch
  apply Async.Meets.mono (guarded start quiet)
  intro outcome begun finish result
  cases outcome with
  | ok value => exact result
  | error error => exact recovers error finish begun result.1

theorem effects_tryCatch {body : SessionAsync α}
    {handler : VaultError → SessionAsync α}
    (guarded : Guarded token powers body state)
    (recovers : ∀ error later, Effects token powers (handler error) later) :
    Effects token powers (body.tryCatch handler) state := by
  intro start quiet
  apply Async.Meets.tryCatch
  apply Async.Meets.mono (guarded start quiet)
  intro outcome begun finish result
  cases outcome with
  | ok value => exact StateEffect.of_core_eq result.1
  | error error => exact recovers error finish begun result.1

theorem effects_guarded {program : SessionAsync α}
    {next : α → SessionAsync β}
    (guarded : Guarded token powers program state)
    (continues : ∀ value later, later.mutationAllowed token = .ok () →
      Effects token powers (next value) later) :
    Effects token powers (program >>= next) state := by
  intro start quiet
  apply Async.Meets.bind
  apply Async.Meets.mono (guarded start quiet)
  intro outcome begun finish result
  cases outcome with
  | ok value => exact continues value finish (result.2 value rfl) begun result.1
  | error error => exact StateEffect.of_core_eq result.1

theorem effects_quiet {code : SessionSync α} {next : α → SessionAsync β}
    (quietCode : (code state).2.toSessionCore = state.toSessionCore)
    (continues : ∀ value middle, code state = (.ok value, middle) →
      Effects token powers (next value) middle) :
    Effects token powers (Async.lift code >>= next) state := by
  intro start quiet
  apply Async.Meets.bind_lift
  · intro value middle ran
    rw [ran] at quietCode
    exact continues value middle ran start (quietCode.trans quiet)
  · intro error middle ran
    rw [ran] at quietCode
    exact StateEffect.of_core_eq (quietCode.trans quiet)

section Cache

variable {platform : Platform}

/-- An entry is stored in the segment that begins with the last check. -/
theorem cacheVaultInnerKeyMaterialFromEnvelopeDecrypt_effects
    (inner : BufferRef) (wrappingKey sessionVaultKey : CryptoKey) :
    Effects token powers
      (cacheVaultInnerKeyMaterialFromEnvelopeDecrypt platform inner
        wrappingKey sessionVaultKey token) state := by
  apply effects_guarded
  · apply guarded_tryCatch
    · apply guarded_quiet rfl
      intro _ checked _
      apply guarded_quiet rfl
      intro read _ _
      apply guarded_awaitOutcome
      intro _ later _
      exact guarded_assert
    · intro error later
      apply guarded_quiet rfl
      intro _ zeroed _
      exact guarded_throw error
  · intro _ later allowed
    apply effects_lift
    exact storeCachedEntry_effect inner wrappingKey later allowed

theorem extractAndCache_effects (encryptedVaultKey : EncryptedVaultPayload)
    (derivedKeys : DerivedKeys) (sessionVaultKey : CryptoKey) :
    Effects token powers
      (extractAndCache platform encryptedVaultKey derivedKeys sessionVaultKey
        token) state := by
  apply effects_awaitOutcome
  intro bytes later _
  apply effects_quiet rfl
  intro inner allocated _
  apply effects_await
  exact cacheVaultInnerKeyMaterialFromEnvelopeDecrypt_effects _ _ _

theorem cacheVaultInnerKeyMaterialFromPasskeyEnvelope_effects
    (encryptedVaultKey : EncryptedVaultPayload) (prfOutput : Bytes)
    (prfEncryptionKey sessionVaultKey : CryptoKey) :
    Effects token powers
      (cacheVaultInnerKeyMaterialFromPasskeyEnvelope platform
        encryptedVaultKey prfOutput prfEncryptionKey sessionVaultKey token)
      state := by
  apply effects_assert
  intro _
  apply effects_awaitOutcome
  intro wrappingKey later _
  exact extractAndCache_effects _ _ _

theorem cacheVaultInnerKeyMaterialAfterPasswordUnlock_effects
    (sessionVaultKey : CryptoKey) (envelope : PasswordEnvelope)
    (vaultPassword : JsString) :
    Effects token powers
      (cacheVaultInnerKeyMaterialAfterPasswordUnlock platform sessionVaultKey
        envelope vaultPassword token) state := by
  apply effects_assert
  intro _
  apply effects_ofExcept
  intro _ _
  apply effects_awaitOutcome
  intro derivedKeys later _
  exact extractAndCache_effects _ _ _

theorem cacheVaultInnerKeyMaterialAfterRecoveryUnlock_effects
    (sessionVaultKey : CryptoKey) (envelope : RecoveryPhraseEnvelope)
    (recoveryPhrase : JsString) :
    Effects token powers
      (cacheVaultInnerKeyMaterialAfterRecoveryUnlock platform sessionVaultKey
        envelope recoveryPhrase token) state := by
  apply effects_assert
  intro _
  apply effects_ofExcept
  intro _ _
  apply effects_awaitOutcome
  intro derivedKeys later _
  exact extractAndCache_effects _ _ _

theorem cacheVaultInnerKeyMaterialFromPasskeyUnlock_effects
    (sessionVaultKey : CryptoKey) (envelope : PasskeyPrfEnvelope)
    (prfOutput : Bytes) :
    Effects token powers
      (cacheVaultInnerKeyMaterialFromPasskeyUnlock platform sessionVaultKey
        envelope prfOutput token) state := by
  apply effects_assert
  intro _
  apply effects_awaitOutcome
  intro prfKey later _
  apply effects_await
  exact cacheVaultInnerKeyMaterialFromPasskeyEnvelope_effects _ _ _ _

theorem resolveInnerVaultKeyBlobForWrap_effects (sessionVaultKey : CryptoKey)
    (innerVaultKeyBlob : Option BufferRef) :
    Effects token powers
      (resolveInnerVaultKeyBlobForWrap platform sessionVaultKey
        innerVaultKeyBlob token) state := by
  cases innerVaultKeyBlob with
  | some inner => exact effects_pure _
  | none =>
      apply effects_quiet
      · rw [getCachedVaultInnerKeyMaterial_state]
      · intro cached middle _
        cases cached with
        | none => exact effects_pure none
        | some entry =>
            apply effects_tryCatch
            · apply guarded_quiet rfl
              intro read _ _
              apply guarded_awaitOutcome
              intro _ later _
              exact guarded_assert_pure _
            · intro error later
              apply effects_assert
              intro _
              exact effects_last (clearVaultInnerKeyMaterialCache_effect later)

end Cache

theorem lockAndReset_effect (state : SessionState) :
    StateEffect token powers state
      ((do
        assertVaultSessionMutationAllowed token
        lockVaultSession
        resetVaultSessionLockState : SessionSync Unit) state).2 := by
  have lockedCore := lockVaultSession_core state
  simp only [assertVaultSessionMutationAllowed, Sync.bind_apply]
  cases state.mutationAllowed token with
  | error error => exact .unchanged
  | ok _ =>
      simp only
      cases result : lockVaultSession state with
      | mk outcome middle =>
          rw [result] at lockedCore
          simp only at lockedCore
          unfold StateEffect
          cases outcome with
          | error error =>
              simp only [lockedCore]
              exact .locked
          | ok _ =>
              simp only [resetVaultSessionLockState_core, lockedCore]
              exact .deleted

theorem deleteVaultAfterAuthorization_effects
    (purgePersistedVault : Except VaultError Unit) :
    Effects token powers
      (deleteVaultAfterAuthorization purgePersistedVault token) state := by
  apply effects_assert
  intro _
  apply effects_awaitOutcome
  intro _ later _
  apply effects_lift
  exact lockAndReset_effect later

theorem deleteVaultWithPasswordAuthorization_effects {platform : Platform}
    (currentPassword : JsString) (passwordEnvelope : PasswordEnvelope)
    (scope : VaultScope) (profile : VaultCryptoProfile)
    (purgePersistedVault : Except VaultError Unit) :
    Effects token powers
      (deleteVaultWithPasswordAuthorization platform currentPassword
        passwordEnvelope scope profile purgePersistedVault token) state := by
  apply effects_assert
  intro _
  apply effects_awaitOutcome
  intro _ later _
  apply effects_await
  exact deleteVaultAfterAuthorization_effects purgePersistedVault

/-- The supplied phrase opens the supplied envelope. -/
def ExitEmergencyModeInput.opensEnvelope (platform : Platform)
    (input : ExitEmergencyModeInput) : Prop :=
  ∃ vaultKey, unlockWithRecoveryEnvelope platform input.recoveryPhrase
    input.primaryRecoveryEnvelope input.scope input.profile none = .ok vaultKey

/-- A required one-time password is present. -/
def ExitEmergencyModeInput.emailVerified (input : ExitEmergencyModeInput) :
    Prop :=
  input.emailOtpRequired = true → input.emailOtp.getD [] ≠ []

theorem clearPinAndLock_effect (state : SessionState)
    (may : state.mutationAllowed token = .ok () →
      powers.releases state.toSessionCore) :
    StateEffect token powers state
      ((do
        assertVaultSessionMutationAllowed token
        clearEmergencyModePin token
        lockVaultSession : SessionSync Unit) state).2 := by
  simp only [assertVaultSessionMutationAllowed, clearEmergencyModePin, mutate,
    Sync.bind_apply, Sync.modify_apply]
  cases allowed : state.mutationAllowed token with
  | error error => exact .unchanged
  | ok _ =>
      unfold StateEffect
      simp only [allowed, lockVaultSession_core, SessionState.mapCore_core]
      exact .exited allowed (may allowed)

theorem exitEmergencyMode_effects {platform : Platform}
    {input : ExitEmergencyModeInput} (same : input.operation = token)
    (may : ∀ core : SessionCore, input.opensEnvelope platform →
      input.emailVerified → core.mutationAllowed token = .ok () →
        powers.releases core) :
    Effects token powers (exitEmergencyMode platform input) state := by
  unfold exitEmergencyMode
  rw [same]
  apply effects_assert
  intro _
  apply effects_get
  split
  · exact effects_pure ()
  · split
    · exact effects_throw _
    · rename_i verification
      apply effects_awaitOutcome
      intro vaultKey later opened
      apply effects_lift
      apply clearPinAndLock_effect
      apply may _ ⟨vaultKey, opened⟩
      intro required missing
      simp [required, missing] at verification

end Programs

section Calls

variable (platform : Platform)

/-- The keys that a call may install when it begins in the given session, each
with the role it gives it. -/
def SessionCall.installs : SessionCall → SessionCore → CryptoKey →
    VaultSessionKeyRole → Prop
  | .unlockVaultSession vaultKey role _, _, installedKey, installedRole =>
      installedKey = vaultKey ∧ installedRole = role.getD .primary
  | .unlockVaultWithPasswordRouting input, core, installedKey,
      installedRole =>
      installedRole = input.target core ∧ ∃ envelope,
        selectPasswordEnvelope input.record installedRole = .ok envelope ∧
        unlockWithPasswordEnvelope platform input.password envelope
          input.scope input.profile = .ok installedKey
  | .unlockVaultWithPasskeyRouting input, core, installedKey,
      installedRole =>
      installedRole = input.target core ∧ ∃ envelope,
        selectPasskeyEnvelope input.record installedRole = .ok envelope ∧
        unlockWithPasskeyPrfEnvelope platform envelope (some input.prfOutput)
          input.scope input.profile true = .ok installedKey
  | .unlockVaultWithPasskeyCandidateRouting input, core, installedKey,
      installedRole =>
      installedRole = input.target core ∧ ∃ candidates identifier,
        selectCandidates input installedRole = .ok candidates ∧
        unlockWithPasskeyPrfEnvelopeCandidates platform
          input.verifiedCredentialId candidates (some input.prfOutput)
          input.scope input.profile = .matched identifier installedKey
  | _, _, _, _ => False

/-- Whether a call may pin the emergency mode. -/
def SessionCall.pins : SessionCall → Bool
  | .enterVaultEmergencyMode _ => true
  | .hydrateVaultEmergencyModeFromServer emergencyModeActive _ =>
      emergencyModeActive
  | _ => false

/-- When a call may release the emergency pin of the given session. -/
def SessionCall.releases : SessionCall → SessionCore → Prop
  | .beginVaultSessionUnlock ownerId, core =>
      core.ownerChanged ownerId = true ∨ core.hasUnownedSensitiveState = true
  | .clearVaultSessionOwner, _ => True
  | .clearEmergencyModePin operation, core =>
      core.mutationAllowed operation = .ok ()
  | .exitEmergencyMode input, core =>
      input.opensEnvelope platform ∧ input.emailVerified ∧
        core.mutationAllowed input.operation = .ok ()
  | _, _ => False

/-- What a segment of the call may do to the session. -/
def SessionCall.powers (call : SessionCall) (core : SessionCore) :
    SessionPowers :=
  { installs := call.installs platform core
    pins := call.pins = true
    releases := call.releases platform }

/-- Every call keeps the effects of its token and of the keys it may install
when it begins in the given session. -/
theorem sessionProgram_effects (call : SessionCall) (origin : SessionState) :
    Effects call.token (call.powers platform origin.toSessionCore)
      (sessionProgram platform call) origin := by
  cases call with
  | beginVaultSessionUnlock ownerId =>
      exact effects_synchronousCall
        (beginVaultSessionUnlock_effect ownerId origin id)
  | unlockVaultSession vaultKey role operation =>
      exact effects_asynchronousCall (unlockVaultSession_effects ⟨rfl, rfl⟩)
  | lockVaultSession =>
      exact effects_synchronousCall (lockVaultSession_effect origin)
  | clearVaultSessionOwner =>
      exact effects_synchronousCall
        (clearVaultSessionOwner_effect origin trivial)
  | scheduleVaultAutoLock lease =>
      exact effects_synchronousCall
        (.of_core_eq (scheduleVaultAutoLock_core lease origin))
  | touchVaultSession lease =>
      exact effects_synchronousCall
        (.of_core_eq (touchVaultSession_core lease origin))
  | clearVaultAutoLockTimer =>
      exact effects_synchronousCall (.of_core_eq rfl)
  | resetVaultSessionLockState =>
      apply effects_synchronousCall
      unfold StateEffect
      rw [resetVaultSessionLockState_core]
      exact .reset
  | captureVaultSessionLease ownerId =>
      exact effects_synchronousCall (.of_core_eq rfl)
  | enterVaultEmergencyMode operation =>
      exact effects_synchronousCall (enterVaultEmergencyMode_effect origin rfl)
  | clearEmergencyModePin operation =>
      exact effects_synchronousCall (clearEmergencyModePin_effect origin id)
  | hydrateVaultEmergencyModeFromServer emergencyModeActive operation =>
      exact effects_synchronousCall
        (hydrateVaultEmergencyModeFromServer_effect emergencyModeActive origin
          id)
  | getCachedVaultInnerKeyMaterial operation =>
      apply effects_synchronousCall
      rw [getCachedVaultInnerKeyMaterial_state]
      exact .unchanged
  | clearVaultInnerKeyMaterialCache operation =>
      exact effects_synchronousCall
        (clearVaultInnerKeyMaterialCache_effect origin)
  | resolveInnerVaultKeyBlobForWrap sessionVaultKey innerVaultKeyBlob
      operation =>
      exact effects_asynchronousCall
        (resolveInnerVaultKeyBlobForWrap_effects _ _)
  | cacheVaultInnerKeyMaterialFromEnvelopeDecrypt inner wrappingKey
      sessionVaultKey operation =>
      exact effects_asynchronousCall
        (cacheVaultInnerKeyMaterialFromEnvelopeDecrypt_effects _ _ _)
  | cacheVaultInnerKeyMaterialFromPasskeyEnvelope encryptedVaultKey prfOutput
      prfEncryptionKey sessionVaultKey operation =>
      exact effects_asynchronousCall
        (cacheVaultInnerKeyMaterialFromPasskeyEnvelope_effects _ _ _ _)
  | cacheVaultInnerKeyMaterialAfterPasswordUnlock sessionVaultKey envelope
      vaultPassword operation =>
      exact effects_asynchronousCall
        (cacheVaultInnerKeyMaterialAfterPasswordUnlock_effects _ _ _)
  | cacheVaultInnerKeyMaterialAfterRecoveryUnlock sessionVaultKey envelope
      recoveryPhrase operation =>
      exact effects_asynchronousCall
        (cacheVaultInnerKeyMaterialAfterRecoveryUnlock_effects _ _ _)
  | cacheVaultInnerKeyMaterialFromPasskeyUnlock sessionVaultKey envelope
      prfOutput operation =>
      exact effects_asynchronousCall
        (cacheVaultInnerKeyMaterialFromPasskeyUnlock_effects _ _ _)
  | unlockVaultWithPasswordRouting input =>
      apply effects_asynchronousCall
      apply unlockVaultWithPasswordRouting_effects rfl
      intro envelope vaultKey selected unlocked
      exact ⟨rfl, envelope, selected, unlocked⟩
  | unlockVaultWithPasskeyRouting input =>
      apply effects_asynchronousCall
      apply unlockVaultWithPasskeyRouting_effects rfl
      intro envelope vaultKey selected unlocked
      exact ⟨rfl, envelope, selected, unlocked⟩
  | unlockVaultWithPasskeyCandidateRouting input =>
      apply effects_asynchronousCall
      apply unlockVaultWithPasskeyCandidateRouting_effects rfl
      intro candidates identifier vaultKey selected matched
      exact ⟨rfl, candidates, identifier, selected, matched⟩
  | exitEmergencyMode input =>
      apply effects_asynchronousCall
      apply exitEmergencyMode_effects rfl
      intro core opened verified allowed
      exact ⟨opened, verified, allowed⟩
  | deleteVaultAfterAuthorization purgePersistedVault operation =>
      exact effects_asynchronousCall
        (deleteVaultAfterAuthorization_effects purgePersistedVault)
  | deleteVaultWithPasswordAuthorization currentPassword passwordEnvelope
      scope profile purgePersistedVault operation =>
      exact effects_asynchronousCall
        (deleteVaultWithPasswordAuthorization_effects _ _ _ _ _)

/-- The environment only ever locks the session. -/
theorem sessionEnvironment_core (event : SessionEvent)
    (state : SessionState) :
    (sessionEnvironment event state).toSessionCore = state.toSessionCore ∨
      (sessionEnvironment event state).toSessionCore =
        state.toSessionCore.locked := by
  cases event with
  | clock time => exact .inl rfl
  | timerFires handle =>
      simp only [sessionEnvironment]
      cases state.timeouts.fire state.now handle with
      | none => exact .inl rfl
      | some timeouts =>
          exact .inr (lockVaultSession_core { state with timeouts })
  | configureVaultSession config => exact .inl rfl
  | callbacks listeners lockCleanupHandlers => exact .inl rfl
  | allocate bytes => exact .inl rfl

/-- What the environment does to the session. -/
def EnvironmentEffect (start finish : SessionState) : Prop :=
  finish.toSessionCore = start.toSessionCore ∨
    finish.toSessionCore = start.toSessionCore.locked

/-- Every segment of every call has one of the listed effects, in every
interleaving. -/
def sessionDiscipline : (sessionMachine platform).Discipline :=
  { invariant := fun _ => True
    guarantee := fun call origin start finish =>
      StateEffect call.token (call.powers platform origin.toSessionCore)
        start finish
    effect := fun _ start finish => EnvironmentEffect start finish
    reflexive := fun _ _ state => StateEffect.refl state
    keeps := fun _ _ _ _ _ _ => trivial
    keepsEffect := fun _ _ _ _ _ => trivial
    respects := fun call origin _ =>
      sessionProgram_effects platform call origin origin rfl
    environment := fun event state _ => sessionEnvironment_core event state }

/-- Every event of every run has one of the listed effects; when that effect
needs a token, it is the token of the call whose segment the event runs. -/
theorem session_step_effect (initial : SessionState)
    (events : List SessionStep) (event : SessionStep) :
    let pool := (sessionMachine platform).run (Pool.initial initial) events
    ∃ token powers,
      StateEffect token powers pool.state
        ((sessionMachine platform).step pool event).state ∧
      ∀ operation, token = some operation →
        ∃ call, pool.actor event = some call ∧
          call.token = some operation := by
  intro pool
  have start_holds : (sessionDiscipline platform).invariant initial := trivial
  have transition :=
    (sessionDiscipline platform).run_transition start_holds events event
  cases event with
  | start call =>
      exact ⟨call.token, _, transition, fun operation same => ⟨call, rfl, same⟩⟩
  | resume task =>
      simp only [Machine.Discipline.Transition] at transition
      split at transition
      · rename_i call program origin found begun
        refine ⟨call.token, _, transition, ?_⟩
        intro operation same
        refine ⟨call, ?_, same⟩
        simp only [Pool.actor, pool, found, Option.map_some]
      · refine ⟨none, SessionPowers.none, StateEffect.of_core_eq ?_, ?_⟩
        · exact congrArg SessionState.toSessionCore transition
        · intro operation impossible
          cases impossible
  | environment occurrence =>
      refine ⟨none, SessionPowers.none, ?_, ?_⟩
      · rcases transition with same | locked
        · exact StateEffect.of_core_eq same
        · unfold StateEffect
          rw [locked]
          exact .locked
      · intro operation impossible
        cases impossible

end Calls

end VaultCore
