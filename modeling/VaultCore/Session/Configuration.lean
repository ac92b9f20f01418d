import VaultCore.Async.Conduct
import VaultCore.Session.Effects

/-!
# Who configures the session

Only `configureVaultSession` changes the configuration.  No other function of
the session does, at any of its steps and however it is interleaved with the
others.
-/

namespace VaultCore

/-- The configuration is as it was. -/
def SameConfig (start finish : SessionState) : Prop :=
  finish.sessionConfig = start.sessionConfig

instance : Std.Refl SameConfig := ⟨fun _ => rfl⟩

instance : IsTrans SessionState SameConfig :=
  ⟨fun _ _ _ first second => second.trans first⟩

/-- Code that leaves the configuration. -/
abbrev KeepsConfig {α : Type} (code : SessionSync α) : Prop :=
  code.Respects SameConfig

/-- A program all of whose steps leave the configuration. -/
abbrev LeavesConfig {α : Type} (program : SessionAsync α) : Prop :=
  program.Respects SameConfig

/-! ## Uninterrupted code -/

section Synchronous

variable {α : Type}

theorem keepsConfig_reads {code : SessionSync α}
    (reads : ∀ state, (code state).2 = state) : KeepsConfig code :=
  .of_unchanged reads

theorem keepsConfig_mutate (update : SessionCore → SessionCore) :
    KeepsConfig (mutate update) :=
  .modify fun _ => rfl

theorem keepsConfig_assert (operation : Option VaultSessionOperation) :
    KeepsConfig (assertVaultSessionMutationAllowed operation) :=
  keepsConfig_reads fun _ => rfl

theorem keepsConfig_get : KeepsConfig (Sync.get : SessionSync SessionState) :=
  keepsConfig_reads fun _ => rfl

theorem keepsConfig_clearCachedEntry :
    KeepsConfig (Sync.modify SessionState.clearCachedEntry) := by
  apply Sync.Respects.modify
  intro state
  unfold SameConfig SessionState.clearCachedEntry
  cases state.cachedEntry <;> rfl

theorem keepsConfig_notify : KeepsConfig notifyVaultSessionChange :=
  keepsConfig_reads fun state => by rw [notifyVaultSessionChange_apply]

theorem keepsConfig_lockVaultSession : KeepsConfig lockVaultSession := by
  intro state
  rw [lockVaultSession_apply]
  unfold SameConfig SessionState.purged SessionState.clearCachedEntry
  cases state.cachedEntry <;> rfl

theorem keepsConfig_clearTimer : KeepsConfig clearVaultAutoLockTimer :=
  .modify fun _ => rfl

theorem keepsConfig_scheduleInternal :
    KeepsConfig scheduleVaultAutoLockInternal := by
  intro state
  unfold SameConfig
  simp only [scheduleVaultAutoLockInternal, Sync.bind_apply, Sync.get_apply]
  split
  · rfl
  · simp only [clearVaultAutoLockTimer, Sync.bind_apply, Sync.modify_apply,
      Sync.ofExcept_apply]
    cases getAutoLockTimeoutMs state.sessionConfig <;> rfl

theorem keepsConfig_schedule (lease : Option VaultSessionLease) :
    KeepsConfig (scheduleVaultAutoLock lease) := by
  intro state
  simp only [scheduleVaultAutoLock, Sync.bind_apply, Sync.get_apply]
  split
  · rfl
  · simp only [assertVaultSessionLeaseMutationAllowed, Sync.bind_apply]
    cases state.leaseMutationAllowed lease with
    | error error => rfl
    | ok _ => exact keepsConfig_scheduleInternal state

theorem keepsConfig_touch (lease : Option VaultSessionLease) :
    KeepsConfig (touchVaultSession lease) := by
  intro state
  simp only [touchVaultSession, Sync.bind_apply, Sync.get_apply]
  split
  · simp only [assertVaultSessionLeaseMutationAllowed, Sync.bind_apply]
    cases state.leaseMutationAllowed lease with
    | error error => rfl
    | ok _ => exact keepsConfig_scheduleInternal state
  · rfl

theorem keepsConfig_commit (operation : Option VaultSessionOperation)
    (vaultKey : CryptoKey) (role : VaultSessionKeyRole) :
    KeepsConfig (commitVaultSessionLease operation vaultKey role) := by
  apply (keepsConfig_assert operation).bind
  intro _
  cases operation with
  | none =>
      apply (keepsConfig_mutate _).bind
      exact fun _ => keepsConfig_reads fun _ => rfl
  | some operation =>
      apply keepsConfig_get.bind
      intro state
      cases state.metadataOf operation with
      | none => exact keepsConfig_reads fun _ => rfl
      | some metadata =>
          apply (keepsConfig_mutate _).bind
          exact fun _ => keepsConfig_reads fun _ => rfl

theorem keepsConfig_install (vaultKey : CryptoKey)
    (role : VaultSessionKeyRole) (operation : Option VaultSessionOperation) :
    KeepsConfig (installVaultSessionKey vaultKey role operation) := by
  apply (keepsConfig_assert operation).bind
  intro _
  apply (keepsConfig_mutate _).bind
  intro _
  apply (keepsConfig_mutate _).bind
  intro _
  apply (keepsConfig_mutate _).bind
  intro _
  apply (keepsConfig_commit operation vaultKey role).bind
  intro lease
  apply keepsConfig_scheduleInternal.bind
  intro _
  apply keepsConfig_notify.bind
  exact fun _ => keepsConfig_reads fun _ => rfl

theorem keepsConfig_reset : KeepsConfig resetVaultSessionLockState := by
  apply (keepsConfig_mutate _).bind
  intro _
  apply keepsConfig_clearTimer.bind
  intro _
  apply Sync.Respects.bind
  · exact .modify fun _ => rfl
  · exact fun _ => keepsConfig_notify

theorem keepsConfig_issue (ownerId : JsString) :
    KeepsConfig (do
      let issuing ← Sync.get
      mutate (SessionCore.issueVaultSessionOperation ownerId)
      return issuing.nextOperation) := by
  apply keepsConfig_get.bind
  intro issuing
  apply (keepsConfig_mutate _).bind
  exact fun _ => keepsConfig_reads fun _ => rfl

theorem keepsConfig_begin (ownerId : JsString) :
    KeepsConfig (beginVaultSessionUnlock ownerId) := by
  apply (keepsConfig_reads fun _ => rfl).bind
  intro _
  apply keepsConfig_get.bind
  intro state
  dsimp only
  split
  · apply keepsConfig_lockVaultSession.bind
    intro _
    exact (keepsConfig_mutate _).bind fun _ => keepsConfig_issue ownerId
  · exact keepsConfig_issue ownerId

theorem keepsConfig_clearOwner : KeepsConfig clearVaultSessionOwner := by
  apply keepsConfig_lockVaultSession.bind
  intro _
  exact (keepsConfig_mutate _).bind fun _ => keepsConfig_mutate _

theorem keepsConfig_guarded (operation : Option VaultSessionOperation)
    (update : SessionCore → SessionCore) :
    KeepsConfig (do
      assertVaultSessionMutationAllowed operation
      mutate update) :=
  (keepsConfig_assert operation).bind fun _ => keepsConfig_mutate update

theorem keepsConfig_clearCache (operation : Option VaultSessionOperation) :
    KeepsConfig (clearVaultInnerKeyMaterialCache operation) :=
  (keepsConfig_assert operation).bind fun _ => keepsConfig_clearCachedEntry

theorem keepsConfig_getCached (operation : Option VaultSessionOperation) :
    KeepsConfig (getCachedVaultInnerKeyMaterial operation) :=
  keepsConfig_reads fun state => getCachedVaultInnerKeyMaterial_state state

end Synchronous

/-! ## Programs -/

section Programs

variable {α β : Type} {platform : Platform}

theorem leavesConfig_bind_await {outcome : Except VaultError α}
    {next : α → SessionAsync β}
    (continues : ∀ value, LeavesConfig (next value)) :
    LeavesConfig (Async.awaitOutcome outcome >>= next) :=
  Async.Respects.bind trivial continues

theorem leavesConfig_bind_lift {code : SessionSync α}
    {next : α → SessionAsync β} (keeps : KeepsConfig code)
    (continues : ∀ value, LeavesConfig (next value)) :
    LeavesConfig (Async.lift code >>= next) :=
  (Async.Respects.lift keeps).bind continues

theorem leavesConfig_bind_assert {operation : Option VaultSessionOperation}
    {next : Unit → SessionAsync β}
    (continues : ∀ value, LeavesConfig (next value)) :
    LeavesConfig
      (Async.lift (assertVaultSessionMutationAllowed operation) >>= next) :=
  leavesConfig_bind_lift (keepsConfig_assert operation) continues

theorem leavesConfig_bind_ofExcept {outcome : Except VaultError α}
    {next : α → SessionAsync β}
    (continues : ∀ value, LeavesConfig (next value)) :
    LeavesConfig (Async.lift (Sync.ofExcept outcome) >>= next) :=
  leavesConfig_bind_lift (keepsConfig_reads fun _ => rfl) continues

theorem leavesConfig_bind_get {next : SessionState → SessionAsync β}
    (continues : ∀ value, LeavesConfig (next value)) :
    LeavesConfig (Async.lift Sync.get >>= next) :=
  leavesConfig_bind_lift keepsConfig_get continues

theorem leavesConfig_unlock (vaultKey : CryptoKey)
    (role : Option VaultSessionKeyRole)
    (operation : Option VaultSessionOperation) :
    LeavesConfig (unlockVaultSession vaultKey role operation) := by
  apply leavesConfig_bind_assert
  intro _
  apply leavesConfig_bind_await
  exact fun _ => .lift (keepsConfig_install _ _ _)

theorem leavesConfig_cacheFromDecrypt (inner : BufferRef)
    (wrappingKey sessionVaultKey : CryptoKey)
    (operation : Option VaultSessionOperation) :
    LeavesConfig (cacheVaultInnerKeyMaterialFromEnvelopeDecrypt platform inner
      wrappingKey sessionVaultKey operation) := by
  apply Async.Respects.bind
  · apply Async.Respects.tryCatch
    · apply leavesConfig_bind_assert
      intro _
      apply leavesConfig_bind_get
      intro state
      apply leavesConfig_bind_await
      exact fun _ => .lift (keepsConfig_assert operation)
    · intro error
      apply leavesConfig_bind_lift
      · exact .modify fun _ => rfl
      · exact fun _ => trivial
  · intro _
    apply Async.Respects.lift
    exact keepsConfig_clearCachedEntry.bind fun _ => keepsConfig_mutate _

theorem leavesConfig_extractAndCache
    (encryptedVaultKey : EncryptedVaultPayload) (derivedKeys : DerivedKeys)
    (sessionVaultKey : CryptoKey)
    (operation : Option VaultSessionOperation) :
    LeavesConfig (extractAndCache platform encryptedVaultKey derivedKeys
      sessionVaultKey operation) := by
  apply leavesConfig_bind_await
  intro bytes
  apply leavesConfig_bind_lift
  · apply keepsConfig_get.bind
    intro state
    apply Sync.Respects.bind
    · exact .modify fun _ => rfl
    · exact fun _ => keepsConfig_reads fun _ => rfl
  · exact fun inner => (leavesConfig_cacheFromDecrypt _ _ _ _).await

theorem leavesConfig_cacheFromPasskeyEnvelope
    (encryptedVaultKey : EncryptedVaultPayload) (prfOutput : Bytes)
    (prfEncryptionKey sessionVaultKey : CryptoKey)
    (operation : Option VaultSessionOperation) :
    LeavesConfig (cacheVaultInnerKeyMaterialFromPasskeyEnvelope platform
      encryptedVaultKey prfOutput prfEncryptionKey sessionVaultKey
      operation) := by
  apply leavesConfig_bind_assert
  intro _
  apply leavesConfig_bind_await
  exact fun _ => leavesConfig_extractAndCache _ _ _ _

theorem leavesConfig_resolveInner (sessionVaultKey : CryptoKey)
    (innerVaultKeyBlob : Option BufferRef)
    (operation : Option VaultSessionOperation) :
    LeavesConfig (resolveInnerVaultKeyBlobForWrap platform sessionVaultKey
      innerVaultKeyBlob operation) := by
  unfold resolveInnerVaultKeyBlobForWrap
  cases innerVaultKeyBlob with
  | some inner => exact trivial
  | none =>
      apply leavesConfig_bind_lift (keepsConfig_getCached operation)
      intro cached
      cases cached with
      | none => exact trivial
      | some entry =>
          apply Async.Respects.tryCatch
          · apply leavesConfig_bind_get
            intro state
            apply leavesConfig_bind_await
            intro _
            apply leavesConfig_bind_assert
            exact fun _ => trivial
          · intro error
            apply leavesConfig_bind_assert
            intro _
            apply leavesConfig_bind_lift (keepsConfig_clearCache operation)
            exact fun _ => trivial

theorem leavesConfig_finalizeUnlock (vaultKey : CryptoKey)
    (role : VaultSessionKeyRole) (enteredEmergency : Bool)
    (onEmergencyEntered : Option (Except VaultError Unit))
    (operation : Option VaultSessionOperation) :
    LeavesConfig (finalizeUnlock vaultKey role enteredEmergency
      onEmergencyEntered operation) := by
  apply (leavesConfig_unlock _ _ _).await.bind
  intro lease
  cases enteredEmergency with
  | false => exact trivial
  | true =>
      apply leavesConfig_bind_assert
      intro _
      apply Async.Respects.bind
      · cases onEmergencyEntered <;> exact trivial
      · intro _
        apply leavesConfig_bind_assert
        exact fun _ => trivial

theorem leavesConfig_deleteAfterAuthorization
    (purgePersistedVault : Except VaultError Unit)
    (operation : Option VaultSessionOperation) :
    LeavesConfig (deleteVaultAfterAuthorization purgePersistedVault
      operation) := by
  apply leavesConfig_bind_assert
  intro _
  apply leavesConfig_bind_await
  intro _
  apply Async.Respects.lift
  apply (keepsConfig_assert operation).bind
  intro _
  exact keepsConfig_lockVaultSession.bind fun _ => keepsConfig_reset

theorem leavesConfig_exitEmergencyMode (input : ExitEmergencyModeInput) :
    LeavesConfig (exitEmergencyMode platform input) := by
  apply leavesConfig_bind_assert
  intro _
  apply leavesConfig_bind_get
  intro state
  split
  · exact trivial
  · split
    · exact trivial
    · apply leavesConfig_bind_await
      intro _
      apply Async.Respects.lift
      apply (keepsConfig_assert _).bind
      intro _
      apply (keepsConfig_guarded _ _).bind
      exact fun _ => keepsConfig_lockVaultSession

theorem leavesConfig_synchronousCall {value : α → SessionValue}
    {code : SessionSync α} (keeps : KeepsConfig code) :
    LeavesConfig (synchronousCall value code) := by
  apply leavesConfig_bind_lift keeps
  exact fun _ => trivial

theorem leavesConfig_asynchronousCall {value : α → SessionValue}
    {program : SessionAsync α} (leaves : LeavesConfig program) :
    LeavesConfig (asynchronousCall value program) :=
  leaves.bind fun _ => trivial

end Programs

/-- Whatever a page calls leaves the configuration. -/
theorem sessionProgram_leavesConfig (platform : Platform)
    (call : SessionCall) : LeavesConfig (sessionProgram platform call) := by
  cases call with
  | beginVaultSessionUnlock ownerId =>
      exact leavesConfig_synchronousCall (keepsConfig_begin ownerId)
  | unlockVaultSession vaultKey role operation =>
      exact leavesConfig_asynchronousCall (leavesConfig_unlock _ _ _)
  | lockVaultSession =>
      exact leavesConfig_synchronousCall keepsConfig_lockVaultSession
  | clearVaultSessionOwner =>
      exact leavesConfig_synchronousCall keepsConfig_clearOwner
  | scheduleVaultAutoLock lease =>
      exact leavesConfig_synchronousCall (keepsConfig_schedule lease)
  | touchVaultSession lease =>
      exact leavesConfig_synchronousCall (keepsConfig_touch lease)
  | clearVaultAutoLockTimer =>
      exact leavesConfig_synchronousCall keepsConfig_clearTimer
  | resetVaultSessionLockState =>
      exact leavesConfig_synchronousCall keepsConfig_reset
  | captureVaultSessionLease ownerId =>
      exact leavesConfig_synchronousCall (keepsConfig_reads fun _ => rfl)
  | enterVaultEmergencyMode operation =>
      exact leavesConfig_synchronousCall (keepsConfig_guarded _ _)
  | clearEmergencyModePin operation =>
      exact leavesConfig_synchronousCall (keepsConfig_guarded _ _)
  | hydrateVaultEmergencyModeFromServer emergencyModeActive operation =>
      apply leavesConfig_synchronousCall
      apply (keepsConfig_assert operation).bind
      intro _
      cases emergencyModeActive with
      | true => exact keepsConfig_guarded _ _
      | false => exact keepsConfig_reads fun _ => rfl
  | getCachedVaultInnerKeyMaterial operation =>
      exact leavesConfig_synchronousCall (keepsConfig_getCached operation)
  | clearVaultInnerKeyMaterialCache operation =>
      exact leavesConfig_synchronousCall (keepsConfig_clearCache operation)
  | resolveInnerVaultKeyBlobForWrap sessionVaultKey innerVaultKeyBlob
      operation =>
      exact leavesConfig_asynchronousCall (leavesConfig_resolveInner _ _ _)
  | cacheVaultInnerKeyMaterialFromEnvelopeDecrypt inner wrappingKey
      sessionVaultKey operation =>
      exact leavesConfig_asynchronousCall
        (leavesConfig_cacheFromDecrypt _ _ _ _)
  | cacheVaultInnerKeyMaterialFromPasskeyEnvelope encryptedVaultKey prfOutput
      prfEncryptionKey sessionVaultKey operation =>
      exact leavesConfig_asynchronousCall
        (leavesConfig_cacheFromPasskeyEnvelope _ _ _ _ _)
  | cacheVaultInnerKeyMaterialAfterPasswordUnlock sessionVaultKey envelope
      vaultPassword operation =>
      apply leavesConfig_asynchronousCall
      apply leavesConfig_bind_assert
      intro _
      apply leavesConfig_bind_ofExcept
      intro _
      apply leavesConfig_bind_await
      exact fun _ => leavesConfig_extractAndCache _ _ _ _
  | cacheVaultInnerKeyMaterialAfterRecoveryUnlock sessionVaultKey envelope
      recoveryPhrase operation =>
      apply leavesConfig_asynchronousCall
      apply leavesConfig_bind_assert
      intro _
      apply leavesConfig_bind_ofExcept
      intro _
      apply leavesConfig_bind_await
      exact fun _ => leavesConfig_extractAndCache _ _ _ _
  | cacheVaultInnerKeyMaterialFromPasskeyUnlock sessionVaultKey envelope
      prfOutput operation =>
      apply leavesConfig_asynchronousCall
      apply leavesConfig_bind_assert
      intro _
      apply leavesConfig_bind_await
      exact fun _ => (leavesConfig_cacheFromPasskeyEnvelope _ _ _ _ _).await
  | unlockVaultWithPasswordRouting input =>
      apply leavesConfig_asynchronousCall
      apply leavesConfig_bind_assert
      intro _
      apply leavesConfig_bind_get
      intro state
      apply leavesConfig_bind_ofExcept
      intro envelope
      apply leavesConfig_bind_await
      exact fun vaultKey => (leavesConfig_finalizeUnlock _ _ _ _ _).await
  | unlockVaultWithPasskeyRouting input =>
      apply leavesConfig_asynchronousCall
      apply leavesConfig_bind_assert
      intro _
      apply leavesConfig_bind_get
      intro state
      apply leavesConfig_bind_ofExcept
      intro envelope
      apply leavesConfig_bind_await
      exact fun vaultKey => (leavesConfig_finalizeUnlock _ _ _ _ _).await
  | unlockVaultWithPasskeyCandidateRouting input =>
      apply leavesConfig_asynchronousCall
      apply leavesConfig_bind_assert
      intro _
      apply leavesConfig_bind_get
      intro state
      apply leavesConfig_bind_ofExcept
      intro candidates
      apply leavesConfig_bind_await
      intro result
      apply leavesConfig_bind_assert
      intro _
      cases result with
      | matched envelopeVariantId vaultKey =>
          apply (leavesConfig_finalizeUnlock _ _ _ _ _).await.bind
          exact fun _ => trivial
      | _ => exact trivial
  | exitEmergencyMode input =>
      exact leavesConfig_asynchronousCall (leavesConfig_exitEmergencyMode _)
  | deleteVaultAfterAuthorization purgePersistedVault operation =>
      exact leavesConfig_asynchronousCall
        (leavesConfig_deleteAfterAuthorization _ _)
  | deleteVaultWithPasswordAuthorization currentPassword passwordEnvelope
      scope profile purgePersistedVault operation =>
      apply leavesConfig_asynchronousCall
      apply leavesConfig_bind_assert
      intro _
      apply leavesConfig_bind_await
      exact fun _ => (leavesConfig_deleteAfterAuthorization _ _).await

end VaultCore
