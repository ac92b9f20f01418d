import VaultCore.Session.Segments
import VaultCore.Crypto.Reference

/-!
# Leases and the installed key

`Coherent` relates the installed key, the lease, the owner and the registry of
operations and leases.  Every effect preserves it, and an operation or a lease
that has stopped being current stays so.
-/

namespace VaultCore

namespace SessionCore

theorem isVaultSessionOperationCurrent_iff {core : SessionCore}
    {operation : VaultSessionOperation} :
    core.isVaultSessionOperationCurrent operation = true ↔
      core.currentOperation = some operation ∧
        ∃ metadata, core.metadataOf operation = some metadata ∧
          metadata.epoch = core.currentEpoch ∧
          core.currentOwnerId = some metadata.ownerId := by
  unfold isVaultSessionOperationCurrent
  cases core.metadataOf operation with
  | none => simp
  | some metadata => simp [and_assoc]

theorem isVaultSessionLeaseCurrent_iff {core : SessionCore}
    {lease : VaultSessionLease} :
    core.isVaultSessionLeaseCurrent lease = true ↔
      core.leaseMetadata[lease.id]? = some lease ∧
        core.currentLease = some lease ∧
        core.currentOwnerId = some lease.ownerId := by
  unfold isVaultSessionLeaseCurrent
  cases core.leaseMetadata[lease.id]? with
  | none => simp
  | some metadata =>
      simp only [Bool.and_eq_true, beq_iff_eq, Option.some.injEq]
      constructor
      · rintro ⟨⟨registered, current⟩, owner⟩
        rw [current, Option.some.injEq] at registered
        exact ⟨registered.symm, current, owner⟩
      · rintro ⟨rfl, current, owner⟩
        exact ⟨⟨current, current⟩, owner⟩

end SessionCore

/-- The relation between the key, the lease and the registry. -/
structure Coherent (core : SessionCore) : Prop where
  keyLeased : core.ownershipModeEnabled = true → core.currentLease = none →
    core.sessionVaultKey = none
  leaseHeld : ∀ lease, core.currentLease = some lease →
    core.sessionVaultKey = some lease.vaultKey ∧
      core.sessionKeyRole = some lease.role ∧
      core.currentOwnerId = some lease.ownerId
  leaseRegistered : ∀ lease, core.currentLease = some lease →
    core.leaseMetadata[lease.id]? = some lease
  keyNonExtractable : ∀ vaultKey, core.sessionVaultKey = some vaultKey →
    vaultKey.extractable = false
  lockedEmpty : core.manuallyLocked = true → core.sessionVaultKey = none
  unowned : core.ownershipModeEnabled = false →
    core.currentLease = none ∧ core.currentOperation = none ∧
      core.currentOwnerId = none

namespace Coherent

theorem initial : Coherent {} where
  keyLeased := fun _ _ => rfl
  leaseHeld := fun _ impossible => by cases impossible
  leaseRegistered := fun _ impossible => by cases impossible
  keyNonExtractable := fun _ impossible => by cases impossible
  lockedEmpty := fun _ => rfl
  unowned := fun _ => ⟨rfl, rfl, rfl⟩

variable {core : SessionCore}

/-- Nothing that has no key, no lease and no operation is incoherent, as long
as an owner comes with ownership mode. -/
theorem of_empty
    (key : core.sessionVaultKey = none)
    (lease : core.currentLease = none)
    (operation : core.ownershipModeEnabled = false →
      core.currentOperation = none ∧ core.currentOwnerId = none) :
    Coherent core where
  keyLeased := fun _ _ => key
  leaseHeld := fun held current => by rw [lease] at current; cases current
  leaseRegistered := fun held current => by
    rw [lease] at current
    cases current
  keyNonExtractable := fun installed holds => by
    rw [key] at holds
    cases holds
  lockedEmpty := fun _ => key
  unowned := fun disabled => ⟨lease, operation disabled⟩

theorem locked (coherent : Coherent core) : Coherent core.locked := by
  apply of_empty rfl rfl
  intro disabled
  exact ⟨rfl, (coherent.unowned disabled).2.2⟩

/-- The effects that touch neither the key nor the registry. -/
theorem of_same {finish : SessionCore} (coherent : Coherent core)
    (key : finish.sessionVaultKey = core.sessionVaultKey)
    (role : finish.sessionKeyRole = core.sessionKeyRole)
    (lease : finish.currentLease = core.currentLease)
    (leases : finish.leaseMetadata = core.leaseMetadata)
    (operation : finish.currentOperation = core.currentOperation)
    (owner : finish.currentOwnerId = core.currentOwnerId)
    (enabled : finish.ownershipModeEnabled = core.ownershipModeEnabled)
    (notRelocked : finish.manuallyLocked = true →
      core.manuallyLocked = true) : Coherent finish where
  keyLeased := by
    rw [key, lease, enabled]
    exact coherent.keyLeased
  leaseHeld := by
    rw [key, role, lease, owner]
    exact coherent.leaseHeld
  leaseRegistered := by
    rw [lease, leases]
    exact coherent.leaseRegistered
  keyNonExtractable := by
    rw [key]
    exact coherent.keyNonExtractable
  lockedEmpty := by
    rw [key]
    exact fun manually => coherent.lockedEmpty (notRelocked manually)
  unowned := by
    rw [enabled, lease, operation, owner]
    exact coherent.unowned

/-- A new operation for the same owner, or for a session that holds nothing. -/
theorem begun (coherent : Coherent core) {ownerId : JsString}
    (sameOwner : core.ownerChanged ownerId = false)
    (clean : core.hasUnownedSensitiveState = false) :
    Coherent (core.issueVaultSessionOperation ownerId) := by
  cases owned : core.currentOwnerId with
  | none =>
      have key : core.sessionVaultKey = none := by
        simp only [SessionCore.hasUnownedSensitiveState, owned,
          Option.isNone_none, Bool.true_and, Bool.or_eq_false_iff,
          SessionCore.isVaultUnlocked, Option.isSome_eq_false_iff,
          Option.isNone_iff_eq_none] at clean
        exact clean.1.1
      have lease : core.currentLease = none := by
        cases held : core.currentLease with
        | none => rfl
        | some lease =>
            have holds := (coherent.leaseHeld lease held).1
            rw [key] at holds
            cases holds
      exact of_empty key lease fun disabled => by cases disabled
  | some current =>
      have same : current = ownerId := by
        simpa [SessionCore.ownerChanged, owned] using sameOwner
      have enabled : core.ownershipModeEnabled = true := by
        by_contra disabled
        have unowned := (coherent.unowned (by simpa using disabled)).2.2
        rw [owned] at unowned
        cases unowned
      exact
        { keyLeased := fun _ => coherent.keyLeased enabled
          leaseHeld := by
            intro lease held
            obtain ⟨key, role, owner⟩ := coherent.leaseHeld lease held
            refine ⟨key, role, ?_⟩
            rw [← owner, owned, same]
            rfl
          leaseRegistered := coherent.leaseRegistered
          keyNonExtractable := coherent.keyNonExtractable
          lockedEmpty := coherent.lockedEmpty
          unowned := fun disabled => by cases disabled }

/-- A key installed without a token leaves no lease. -/
theorem installed_unleased (coherent : Coherent core) {vaultKey : CryptoKey}
    {role : VaultSessionKeyRole} (disabled : core.ownershipModeEnabled = false)
    (nonExtractable : vaultKey.extractable = false) :
    Coherent (core.installed none vaultKey role) := by
  have fields := SessionCore.installed_none core vaultKey role
  exact
    { keyLeased := fun enabled => by
        rw [fields.enabled, disabled] at enabled
        cases enabled
      leaseHeld := fun lease held => by
        rw [fields.lease] at held
        cases held
      leaseRegistered := fun lease held => by
        rw [fields.lease] at held
        cases held
      keyNonExtractable := fun installed holds => by
        rw [fields.vaultKey] at holds
        cases holds
        exact nonExtractable
      lockedEmpty := fun manually => by
        rw [fields.unlocked] at manually
        cases manually
      unowned := fun _ => by
        rw [fields.lease, fields.operation, fields.owner]
        exact ⟨rfl, (coherent.unowned disabled).2⟩ }

/-- A key installed under the current operation has that operation's lease. -/
theorem installed_leased (coherent : Coherent core)
    {operation : VaultSessionOperation} {vaultKey : CryptoKey}
    {role : VaultSessionKeyRole}
    (current : core.isVaultSessionOperationCurrent operation = true)
    (nonExtractable : vaultKey.extractable = false) :
    Coherent (core.installed (some operation) vaultKey role) := by
  obtain ⟨currentOperation, metadata, found, epoch, owner⟩ :=
    SessionCore.isVaultSessionOperationCurrent_iff.mp current
  have fields := SessionCore.installed_some found vaultKey role
  exact
    { keyLeased := fun _ unleased => by
        rw [fields.lease] at unleased
        cases unleased
      leaseHeld := fun lease held => by
        rw [fields.lease] at held
        cases held
        rw [fields.vaultKey, fields.role, fields.owner, owner]
        exact ⟨rfl, rfl, rfl⟩
      leaseRegistered := fun lease held => by
        rw [fields.lease] at held
        cases held
        rw [fields.leases]
        exact List.getElem?_concat_length
      keyNonExtractable := fun installed holds => by
        rw [fields.vaultKey] at holds
        cases holds
        exact nonExtractable
      lockedEmpty := fun manually => by
        rw [fields.unlocked] at manually
        cases manually
      unowned := fun disabled => by
        rw [fields.enabled] at disabled
        rw [(coherent.unowned disabled).2.1] at currentOperation
        cases currentOperation }

theorem installed (coherent : Coherent core)
    {token : Option VaultSessionOperation} {vaultKey : CryptoKey}
    {role : VaultSessionKeyRole}
    (allowed : core.mutationAllowed token = .ok ())
    (nonExtractable : vaultKey.extractable = false) :
    Coherent (core.installed token vaultKey role) := by
  cases token with
  | none =>
      apply coherent.installed_unleased _ nonExtractable
      by_contra enabled
      rw [SessionCore.mutationAllowed, if_pos (by simpa using enabled)]
        at allowed
      cases allowed
  | some operation =>
      apply coherent.installed_leased _ nonExtractable
      by_contra stale
      rw [SessionCore.mutationAllowed, if_neg stale] at allowed
      cases allowed

/-- Every effect preserves the relation. -/
theorem step {token : Option VaultSessionOperation}
    {powers : SessionPowers} {finish : SessionCore}
    (coherent : Coherent core)
    (effect : SessionEffect token powers core finish) : Coherent finish := by
  cases effect with
  | unchanged => exact coherent
  | locked => exact coherent.locked
  | deleted =>
      exact coherent.locked.of_same rfl rfl rfl rfl rfl rfl rfl
        fun impossible => by cases impossible
  | reset =>
      exact coherent.of_same rfl rfl rfl rfl rfl rfl rfl
        fun impossible => by cases impossible
  | disowned => exact of_empty rfl rfl fun _ => ⟨rfl, rfl⟩
  | begun ownerId sameOwner clean => exact coherent.begun sameOwner clean
  | purged ownerId =>
      exact of_empty rfl rfl fun impossible => by cases impossible
  | installed vaultKey role allowed nonExtractable may =>
      exact coherent.installed allowed nonExtractable
  | cached entry allowed =>
      exact coherent.of_same rfl rfl rfl rfl rfl rfl rfl id
  | uncached allowed =>
      exact coherent.of_same rfl rfl rfl rfl rfl rfl rfl id
  | pinned allowed may =>
      exact coherent.of_same rfl rfl rfl rfl rfl rfl rfl id
  | unpinned allowed =>
      exact coherent.of_same rfl rfl rfl rfl rfl rfl rfl id
  | exited allowed =>
      apply of_empty rfl rfl
      intro disabled
      exact ⟨rfl, (coherent.unowned disabled).2.2⟩

theorem leaseCurrent_iff (coherent : Coherent core)
    {lease : VaultSessionLease} :
    core.isVaultSessionLeaseCurrent lease = true ↔
      core.currentLease = some lease := by
  rw [SessionCore.isVaultSessionLeaseCurrent_iff]
  constructor
  · rintro ⟨_, held, _⟩
    exact held
  · intro held
    exact ⟨coherent.leaseRegistered lease held, held,
      (coherent.leaseHeld lease held).2.2⟩

end Coherent

/-- The operation has been issued and is not current. -/
def StaleOperation (operation : VaultSessionOperation) (core : SessionCore) :
    Prop :=
  operation.id < core.operationMetadata.length ∧
    core.isVaultSessionOperationCurrent operation = false

/-- The lease has been committed and is not current. -/
def StaleLease (lease : VaultSessionLease) (core : SessionCore) : Prop :=
  lease.id < core.leaseMetadata.length ∧
    core.isVaultSessionLeaseCurrent lease = false

section Staleness

variable {token : Option VaultSessionOperation}
  {powers : SessionPowers}
  {core finish : SessionCore} {operation : VaultSessionOperation}
  {lease : VaultSessionLease}

theorem StaleOperation.of_other
    (issued : operation.id < core.operationMetadata.length)
    (other : core.currentOperation ≠ some operation) :
    StaleOperation operation core := by
  refine ⟨issued, ?_⟩
  by_contra current
  exact other (SessionCore.isVaultSessionOperationCurrent_iff.mp
    (by simpa using current)).1

private theorem StaleOperation.of_same (stale : StaleOperation operation core)
    (operations : finish.operationMetadata = core.operationMetadata)
    (current : finish.currentOperation = core.currentOperation)
    (epoch : finish.currentEpoch = core.currentEpoch)
    (owner : finish.currentOwnerId = core.currentOwnerId) :
    StaleOperation operation finish := by
  unfold StaleOperation SessionCore.isVaultSessionOperationCurrent
    SessionCore.metadataOf at stale ⊢
  rw [operations, current, epoch, owner]
  exact stale

theorem StaleOperation.issue (ownerId : JsString)
    (issued : operation.id < core.operationMetadata.length) :
    StaleOperation operation (core.issueVaultSessionOperation ownerId) := by
  apply StaleOperation.of_other
  · simp only [SessionCore.issueVaultSessionOperation, List.length_append]
    omega
  · intro same
    have identity : core.operationMetadata.length = operation.id :=
      congrArg VaultSessionOperation.id (Option.some.inj same)
    omega

/-- No effect makes a stale operation current again. -/
theorem StaleOperation.step (stale : StaleOperation operation core)
    (effect : SessionEffect token powers core finish) :
    StaleOperation operation finish := by
  cases effect with
  | unchanged => exact stale
  | locked => exact .of_other stale.1 (by intro impossible; cases impossible)
  | deleted => exact .of_other stale.1 (by intro impossible; cases impossible)
  | reset => exact stale.of_same rfl rfl rfl rfl
  | disowned => exact .of_other stale.1 (by intro impossible; cases impossible)
  | begun ownerId sameOwner clean => exact .issue ownerId stale.1
  | purged ownerId =>
      exact .issue ownerId stale.1
  | installed vaultKey role allowed nonExtractable may =>
      obtain ⟨committed, fields, -⟩ :=
        SessionCore.installed_of_allowed allowed vaultKey role
      exact stale.of_same fields.operations fields.operation fields.epoch
        fields.owner
  | cached entry allowed => exact stale.of_same rfl rfl rfl rfl
  | uncached allowed => exact stale.of_same rfl rfl rfl rfl
  | pinned allowed may => exact stale.of_same rfl rfl rfl rfl
  | unpinned allowed => exact stale.of_same rfl rfl rfl rfl
  | exited allowed => exact .of_other stale.1 (by intro impossible; cases impossible)

private theorem StaleLease.of_same (coherent : Coherent finish)
    (stale : lease.id < core.leaseMetadata.length ∧
      core.currentLease ≠ some lease)
    (leases : finish.leaseMetadata = core.leaseMetadata)
    (current : finish.currentLease = core.currentLease ∨
      finish.currentLease = none) : StaleLease lease finish := by
  refine ⟨by rw [leases]; exact stale.1, ?_⟩
  rw [← Bool.not_eq_true, coherent.leaseCurrent_iff]
  rcases current with same | cleared
  · rw [same]
    exact stale.2
  · rw [cleared]
    intro impossible
    cases impossible

private theorem StaleLease.of_installed (coherent : Coherent finish)
    (stale : lease.id < core.leaseMetadata.length ∧
      core.currentLease ≠ some lease)
    {vaultKey : CryptoKey} {role : VaultSessionKeyRole}
    {committed : Option VaultSessionLease}
    (fields : SessionCore.Installed core vaultKey role committed finish)
    (fresh : ∀ next, committed = some next →
      next.id = core.leaseMetadata.length) : StaleLease lease finish := by
  refine ⟨?_, ?_⟩
  · rw [fields.leases, List.length_append]
    exact Nat.lt_add_right _ stale.1
  · rw [← Bool.not_eq_true, coherent.leaseCurrent_iff, fields.lease]
    intro same
    have identity := fresh lease same
    omega

/-- No effect makes a stale lease current again. -/
theorem StaleLease.step (coherent : Coherent core)
    (stale : StaleLease lease core)
    (effect : SessionEffect token powers core finish) :
    StaleLease lease finish := by
  have after := coherent.step effect
  have before : lease.id < core.leaseMetadata.length ∧
      core.currentLease ≠ some lease := by
    refine ⟨stale.1, ?_⟩
    rw [ne_eq, ← coherent.leaseCurrent_iff, stale.2]
    decide
  cases effect with
  | unchanged => exact stale
  | locked => exact .of_same after before rfl (.inr rfl)
  | deleted => exact .of_same after before rfl (.inr rfl)
  | reset => exact .of_same after before rfl (.inl rfl)
  | disowned => exact .of_same after before rfl (.inr rfl)
  | begun ownerId sameOwner clean =>
      exact .of_same after before rfl (.inl rfl)
  | purged ownerId => exact .of_same after before rfl (.inr rfl)
  | installed vaultKey role allowed nonExtractable may =>
      obtain ⟨committed, fields, fresh⟩ :=
        SessionCore.installed_of_allowed allowed vaultKey role
      exact .of_installed after before fields fresh
  | cached entry allowed => exact .of_same after before rfl (.inl rfl)
  | uncached allowed => exact .of_same after before rfl (.inl rfl)
  | pinned allowed may => exact .of_same after before rfl (.inl rfl)
  | unpinned allowed => exact .of_same after before rfl (.inl rfl)
  | exited allowed => exact .of_same after before rfl (.inr rfl)

end Staleness

section Runs

variable (platform : Platform)

/-- What every effect preserves holds to the end of every run. -/
theorem session_run_preserves (initial : SessionState)
    (property : SessionCore → Prop)
    (preserved : ∀ token powers core finish, property core →
      SessionEffect token powers core finish → property finish)
    (events later : List SessionStep)
    (holds : property ((sessionMachine platform).run (Pool.initial initial)
      events).state.toSessionCore) :
    property ((sessionMachine platform).run
      ((sessionMachine platform).run (Pool.initial initial) events)
      later).state.toSessionCore := by
  induction later generalizing events with
  | nil => exact holds
  | cons event rest ih =>
      obtain ⟨token, powers, effect, -⟩ :=
        session_step_effect platform initial events event
      have next := preserved token powers _ _ holds effect
      have stepped : (sessionMachine platform).run (Pool.initial initial)
          (events ++ [event]) = (sessionMachine platform).step
            ((sessionMachine platform).run (Pool.initial initial) events)
            event := by
        rw [Machine.run_append, Machine.run_cons, Machine.run_nil]
      rw [← stepped] at next
      rw [Machine.run_cons, ← stepped]
      exact ih (events ++ [event]) next

/-- The key, its lease, the role and the owner agree. -/
structure LeaseAgrees (core : SessionCore) : Prop where
  keyIffLease : core.sessionVaultKey.isSome = core.currentLease.isSome
  leaseFields : ∀ lease, core.currentLease = some lease →
    core.sessionVaultKey = some lease.vaultKey ∧
      core.sessionKeyRole = some lease.role ∧
      core.currentOwnerId = some lease.ownerId ∧
      core.isVaultSessionLeaseCurrent lease = true
  keyNonExtractable : ∀ vaultKey, core.sessionVaultKey = some vaultKey →
    vaultKey.extractable = false
  lockedEmpty : core.manuallyLocked = true → core.sessionVaultKey = none
  captured : ∀ ownerId lease,
    core.captureVaultSessionLease ownerId = .ok lease →
      core.sessionVaultKey = some lease.vaultKey ∧
        core.sessionKeyRole = some lease.role ∧
        core.currentOwnerId = some ownerId ∧ lease.ownerId = ownerId

theorem captureVaultSessionLease_ok {core : SessionCore} {ownerId : JsString}
    {lease : VaultSessionLease}
    (captured : core.captureVaultSessionLease ownerId = .ok lease) :
    core.currentLease = some lease ∧ lease.ownerId = ownerId := by
  unfold SessionCore.captureVaultSessionLease at captured
  cases valid : assertVaultSessionOperationOwnerId ownerId with
  | error error =>
      rw [valid] at captured
      cases captured
  | ok _ =>
      rw [valid, Outcome.ok_bind] at captured
      cases held : core.currentLease with
      | none =>
          rw [held] at captured
          cases captured
      | some current =>
          rw [held] at captured
          simp only at captured
          split at captured
          · cases captured
          · rename_i owner
            split at captured
            · cases captured
              exact ⟨rfl, by simpa using owner⟩
            · cases captured

theorem Coherent.leaseAgrees {core : SessionCore} (coherent : Coherent core)
    (enabled : core.ownershipModeEnabled = true) : LeaseAgrees core where
  keyIffLease := by
    cases held : core.currentLease with
    | none => rw [coherent.keyLeased enabled held]; rfl
    | some lease => rw [(coherent.leaseHeld lease held).1]; rfl
  leaseFields := by
    intro lease held
    obtain ⟨key, role, owner⟩ := coherent.leaseHeld lease held
    exact ⟨key, role, owner, coherent.leaseCurrent_iff.mpr held⟩
  keyNonExtractable := coherent.keyNonExtractable
  lockedEmpty := coherent.lockedEmpty
  captured := by
    intro ownerId lease captured
    obtain ⟨held, owner⟩ := captureVaultSessionLease_ok captured
    obtain ⟨key, role, current⟩ := coherent.leaseHeld lease held
    exact ⟨key, role, by rw [current, owner], owner⟩

/-- The session as its modules initialise it, whatever surrounds it. -/
def SessionState.fresh (surroundings : SessionState) : SessionState :=
  { surroundings with toSessionCore := {} }

theorem session_coherent (surroundings : SessionState)
    (events : List SessionStep) :
    Coherent ((sessionMachine platform).run (Pool.initial surroundings.fresh)
      events).state.toSessionCore := by
  apply session_run_preserves platform surroundings.fresh Coherent _ [] events
  · exact Coherent.initial
  · intro token powers core finish coherent effect
    exact coherent.step effect

/-- In every state that a session can reach in ownership mode, the key and the
lease agree, and what has stopped being current is never current again. -/
theorem lease_coherence (surroundings : SessionState)
    (events : List SessionStep)
    (enabled : ((sessionMachine platform).run
      (Pool.initial surroundings.fresh)
      events).state.ownershipModeEnabled = true) :
    let reached := (sessionMachine platform).run
      (Pool.initial surroundings.fresh) events
    LeaseAgrees reached.state.toSessionCore ∧
      ∀ later,
        (∀ operation,
          StaleOperation operation reached.state.toSessionCore →
          StaleOperation operation ((sessionMachine platform).run reached
            later).state.toSessionCore) ∧
        ∀ lease, StaleLease lease reached.state.toSessionCore →
          StaleLease lease ((sessionMachine platform).run reached
            later).state.toSessionCore := by
  intro reached
  have coherent := session_coherent platform surroundings events
  refine ⟨coherent.leaseAgrees enabled, ?_⟩
  intro later
  refine ⟨?_, ?_⟩
  · intro operation stale
    apply session_run_preserves platform _ (StaleOperation operation) _ events
    · exact stale
    · intro token powers core finish holds effect
      exact holds.step effect
  · intro lease stale
    have both := session_run_preserves platform surroundings.fresh
      (fun core => Coherent core ∧ StaleLease lease core)
      (fun token powers core finish holds effect =>
        ⟨holds.1.step effect, holds.2.step holds.1 effect⟩)
      events later ⟨coherent, stale⟩
    exact both.2

/-- A decoy key unlocked without an owner, and then a session that an owner
unlocks with the primary key. -/
theorem lease_coherence_adopted :
    let platform := Reference.platform []
    let key := { Reference.vaultKey with extractable := false }
    let events : List SessionStep :=
      [.start (.unlockVaultSession key (some .decoy) none), .resume 0,
        .start (.beginVaultSessionUnlock (js "alice")),
        .start (.unlockVaultSession key none (some { id := 0 })), .resume 2]
    let reached := (sessionMachine platform).run
      (Pool.initial (SessionState.fresh {})) events
    LeaseAgrees reached.state.toSessionCore ∧
      ∀ later,
        (∀ operation,
          StaleOperation operation reached.state.toSessionCore →
          StaleOperation operation ((sessionMachine platform).run reached
            later).state.toSessionCore) ∧
        ∀ lease, StaleLease lease reached.state.toSessionCore →
          StaleLease lease ((sessionMachine platform).run reached
            later).state.toSessionCore :=
  lease_coherence (Reference.platform []) {}
    [.start (.unlockVaultSession
        { Reference.vaultKey with extractable := false } (some .decoy) none),
      .resume 0, .start (.beginVaultSessionUnlock (js "alice")),
      .start (.unlockVaultSession
        { Reference.vaultKey with extractable := false } none
        (some { id := 0 })), .resume 2]
    rfl

end Runs

end VaultCore
