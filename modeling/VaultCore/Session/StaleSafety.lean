import VaultCore.Session.Segments
import VaultCore.Crypto.Reference

/-!
# Stale operations

Once the session has an owner, only a call whose token is the current one puts
anything into the sensitive part of the session.  Every other step leaves each
sensitive variable as it is or clears it.
-/

namespace VaultCore

/-- The step leaves each sensitive variable as it is, or clears it. -/
structure OnlyClears (start finish : SessionCore) : Prop where
  vaultKey : finish.sessionVaultKey = start.sessionVaultKey ∨
    finish.sessionVaultKey = none
  role : finish.sessionKeyRole = start.sessionKeyRole ∨
    finish.sessionKeyRole = none
  cache : finish.cachedEntry = start.cachedEntry ∨ finish.cachedEntry = none
  lease : finish.currentLease = start.currentLease ∨
    finish.currentLease = none
  pin : finish.emergencyModePinned = start.emergencyModePinned ∨
    finish.emergencyModePinned = false
  mode : finish.sessionMode = start.sessionMode ∨
    finish.sessionMode = .normal

namespace SessionEffect

variable {token : Option VaultSessionOperation}
  {powers : SessionPowers}
  {core finish : SessionCore}

/-- An effect that puts something into the session passed the check of its
token in the segment that has it. -/
theorem onlyClears_or_allowed (effect : SessionEffect token powers core finish) :
    OnlyClears core finish ∨ core.mutationAllowed token = .ok () := by
  cases effect with
  | unchanged =>
      exact .inl ⟨.inl rfl, .inl rfl, .inl rfl, .inl rfl, .inl rfl, .inl rfl⟩
  | locked =>
      exact .inl ⟨.inr rfl, .inr rfl, .inr rfl, .inr rfl, .inl rfl, .inl rfl⟩
  | deleted =>
      exact .inl ⟨.inr rfl, .inr rfl, .inr rfl, .inr rfl, .inl rfl, .inl rfl⟩
  | reset =>
      exact .inl ⟨.inl rfl, .inl rfl, .inl rfl, .inl rfl, .inl rfl, .inl rfl⟩
  | disowned =>
      exact .inl ⟨.inr rfl, .inr rfl, .inr rfl, .inr rfl, .inr rfl, .inr rfl⟩
  | begun ownerId sameOwner clean =>
      exact .inl ⟨.inl rfl, .inl rfl, .inl rfl, .inl rfl, .inl rfl, .inl rfl⟩
  | purged ownerId =>
      exact .inl ⟨.inr rfl, .inr rfl, .inr rfl, .inr rfl, .inr rfl, .inr rfl⟩
  | installed vaultKey role allowed nonExtractable may => exact .inr allowed
  | cached entry allowed => exact .inr allowed
  | uncached allowed => exact .inr allowed
  | pinned allowed may => exact .inr allowed
  | unpinned allowed => exact .inr allowed
  | exited allowed => exact .inr allowed

end SessionEffect

theorem SessionCore.mutationAllowed_owned {core : SessionCore}
    {token : Option VaultSessionOperation}
    (enabled : core.ownershipModeEnabled = true)
    (allowed : core.mutationAllowed token = .ok ()) :
    ∃ operation, token = some operation ∧
      core.isVaultSessionOperationCurrent operation = true := by
  cases token with
  | none =>
      simp only [SessionCore.mutationAllowed, enabled, if_true] at allowed
      cases allowed
  | some operation =>
      refine ⟨operation, rfl, ?_⟩
      by_contra stale
      rw [SessionCore.mutationAllowed, if_neg stale] at allowed
      cases allowed

/-- In every interleaving, once ownership mode is enabled, a step that sets the
session key, its role, the cache entry, the lease or the emergency pin is a
segment of a call whose token is current in the state it acts on. -/
theorem stale_operation_sets_nothing (platform : Platform)
    (initial : SessionState)
    (events : List SessionStep) (event : SessionStep)
    (enabled : ((sessionMachine platform).run (Pool.initial initial)
      events).state.ownershipModeEnabled = true) :
    let pool := (sessionMachine platform).run (Pool.initial initial) events
    OnlyClears pool.state.toSessionCore
        ((sessionMachine platform).step pool event).state.toSessionCore ∨
      ∃ call operation, pool.actor event = some call ∧
        call.token = some operation ∧
        pool.state.isVaultSessionOperationCurrent operation = true := by
  intro pool
  obtain ⟨token, powers, effect, acts⟩ :=
    session_step_effect platform initial events event
  rcases effect.onlyClears_or_allowed with clears | allowed
  · exact .inl clears
  · obtain ⟨operation, given, current⟩ :=
      SessionCore.mutationAllowed_owned enabled allowed
    obtain ⟨call, actor, same⟩ := acts operation given
    exact .inr ⟨call, operation, actor, same, current⟩

/-- An unlock that began before another owner took the session over. -/
theorem stale_operation_sets_nothing_overtaken :
    let platform := Reference.platform []
    let key := { Reference.vaultKey with extractable := false }
    let events : List SessionStep :=
      [.start (.beginVaultSessionUnlock (js "alice")),
        .start (.unlockVaultSession key none (some { id := 0 })),
        .start (.beginVaultSessionUnlock (js "bob"))]
    let event : SessionStep := .resume 1
    let pool := (sessionMachine platform).run (Pool.initial {}) events
    OnlyClears pool.state.toSessionCore
        ((sessionMachine platform).step pool event).state.toSessionCore ∨
      ∃ call operation, pool.actor event = some call ∧
        call.token = some operation ∧
        pool.state.isVaultSessionOperationCurrent operation = true :=
  stale_operation_sets_nothing (Reference.platform []) {}
    [.start (.beginVaultSessionUnlock (js "alice")),
      .start (.unlockVaultSession
        { Reference.vaultKey with extractable := false } none
        (some { id := 0 })),
      .start (.beginVaultSessionUnlock (js "bob"))]
    (.resume 1) rfl

end VaultCore
