import VaultCore.Session.Segments

/-!
# What a routed unlock installs

A routed unlock that resolves with nothing interleaved has installed the key
it opened, in the role of its target.
-/

namespace VaultCore

section Alone

variable {session finish : SessionState}
  {operation : Option VaultSessionOperation} {vaultKey : CryptoKey}
  {role : VaultSessionKeyRole}

theorem assertVaultSessionMutationAllowed_eq_ok {outcome : Unit}
    (asserted : assertVaultSessionMutationAllowed operation session =
      (.ok outcome, finish)) :
    session.mutationAllowed operation = .ok () ∧ finish = session := by
  simp only [assertVaultSessionMutationAllowed, Prod.mk.injEq] at asserted
  exact ⟨asserted.1, asserted.2.symm⟩

/-- The session after an unlock: the key is installed under its token. -/
structure Unlocked (session : SessionState)
    (operation : Option VaultSessionOperation) (vaultKey : CryptoKey)
    (role : VaultSessionKeyRole) (finish : SessionState) : Prop where
  allowed : session.mutationAllowed operation = .ok ()
  nonExtractable : vaultKey.extractable = false
  core : finish.toSessionCore =
    session.toSessionCore.installed operation vaultKey role

theorem unlockVaultSession_unlocked {lease : Option VaultSessionLease}
    (ran : (unlockVaultSession vaultKey (some role) operation).runAlone
      session = (.ok lease, finish)) :
    Unlocked session operation vaultKey role finish := by
  unfold unlockVaultSession at ran
  simp only [Async.runAlone_bind, Async.runAlone_lift,
    Async.runAlone_awaitOutcome] at ran
  obtain ⟨_, first, asserted, checking⟩ := Sync.bind_eq_ok_iff.mp ran
  obtain ⟨allowed, sameFirst⟩ :=
    assertVaultSessionMutationAllowed_eq_ok asserted
  obtain ⟨_, second, checked, installing⟩ :=
    Sync.bind_eq_ok_iff.mp checking
  simp only [Sync.ofExcept_apply, Prod.mk.injEq] at checked
  rw [Option.getD_some, ← checked.2, sameFirst] at installing
  have core := installVaultSessionKey_core vaultKey role session allowed
  rw [installing] at core
  exact ⟨allowed, assertUserVaultKeyNonExtractable_ok_iff.mp checked.1, core⟩

theorem finalizeUnlock_unlocked {enteredEmergency : Bool}
    {callback : Option (Except VaultError Unit)} {result : CryptoKey}
    (ran : (finalizeUnlock vaultKey role enteredEmergency callback
      operation).runAlone session = (.ok result, finish)) :
    Unlocked session operation vaultKey role finish := by
  unfold finalizeUnlock at ran
  simp only [Async.runAlone_bind, Async.runAlone_await] at ran
  obtain ⟨lease, middle, installed, rest⟩ := Sync.bind_eq_ok_iff.mp ran
  have unlocked := unlockVaultSession_unlocked installed
  suffices same : finish = middle by
    rw [same]
    exact unlocked
  cases enteredEmergency with
  | false => exact (congrArg Prod.snd rest).symm
  | true =>
      simp only [if_true, Async.runAlone_bind, Async.runAlone_lift] at rest
      obtain ⟨_, first, asserted, calling⟩ := Sync.bind_eq_ok_iff.mp rest
      obtain ⟨_, second, called, asserting⟩ :=
        Sync.bind_eq_ok_iff.mp calling
      obtain ⟨_, third, reasserted, returned⟩ :=
        Sync.bind_eq_ok_iff.mp asserting
      have sameFirst :=
        (assertVaultSessionMutationAllowed_eq_ok asserted).2
      have sameSecond : second = first := by
        cases callback with
        | none => exact (congrArg Prod.snd called).symm
        | some outcome => exact (congrArg Prod.snd called).symm
      have sameThird :=
        (assertVaultSessionMutationAllowed_eq_ok reasserted).2
      have sameFinish : finish = third := (congrArg Prod.snd returned).symm
      rw [sameFinish, sameThird, sameSecond, sameFirst]

/-- Nothing that an unlock calls back throws. -/
structure SessionState.Quiet (session : SessionState) : Prop where
  listeners : ∀ listener ∈ session.listeners, listener = none
  autoLock : ∃ timeout, getAutoLockTimeoutMs session.sessionConfig =
    .ok timeout

theorem callbacksOutcome_ok_iff :
    session.callbacksOutcome = .ok () ↔ session.Quiet := by
  constructor
  · intro returned
    obtain ⟨timeout, resolved, ended⟩ := Outcome.bind_eq_ok_iff.mp returned
    exact ⟨listenersOutcome_ok_iff.mp ended, timeout, resolved⟩
  · intro quiet
    obtain ⟨timeout, resolved⟩ := quiet.autoLock
    rw [SessionState.callbacksOutcome, resolved, Outcome.ok_bind]
    exact listenersOutcome_ok_iff.mpr quiet.listeners

theorem installVaultSessionKey_quiet (quiet : session.Quiet)
    (allowed : session.mutationAllowed operation = .ok ()) :
    ∃ lease later, installVaultSessionKey vaultKey role operation session =
      (.ok lease, later) := by
  rw [installVaultSessionKey_apply vaultKey role session allowed,
    callbacksOutcome_ok_iff.mpr quiet]
  exact ⟨_, _, rfl⟩

theorem Unlocked.allowed_after
    (unlocked : Unlocked session operation vaultKey role finish) :
    finish.mutationAllowed operation = .ok () := by
  obtain ⟨committed, fields, -⟩ := SessionCore.installed_of_allowed
    unlocked.allowed vaultKey role
  rw [← unlocked.core] at fields
  rw [← unlocked.allowed]
  unfold SessionCore.mutationAllowed
    SessionCore.isVaultSessionOperationCurrent SessionCore.metadataOf
  rw [fields.operations, fields.operation, fields.epoch, fields.owner,
    fields.enabled]

theorem unlockVaultSession_quiet (quiet : session.Quiet)
    (allowed : session.mutationAllowed operation = .ok ())
    (nonExtractable : vaultKey.extractable = false) :
    ∃ lease finish, (unlockVaultSession vaultKey (some role)
      operation).runAlone session = (.ok lease, finish) := by
  obtain ⟨lease, later, installed⟩ :=
    @installVaultSessionKey_quiet session operation vaultKey role quiet allowed
  refine ⟨lease, later, ?_⟩
  have checked := assertUserVaultKeyNonExtractable_ok_iff.mpr nonExtractable
  simp only [unlockVaultSession, Async.runAlone_bind, Async.runAlone_lift,
    Async.runAlone_awaitOutcome, Sync.bind_apply,
    assertVaultSessionMutationAllowed, allowed, Sync.ofExcept_apply, checked,
    Option.getD_some, installed]

theorem finalizeUnlock_quiet (quiet : session.Quiet)
    (allowed : session.mutationAllowed operation = .ok ())
    (nonExtractable : vaultKey.extractable = false) (enteredEmergency : Bool)
    {callback : Option (Except VaultError Unit)}
    (returns : callback.getD (.ok ()) = .ok ()) :
    ∃ finish, (finalizeUnlock vaultKey role enteredEmergency callback
      operation).runAlone session = (.ok vaultKey, finish) := by
  obtain ⟨lease, finish, ran⟩ :=
    @unlockVaultSession_quiet session operation vaultKey role quiet allowed
      nonExtractable
  have after := (unlockVaultSession_unlocked ran).allowed_after
  have called : (awaitCallback callback).runAlone finish =
      (.ok (), finish) := by
    cases callback with
    | none => rfl
    | some outcome =>
        rw [Option.getD_some] at returns
        rw [returns]
        rfl
  refine ⟨finish, ?_⟩
  cases enteredEmergency with
  | false =>
      simp only [finalizeUnlock, Async.runAlone_bind, Async.runAlone_await,
        Sync.bind_apply, ran, Bool.false_eq_true, if_false,
        Async.runAlone_pure, Sync.pure_apply]
  | true =>
      simp only [finalizeUnlock, Async.runAlone_bind, Async.runAlone_await,
        Async.runAlone_lift, Sync.bind_apply, ran, if_true,
        assertVaultSessionMutationAllowed, after, called, Async.runAlone_pure,
        Sync.pure_apply]

end Alone

/-- A call of one of the routed unlocks. -/
inductive RoutedUnlock where
  | password (input : EmergencyUnlockPasswordInput)
  | passkey (input : EmergencyUnlockPasskeyInput)
  | candidate (input : EmergencyUnlockPasskeyCandidateInput)

namespace RoutedUnlock

/-- The session call of the routed unlock. -/
def call : RoutedUnlock → SessionCall
  | .password input => .unlockVaultWithPasswordRouting input
  | .passkey input => .unlockVaultWithPasskeyRouting input
  | .candidate input => .unlockVaultWithPasskeyCandidateRouting input

/-- The record that the unlock is given. -/
def record : RoutedUnlock → VaultSetupWithDecoy
  | .password input => input.record
  | .passkey input => input.record
  | .candidate input => input.record

/-- The token that the unlock is given. -/
def operation : RoutedUnlock → Option VaultSessionOperation
  | .password input => input.operation
  | .passkey input => input.operation
  | .candidate input => input.operation

/-- The target that the unlock resolves in a session. -/
def target (core : SessionCore) : RoutedUnlock → VaultUnlockTarget
  | .password input => input.target core
  | .passkey input => input.target core
  | .candidate input => input.target core

variable (platform : Platform)

/-- The unlock resolves with nothing interleaved; a candidate unlock resolves
with a match. -/
def Resolves (session finish : SessionState) : RoutedUnlock → Prop
  | .password input => ∃ vaultKey,
      (unlockVaultWithPasswordRouting platform input).runAlone session =
        (.ok vaultKey, finish)
  | .passkey input => ∃ vaultKey,
      (unlockVaultWithPasskeyRouting platform input).runAlone session =
        (.ok vaultKey, finish)
  | .candidate input => ∃ identifier vaultKey target,
      (unlockVaultWithPasskeyCandidateRouting platform input).runAlone
        session = (.ok (.matched identifier vaultKey target), finish)

end RoutedUnlock

section Resolved

variable {platform : Platform} {session finish : SessionState}

private theorem run_after_assert {α : Type}
    {operation : Option VaultSessionOperation} {outcome : α}
    {next : SessionState → SessionAsync α}
    (ran : (do
      Async.lift (assertVaultSessionMutationAllowed operation)
      let state ← Async.lift Sync.get
      next state).runAlone session = (.ok outcome, finish)) :
    (next session).runAlone session = (.ok outcome, finish) := by
  simp only [Async.runAlone_bind, Async.runAlone_lift] at ran
  obtain ⟨_, first, asserted, reading⟩ := Sync.bind_eq_ok_iff.mp ran
  have same := (assertVaultSessionMutationAllowed_eq_ok asserted).2
  rw [same] at reading
  exact reading

private theorem run_ofExcept {α β : Type} {computed : Except VaultError β}
    {outcome : α} {next : β → SessionSync α}
    (ran : (Sync.ofExcept computed >>= next) session =
      (.ok outcome, finish)) :
    ∃ value, computed = .ok value ∧
      next value session = (.ok outcome, finish) := by
  obtain ⟨value, middle, computation, rest⟩ := Sync.bind_eq_ok_iff.mp ran
  simp only [Sync.ofExcept_apply, Prod.mk.injEq] at computation
  rw [← computation.2] at rest
  exact ⟨value, computation.1, rest⟩

/-- A routed unlock that resolves has installed a key that it may install, in
the role of its target. -/
theorem RoutedUnlock.resolves_unlocked {unlock : RoutedUnlock}
    (resolved : unlock.Resolves platform session finish) :
    ∃ vaultKey,
      Unlocked session unlock.operation vaultKey
        (unlock.target session.toSessionCore) finish ∧
      unlock.call.installs platform session.toSessionCore vaultKey
        (unlock.target session.toSessionCore) := by
  cases unlock with
  | password input =>
      obtain ⟨returned, ran⟩ := resolved
      have selecting := run_after_assert ran
      simp only [Async.runAlone_bind, Async.runAlone_lift,
        Async.runAlone_awaitOutcome, Async.runAlone_await] at selecting
      obtain ⟨envelope, selected, opening⟩ := run_ofExcept selecting
      obtain ⟨vaultKey, opened, finalizing⟩ := run_ofExcept opening
      exact ⟨vaultKey, finalizeUnlock_unlocked finalizing, rfl, envelope,
        selected, opened⟩
  | passkey input =>
      obtain ⟨returned, ran⟩ := resolved
      have selecting := run_after_assert ran
      simp only [Async.runAlone_bind, Async.runAlone_lift,
        Async.runAlone_awaitOutcome, Async.runAlone_await] at selecting
      obtain ⟨envelope, selected, opening⟩ := run_ofExcept selecting
      obtain ⟨vaultKey, opened, finalizing⟩ := run_ofExcept opening
      exact ⟨vaultKey, finalizeUnlock_unlocked finalizing, rfl, envelope,
        selected, opened⟩
  | candidate input =>
      obtain ⟨matchedId, returned, matchedTarget, ran⟩ := resolved
      have selecting := run_after_assert ran
      simp only [Async.runAlone_bind, Async.runAlone_lift,
        Async.runAlone_awaitOutcome] at selecting
      obtain ⟨candidates, selected, opening⟩ := run_ofExcept selecting
      obtain ⟨result, found, asserting⟩ := run_ofExcept opening
      obtain ⟨_, first, asserted, finalizing⟩ :=
        Sync.bind_eq_ok_iff.mp asserting
      have same := (assertVaultSessionMutationAllowed_eq_ok asserted).2
      rw [same] at finalizing
      cases result with
      | matched identifier vaultKey =>
          simp only [Async.runAlone_bind, Async.runAlone_await] at finalizing
          obtain ⟨_, middle, finalized, built⟩ :=
            Sync.bind_eq_ok_iff.mp finalizing
          have last : finish = middle := (congrArg Prod.snd built).symm
          rw [last]
          exact ⟨vaultKey, finalizeUnlock_unlocked finalized, rfl, candidates,
            identifier, selected, Except.ok.inj found⟩
      | noMatch count => cases finalizing
      | prfUnavailable => cases finalizing
      | malformedCandidate reason index => cases finalizing
      | cryptoFailure reason index => cases finalizing

/-- A password unlock whose selected envelope opens resolves in a quiet
session. -/
theorem unlockVaultWithPasswordRouting_quiet
    {input : EmergencyUnlockPasswordInput} {envelope : PasswordEnvelope}
    {vaultKey : CryptoKey} (quiet : session.Quiet)
    (allowed : session.mutationAllowed input.operation = .ok ())
    (selected : selectPasswordEnvelope input.record
      (input.target session.toSessionCore) = .ok envelope)
    (opened : unlockWithPasswordEnvelope platform input.password envelope
      input.scope input.profile = .ok vaultKey)
    (nonExtractable : vaultKey.extractable = false)
    (returns : input.onEmergencyEntered.getD (.ok ()) = .ok ()) :
    ∃ finish, (unlockVaultWithPasswordRouting platform input).runAlone
      session = (.ok vaultKey, finish) := by
  obtain ⟨finish, finalized⟩ := @finalizeUnlock_quiet session _ vaultKey
    (input.target session.toSessionCore) quiet allowed nonExtractable
    (input.target session.toSessionCore == .decoy) _ returns
  refine ⟨finish, ?_⟩
  simp only [unlockVaultWithPasswordRouting, Async.runAlone_bind,
    Async.runAlone_lift, Async.runAlone_awaitOutcome, Async.runAlone_await,
    Sync.bind_apply, assertVaultSessionMutationAllowed, allowed,
    Sync.get_apply, Sync.ofExcept_apply, selected, opened, finalized]

theorem unlockVaultWithPasskeyRouting_quiet
    {input : EmergencyUnlockPasskeyInput} {envelope : PasskeyPrfEnvelope}
    {vaultKey : CryptoKey} (quiet : session.Quiet)
    (allowed : session.mutationAllowed input.operation = .ok ())
    (selected : selectPasskeyEnvelope input.record
      (input.target session.toSessionCore) = .ok envelope)
    (opened : unlockWithPasskeyPrfEnvelope platform envelope
      (some input.prfOutput) input.scope input.profile true = .ok vaultKey)
    (nonExtractable : vaultKey.extractable = false)
    (returns : input.onEmergencyEntered.getD (.ok ()) = .ok ()) :
    ∃ finish, (unlockVaultWithPasskeyRouting platform input).runAlone
      session = (.ok vaultKey, finish) := by
  obtain ⟨finish, finalized⟩ := @finalizeUnlock_quiet session _ vaultKey
    (input.target session.toSessionCore) quiet allowed nonExtractable
    (input.target session.toSessionCore == .decoy) _ returns
  refine ⟨finish, ?_⟩
  simp only [unlockVaultWithPasskeyRouting, Async.runAlone_bind,
    Async.runAlone_lift, Async.runAlone_awaitOutcome, Async.runAlone_await,
    Sync.bind_apply, assertVaultSessionMutationAllowed, allowed,
    Sync.get_apply, Sync.ofExcept_apply, selected, opened, finalized]

end Resolved

section Keys

variable (platform : Platform)

/-- Whatever opens the envelope with a password has the given key material. -/
def HoldsByPassword (envelope : PasswordEnvelope) (material : AesKeyMaterial) :
    Prop :=
  ∀ password scope profile vaultKey,
    unlockWithPasswordEnvelope platform password envelope scope profile =
      .ok vaultKey → vaultKey.material = material

/-- Whatever opens the envelope with a PRF output has the given key material. -/
def HoldsByPasskey (envelope : PasskeyPrfEnvelope)
    (material : AesKeyMaterial) : Prop :=
  ∀ prfOutput scope profile vaultKey,
    unlockWithPasskeyPrfEnvelope platform envelope (some prfOutput) scope
      profile true = .ok vaultKey → vaultKey.material = material

/-- Whatever opens one of the candidates has the given key material. -/
def HoldByCandidates (candidates : List UnknownCandidate)
    (material : AesKeyMaterial) : Prop :=
  ∀ credential prfOutput scope profile identifier vaultKey,
    unlockWithPasskeyPrfEnvelopeCandidates platform credential candidates
      (some prfOutput) scope profile = .matched identifier vaultKey →
        vaultKey.material = material

end Keys

end VaultCore
