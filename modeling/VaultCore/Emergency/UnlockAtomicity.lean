import VaultCore.Crypto.Reference
import VaultCore.Emergency.RoutedUnlock

/-!
# Unlocks that fail after installing

An unlock installs its key, role, lease and timer in one segment and then runs
code it does not control: the resolver of the auto-lock duration, the
listeners and, for a decoy, the callback of the caller.  When one of them
fails the call rejects, and what it has installed stays.
-/

namespace VaultCore

/-- A call of one of the functions that install a key. -/
inductive UnlockAttempt where
  | direct (vaultKey : CryptoKey) (role : Option VaultSessionKeyRole)
      (operation : Option VaultSessionOperation)
  | routed (unlock : RoutedUnlock)

/-- The callback of an unlock, with how it ends. -/
def RoutedUnlock.onEmergencyEntered :
    RoutedUnlock → Option (Except VaultError Unit)
  | .password input => input.onEmergencyEntered
  | .passkey input => input.onEmergencyEntered
  | .candidate input => input.onEmergencyEntered

namespace UnlockAttempt

/-- The attempt as a call of the session. -/
def call : UnlockAttempt → SessionCall
  | .direct vaultKey role operation =>
      .unlockVaultSession vaultKey role operation
  | .routed unlock => unlock.call

def operation : UnlockAttempt → Option VaultSessionOperation
  | .direct _ _ operation => operation
  | .routed unlock => unlock.operation

/-- The role that the attempt gives its key. -/
def role (core : SessionCore) : UnlockAttempt → VaultSessionKeyRole
  | .direct _ role _ => role.getD .primary
  | .routed unlock => unlock.target core

/-- How the callback of the caller ends, where it is called. -/
def entered (core : SessionCore) : UnlockAttempt → Except VaultError Unit
  | .direct _ _ _ => .ok ()
  | .routed unlock =>
      if unlock.target core = .decoy then
        unlock.onEmergencyEntered.getD (.ok ())
      else .ok ()

/-- Some code that the attempt runs after the installation fails. -/
def FailsLater (attempt : UnlockAttempt) (session : SessionState) : Prop :=
  ¬ session.Quiet ∨ attempt.entered session.toSessionCore ≠ .ok ()

/-- The attempt passes its checks in the session and comes to install the
key. -/
structure Admits (platform : Platform) (session : SessionState)
    (attempt : UnlockAttempt) (vaultKey : CryptoKey) : Prop where
  allowed : session.mutationAllowed attempt.operation = .ok ()
  installs : attempt.call.installs platform session.toSessionCore vaultKey
    (attempt.role session.toSessionCore)
  nonExtractable : vaultKey.extractable = false

end UnlockAttempt

/-- A rejection, or a candidate unlock without a match. -/
def Undone : Except VaultError SessionValue → Prop
  | .error _ => True
  | .ok (.candidate (.unmatched _)) => True
  | .ok _ => False

/-- What an unlock installs is as it was. -/
structure SameInstallation (start finish : SessionState) : Prop where
  vaultKey : finish.sessionVaultKey = start.sessionVaultKey
  role : finish.sessionKeyRole = start.sessionKeyRole
  pin : finish.emergencyModePinned = start.emergencyModePinned
  lease : finish.currentLease = start.currentLease
  manuallyLocked : finish.manuallyLocked = start.manuallyLocked
  timer : finish.autoLockDeadline = start.autoLockDeadline

/-- The session already holds what an unlock would install. -/
structure AlreadyInstalled (session : SessionState)
    (operation : Option VaultSessionOperation) (installedKey : CryptoKey)
    (installedRole : VaultSessionKeyRole) : Prop where
  vaultKey : session.sessionVaultKey = some installedKey
  role : session.sessionKeyRole = some installedRole
  pin : installedRole = .decoy → session.emergencyModePinned = true
  lease : session.currentLease =
    session.committedLease operation installedKey installedRole
  manuallyLocked : session.manuallyLocked = false
  timer : session.autoLockDeadline = session.rearmedTimer

section Finalize

variable {session : SessionState} {operation : Option VaultSessionOperation}
  {vaultKey : CryptoKey} {role : VaultSessionKeyRole}

theorem SessionCore.installed_currentLease (core : SessionCore) :
    (core.installed operation vaultKey role).currentLease =
      core.committedLease operation vaultKey role := by
  cases operation with
  | none => rfl
  | some operation =>
      cases found : core.metadataOf operation with
      | some metadata =>
          rw [(installed_some found vaultKey role).lease, committedLease,
            Option.bind_some, found, Option.map_some]
      | none =>
          have keyedFound : (setSessionVaultKey (some vaultKey)
              (setSessionKeyRole role
                { core with manuallyLocked := false })).metadataOf operation =
              none := by
            rw [← found]
            cases role <;> rfl
          rw [committedLease, Option.bind_some, found, Option.map_none,
            installed]
          simp only [Option.bind_some, keyedFound]
          rfl

/-- An installation goes unnoticed exactly when it repeats what is there. -/
theorem sameInstallation_installed_iff
    (allowed : session.mutationAllowed operation = .ok ()) :
    SameInstallation session (session.installed operation vaultKey role) ↔
      AlreadyInstalled session operation vaultKey role := by
  obtain ⟨committed, fields, -⟩ :=
    SessionCore.installed_of_allowed allowed vaultKey role
  have lease := @SessionCore.installed_currentLease operation vaultKey role
    session.toSessionCore
  have rearmed : (session.installed operation vaultKey role).autoLockDeadline =
      session.rearmedTimer := session.rearmed_autoLockDeadline
  constructor
  · intro same
    constructor
    case vaultKey => exact same.vaultKey.symm.trans fields.vaultKey
    case role => exact same.role.symm.trans fields.role
    case pin =>
      intro decoy
      have pinned := same.pin.symm.trans fields.pin
      rw [decoy] at pinned
      simpa using pinned
    case lease => exact same.lease.symm.trans lease
    case manuallyLocked =>
      exact same.manuallyLocked.symm.trans fields.unlocked
    case timer => exact same.timer.symm.trans rearmed
  · intro already
    constructor
    case vaultKey => exact fields.vaultKey.trans already.vaultKey.symm
    case role => exact fields.role.trans already.role.symm
    case pin =>
      rw [SessionState.installed, fields.pin]
      cases role with
      | primary => exact Bool.or_false _
      | decoy =>
          rw [already.pin rfl]
          rfl
    case lease => exact lease.trans already.lease.symm
    case manuallyLocked =>
      exact fields.unlocked.trans already.manuallyLocked.symm
    case timer => exact rearmed.trans already.timer.symm

theorem unlockVaultSession_apply
    (allowed : session.mutationAllowed operation = .ok ())
    (nonExtractable : vaultKey.extractable = false)
    (requested : Option VaultSessionKeyRole) :
    (unlockVaultSession vaultKey requested operation).runAlone session =
      ((do
        session.callbacksOutcome
        return session.committedLease operation vaultKey
          (requested.getD .primary)),
        session.installed operation vaultKey (requested.getD .primary)) := by
  have checked := assertUserVaultKeyNonExtractable_ok_iff.mpr nonExtractable
  rw [← installVaultSessionKey_apply vaultKey _ session allowed]
  simp only [unlockVaultSession, Async.runAlone_bind, Async.runAlone_lift,
    Async.runAlone_awaitOutcome, Sync.bind_apply,
    assertVaultSessionMutationAllowed, allowed, Sync.ofExcept_apply, checked]

/-- An unlock that is not allowed, or whose key could be exported, changes
nothing. -/
theorem unlockVaultSession_refused
    (refused : ¬ (session.mutationAllowed operation = .ok () ∧
      vaultKey.extractable = false))
    (requested : Option VaultSessionKeyRole) :
    ∃ error, (unlockVaultSession vaultKey requested operation).runAlone
      session = (.error error, session) := by
  simp only [unlockVaultSession, Async.runAlone_bind, Async.runAlone_lift,
    Async.runAlone_awaitOutcome, Sync.bind_apply,
    assertVaultSessionMutationAllowed, Sync.ofExcept_apply]
  cases allowed : session.mutationAllowed operation with
  | error error => exact ⟨error, rfl⟩
  | ok _ =>
      cases checked : assertUserVaultKeyNonExtractable vaultKey with
      | error error => exact ⟨error, rfl⟩
      | ok _ =>
          exact absurd ⟨allowed,
            assertUserVaultKeyNonExtractable_ok_iff.mp checked⟩ refused

theorem finalizeUnlock_apply
    (allowed : session.mutationAllowed operation = .ok ())
    (nonExtractable : vaultKey.extractable = false) (enteredEmergency : Bool)
    (callback : Option (Except VaultError Unit)) :
    (finalizeUnlock vaultKey role enteredEmergency callback
      operation).runAlone session =
      ((do
        session.callbacksOutcome
        (if enteredEmergency then callback.getD (.ok ()) else .ok ())
        return vaultKey),
        session.installed operation vaultKey role) := by
  have installed := unlockVaultSession_apply allowed nonExtractable (some role)
  rw [Option.getD_some] at installed
  simp only [finalizeUnlock, Async.runAlone_bind, Async.runAlone_await]
  cases returned : session.callbacksOutcome with
  | error error =>
      rw [returned] at installed
      rw [Sync.bind_error installed]
      rfl
  | ok _ =>
      rw [returned] at installed
      have unlocked : Unlocked session operation vaultKey role
          (session.installed operation vaultKey role) :=
        ⟨allowed, nonExtractable, rfl⟩
      have after := unlocked.allowed_after
      rw [Sync.bind_ok installed]
      cases enteredEmergency with
      | false => rfl
      | true =>
          simp only [if_true, Async.runAlone_bind, Async.runAlone_lift,
            Sync.bind_apply, assertVaultSessionMutationAllowed, after]
          cases callback with
          | none =>
              simp only [awaitCallback, Async.runAlone_awaitOutcome,
                Sync.ofExcept_apply, after]
              rfl
          | some outcome =>
              cases outcome with
              | error error => rfl
              | ok _ =>
                  simp only [awaitCallback, Async.runAlone_awaitOutcome,
                    Sync.ofExcept_apply, after]
                  rfl

theorem finalizeUnlock_refused
    (refused : ¬ (session.mutationAllowed operation = .ok () ∧
      vaultKey.extractable = false)) (enteredEmergency : Bool)
    (callback : Option (Except VaultError Unit)) :
    ∃ error, (finalizeUnlock vaultKey role enteredEmergency callback
      operation).runAlone session = (.error error, session) := by
  obtain ⟨error, failed⟩ := unlockVaultSession_refused refused (some role)
  refine ⟨error, ?_⟩
  simp only [finalizeUnlock, Async.runAlone_bind, Async.runAlone_await]
  exact Sync.bind_error failed

end Finalize

section Attempts

variable {platform : Platform} {session : SessionState}
  {attempt : UnlockAttempt}

/-- The attempt has installed the key, and is undone exactly when something
fails later. -/
structure Completes (platform : Platform) (session : SessionState)
    (attempt : UnlockAttempt) (vaultKey : CryptoKey)
    (ran : Except VaultError SessionValue × SessionState) : Prop where
  admits : attempt.Admits platform session vaultKey
  finish : ran.2 = session.installed attempt.operation vaultKey
    (attempt.role session.toSessionCore)
  undone : Undone ran.1 ↔ attempt.FailsLater session

/-- The attempt stopped at one of its checks, and nothing has changed. -/
structure Stops (platform : Platform) (session : SessionState)
    (attempt : UnlockAttempt)
    (ran : Except VaultError SessionValue × SessionState) : Prop where
  admitsNothing : ∀ vaultKey, ¬ attempt.Admits platform session vaultKey
  finish : ran.2 = session

/-- The two ways an attempt can run. -/
def Attempted (platform : Platform) (session : SessionState)
    (attempt : UnlockAttempt)
    (ran : Except VaultError SessionValue × SessionState) : Prop :=
  (∃ vaultKey, Completes platform session attempt vaultKey ran) ∨
    Stops platform session attempt ran

theorem failsLater_iff :
    attempt.FailsLater session ↔
      (do
        session.callbacksOutcome
        attempt.entered session.toSessionCore) ≠ .ok () := by
  rw [UnlockAttempt.FailsLater, ← callbacksOutcome_ok_iff]
  cases session.callbacksOutcome with
  | error error => simp
  | ok _ => simp

theorem undone_checked_iff {checks : Except VaultError Unit}
    {value : SessionValue} (resolves : ¬ Undone (.ok value)) :
    Undone (do checks; return value) ↔ checks ≠ .ok () := by
  cases checks with
  | error error => simp [Undone]
  | ok _ => simpa using resolves

theorem stops_of_refused {error : VaultError}
    (refused : ∀ vaultKey, ¬ attempt.Admits platform session vaultKey) :
    Attempted platform session attempt (.error error, session) :=
  .inr ⟨refused, rfl⟩

/-- An attempt comes to install at most one key. -/
theorem UnlockAttempt.installs_unique {first second : CryptoKey}
    {role : VaultSessionKeyRole} {core : SessionCore}
    (firstInstalls : attempt.call.installs platform core first role)
    (secondInstalls : attempt.call.installs platform core second role) :
    first = second := by
  cases attempt with
  | direct vaultKey role operation =>
      exact firstInstalls.1.trans secondInstalls.1.symm
  | routed unlock =>
      cases unlock with
      | password input =>
          obtain ⟨-, envelope, selected, opened⟩ := firstInstalls
          obtain ⟨-, _, again, reopened⟩ := secondInstalls
          obtain rfl := Except.ok.inj (selected.symm.trans again)
          exact Except.ok.inj (opened.symm.trans reopened)
      | passkey input =>
          obtain ⟨-, envelope, selected, opened⟩ := firstInstalls
          obtain ⟨-, _, again, reopened⟩ := secondInstalls
          obtain rfl := Except.ok.inj (selected.symm.trans again)
          exact Except.ok.inj (opened.symm.trans reopened)
      | candidate input =>
          obtain ⟨-, candidates, identifier, selected, opened⟩ :=
            firstInstalls
          obtain ⟨-, _, _, again, reopened⟩ := secondInstalls
          obtain rfl := Except.ok.inj (selected.symm.trans again)
          cases opened.symm.trans reopened
          rfl

/-- What an attempt does with a key it has opened. -/
theorem attempted_of_opened {α : Type} {vaultKey : CryptoKey}
    {finalize : SessionSync α} {value : α → SessionValue} (result : α)
    (resolves : ∀ result, ¬ Undone (.ok (value result)))
    (opened : attempt.call.installs platform session.toSessionCore vaultKey
      (attempt.role session.toSessionCore))
    (applies : session.mutationAllowed attempt.operation = .ok () →
      vaultKey.extractable = false →
        finalize session =
          ((do
            session.callbacksOutcome
            attempt.entered session.toSessionCore
            return result),
            session.installed attempt.operation vaultKey
              (attempt.role session.toSessionCore)))
    (refuses : ¬ (session.mutationAllowed attempt.operation = .ok () ∧
      vaultKey.extractable = false) →
        ∃ error, finalize session = (.error error, session)) :
    Attempted platform session attempt
      ((finalize >>= fun result => pure (value result)) session) := by
  by_cases admitted : session.mutationAllowed attempt.operation = .ok () ∧
      vaultKey.extractable = false
  · left
    refine ⟨vaultKey, ⟨admitted.1, opened, admitted.2⟩, ?_, ?_⟩
    · rw [Sync.bind_apply, applies admitted.1 admitted.2]
      cases session.callbacksOutcome with
      | error error => rfl
      | ok _ => cases attempt.entered session.toSessionCore <;> rfl
    · rw [failsLater_iff, ← undone_checked_iff (resolves result), Sync.bind_apply,
        applies admitted.1 admitted.2]
      cases session.callbacksOutcome with
      | error error => exact Iff.rfl
      | ok _ => cases attempt.entered session.toSessionCore <;> exact Iff.rfl
  · obtain ⟨error, failed⟩ := refuses admitted
    rw [Sync.bind_error failed]
    apply stops_of_refused
    intro other admits
    obtain rfl := UnlockAttempt.installs_unique admits.installs opened
    exact admitted ⟨admits.allowed, admits.nonExtractable⟩

/-- A run that reaches its check of the token goes on only when the check
passes. -/
theorem attempted_assert {next : Unit → SessionSync SessionValue}
    (continues : session.mutationAllowed attempt.operation = .ok () →
      Attempted platform session attempt (next () session)) :
    Attempted platform session attempt
      ((assertVaultSessionMutationAllowed attempt.operation >>= next)
        session) := by
  cases allowed : session.mutationAllowed attempt.operation with
  | ok _ =>
      have passed : assertVaultSessionMutationAllowed attempt.operation
          session = (.ok (), session) := by
        rw [assertVaultSessionMutationAllowed, allowed]
      rw [Sync.bind_ok passed]
      exact continues allowed
  | error error =>
      have failed : assertVaultSessionMutationAllowed attempt.operation
          session = (.error error, session) := by
        rw [assertVaultSessionMutationAllowed, allowed]
      rw [Sync.bind_error failed]
      apply stops_of_refused
      intro vaultKey admits
      rw [admits.allowed] at allowed
      cases allowed

theorem attempted_ofExcept {α : Type} {outcome : Except VaultError α}
    {next : α → SessionSync SessionValue}
    (needed : ∀ vaultKey, attempt.Admits platform session vaultKey →
      ∃ value, outcome = .ok value)
    (continues : ∀ value, outcome = .ok value →
      Attempted platform session attempt (next value session)) :
    Attempted platform session attempt
      ((Sync.ofExcept outcome >>= next) session) := by
  cases outcome with
  | ok value => exact continues value rfl
  | error error =>
      apply stops_of_refused
      intro vaultKey admits
      obtain ⟨value, impossible⟩ := needed vaultKey admits
      cases impossible

/-- A direct unlock. -/
theorem attempted_direct (vaultKey : CryptoKey)
    (role : Option VaultSessionKeyRole)
    (operation : Option VaultSessionOperation) :
    Attempted platform session (.direct vaultKey role operation)
      ((sessionProgram platform
        (.unlockVaultSession vaultKey role operation)).runAlone session) := by
  have run : (sessionProgram platform
      (.unlockVaultSession vaultKey role operation)).runAlone =
        ((unlockVaultSession vaultKey role operation).runAlone >>= fun lease =>
          pure (.lease lease)) := Async.runAlone_bind _ _
  rw [run]
  have opened : (UnlockAttempt.direct vaultKey role operation).call.installs
      platform session.toSessionCore vaultKey (role.getD .primary) :=
    ⟨rfl, rfl⟩
  apply attempted_of_opened
    (session.committedLease operation vaultKey (role.getD .primary))
    (fun _ => id) opened
  · intro allowed nonExtractable
    exact unlockVaultSession_apply allowed nonExtractable role
  · intro refused
    exact unlockVaultSession_refused refused role

/-- A routed unlock that has opened its envelope. -/
theorem attempted_finalize {unlock : RoutedUnlock} {vaultKey : CryptoKey}
    {value : CryptoKey → SessionValue}
    (resolves : ∀ result, ¬ Undone (.ok (value result)))
    (opened : unlock.call.installs platform session.toSessionCore vaultKey
      (unlock.target session.toSessionCore)) :
    Attempted platform session (.routed unlock)
      (((finalizeUnlock vaultKey (unlock.target session.toSessionCore)
        (unlock.target session.toSessionCore == .decoy)
        unlock.onEmergencyEntered unlock.operation).runAlone >>=
          fun result => pure (value result)) session) := by
  have entered : (if unlock.target session.toSessionCore == .decoy then
      unlock.onEmergencyEntered.getD (.ok ()) else .ok ()) =
        (UnlockAttempt.routed unlock).entered session.toSessionCore := by
    simp only [UnlockAttempt.entered, beq_iff_eq]
  apply attempted_of_opened vaultKey resolves opened
  · intro allowed nonExtractable
    rw [← entered]
    exact finalizeUnlock_apply allowed nonExtractable _ _
  · intro refused
    exact finalizeUnlock_refused refused _ _

theorem attempted_password (input : EmergencyUnlockPasswordInput) :
    Attempted platform session (.routed (.password input))
      ((sessionProgram platform
        (.unlockVaultWithPasswordRouting input)).runAlone session) := by
  have run : (sessionProgram platform
      (.unlockVaultWithPasswordRouting input)).runAlone =
        ((unlockVaultWithPasswordRouting platform input).runAlone >>=
          fun vaultKey => pure (.vaultKey vaultKey)) := Async.runAlone_bind _ _
  rw [run]
  simp only [unlockVaultWithPasswordRouting, Async.runAlone_bind,
    Async.runAlone_lift, Async.runAlone_awaitOutcome, Async.runAlone_await,
    Sync.bind_assoc]
  apply attempted_assert
  intro _
  rw [Sync.bind_ok (Sync.get_apply session)]
  apply attempted_ofExcept
  · rintro vaultKey ⟨-, ⟨-, envelope, selected, -⟩, -⟩
    exact ⟨envelope, selected⟩
  · intro envelope selected
    apply attempted_ofExcept
    · rintro vaultKey ⟨-, ⟨-, _, again, opened⟩, -⟩
      obtain rfl := Except.ok.inj (selected.symm.trans again)
      exact ⟨vaultKey, opened⟩
    · intro vaultKey opened
      exact attempted_finalize (fun _ => id) ⟨rfl, envelope, selected, opened⟩

theorem attempted_passkey (input : EmergencyUnlockPasskeyInput) :
    Attempted platform session (.routed (.passkey input))
      ((sessionProgram platform
        (.unlockVaultWithPasskeyRouting input)).runAlone session) := by
  have run : (sessionProgram platform
      (.unlockVaultWithPasskeyRouting input)).runAlone =
        ((unlockVaultWithPasskeyRouting platform input).runAlone >>=
          fun vaultKey => pure (.vaultKey vaultKey)) := Async.runAlone_bind _ _
  rw [run]
  simp only [unlockVaultWithPasskeyRouting, Async.runAlone_bind,
    Async.runAlone_lift, Async.runAlone_awaitOutcome, Async.runAlone_await,
    Sync.bind_assoc]
  apply attempted_assert
  intro _
  rw [Sync.bind_ok (Sync.get_apply session)]
  apply attempted_ofExcept
  · rintro vaultKey ⟨-, ⟨-, envelope, selected, -⟩, -⟩
    exact ⟨envelope, selected⟩
  · intro envelope selected
    apply attempted_ofExcept
    · rintro vaultKey ⟨-, ⟨-, _, again, opened⟩, -⟩
      obtain rfl := Except.ok.inj (selected.symm.trans again)
      exact ⟨vaultKey, opened⟩
    · intro vaultKey opened
      exact attempted_finalize (fun _ => id) ⟨rfl, envelope, selected, opened⟩

theorem attempted_candidate (input : EmergencyUnlockPasskeyCandidateInput) :
    Attempted platform session (.routed (.candidate input))
      ((sessionProgram platform
        (.unlockVaultWithPasskeyCandidateRouting input)).runAlone
          session) := by
  have run : (sessionProgram platform
      (.unlockVaultWithPasskeyCandidateRouting input)).runAlone =
        ((unlockVaultWithPasskeyCandidateRouting platform input).runAlone >>=
          fun result => pure (.candidate result)) := Async.runAlone_bind _ _
  rw [run]
  simp only [unlockVaultWithPasskeyCandidateRouting, Async.runAlone_bind,
    Async.runAlone_lift, Async.runAlone_awaitOutcome, Sync.bind_assoc]
  apply attempted_assert
  intro _
  rw [Sync.bind_ok (Sync.get_apply session)]
  apply attempted_ofExcept
  · rintro vaultKey ⟨-, ⟨-, candidates, identifier, selected, -⟩, -⟩
    exact ⟨candidates, selected⟩
  · intro candidates selected
    apply attempted_ofExcept
    · intro vaultKey _
      exact ⟨_, rfl⟩
    · intro result found
      have unlocked := Except.ok.inj found
      have stops : ∀ other, (∀ identifier vaultKey,
          result ≠ .matched identifier vaultKey) →
          Attempted platform session (.routed (.candidate input))
            (.ok (.candidate (.unmatched other)), session) := by
        intro other unmatched
        refine .inr ⟨?_, rfl⟩
        rintro vaultKey ⟨-, ⟨-, _, identifier, again, opened⟩, -⟩
        obtain rfl := Except.ok.inj (selected.symm.trans again)
        exact unmatched identifier vaultKey (unlocked.symm.trans opened)
      apply attempted_assert
      intro _
      cases result with
      | matched identifier vaultKey =>
          simp only [Async.runAlone_bind, Async.runAlone_await,
            Sync.bind_assoc]
          exact @attempted_finalize platform session (.candidate input)
            vaultKey (fun _ => .candidate (.matched identifier vaultKey
              (input.target session.toSessionCore))) (fun _ => id)
            ⟨rfl, candidates, identifier, selected, unlocked⟩
      | noMatch count => exact stops _ (fun _ _ => by intro same; cases same)
      | prfUnavailable => exact stops _ (fun _ _ => by intro same; cases same)
      | malformedCandidate reason index =>
          exact stops _ (fun _ _ => by intro same; cases same)
      | cryptoFailure reason index =>
          exact stops _ (fun _ _ => by intro same; cases same)

theorem attempted (platform : Platform) (session : SessionState)
    (attempt : UnlockAttempt) :
    Attempted platform session attempt
      ((sessionProgram platform attempt.call).runAlone session) := by
  cases attempt with
  | direct vaultKey role operation =>
      exact attempted_direct vaultKey role operation
  | routed unlock =>
      cases unlock with
      | password input => exact attempted_password input
      | passkey input => exact attempted_passkey input
      | candidate input => exact attempted_candidate input

end Attempts

/-- For every session and every unlock that runs with nothing interleaved: if
it rejects or finds no match, what an unlock installs is as it was, exactly
when no code fails after the installation, or the session already held what
was installed. -/
theorem unlock_atomic_iff (platform : Platform) (session : SessionState)
    (attempt : UnlockAttempt) :
    let ran := (sessionProgram platform attempt.call).runAlone session
    (Undone ran.1 → SameInstallation session ran.2) ↔
      ∀ vaultKey, attempt.Admits platform session vaultKey →
        attempt.FailsLater session →
          AlreadyInstalled session attempt.operation vaultKey
            (attempt.role session.toSessionCore) := by
  intro ran
  rcases attempted platform session attempt with
    ⟨vaultKey, completes⟩ | stops
  · have noticed := @sameInstallation_installed_iff session attempt.operation
      vaultKey (attempt.role session.toSessionCore) completes.admits.allowed
    constructor
    · intro atomic other admits fails
      obtain rfl := UnlockAttempt.installs_unique completes.admits.installs
        admits.installs
      apply noticed.mp
      rw [← completes.finish]
      exact atomic (completes.undone.mpr fails)
    · intro already undone
      rw [completes.finish]
      apply noticed.mpr
      exact already vaultKey completes.admits (completes.undone.mp undone)
  · constructor
    · intro _ vaultKey admits
      exact absurd admits (stops.admitsNothing vaultKey)
    · intro _ _
      rw [stops.finish]
      exact ⟨rfl, rfl, rfl, rfl, rfl, rfl⟩

/-- A locked session with one listener, which throws. -/
def Reference.listenedSession : SessionState :=
  { manuallyLocked := true
    listeners := [some (.error "listener failed")] }

def Reference.unlockedKey : CryptoKey :=
  { algorithm := .aesGcm, material := Reference.material 7
    extractable := false }

open Reference in
/-- An unlock whose listener throws rejects, with its key installed. -/
theorem rejected_unlock_stays_installed :
    let attempt := UnlockAttempt.direct unlockedKey none none
    let ran := (sessionProgram (Reference.platform []) attempt.call).runAlone
      listenedSession
    Undone ran.1 ∧ listenedSession.sessionVaultKey = none ∧
      ran.2.sessionVaultKey = some unlockedKey ∧
      ran.2.manuallyLocked = false ∧
      ¬ SameInstallation listenedSession ran.2 := by
  intro attempt ran
  have fails : attempt.FailsLater listenedSession := by
    left
    intro quiet
    cases quiet.listeners _ List.mem_cons_self
  have admits : attempt.Admits (Reference.platform []) listenedSession
      unlockedKey := ⟨rfl, ⟨rfl, rfl⟩, rfl⟩
  rcases attempted (Reference.platform []) listenedSession attempt with
    ⟨vaultKey, completes⟩ | stops
  · obtain rfl := UnlockAttempt.installs_unique completes.admits.installs
      admits.installs
    have finish : ran.2 = listenedSession.installed none unlockedKey .primary :=
      completes.finish
    have installed : ran.2.sessionVaultKey = some unlockedKey := by
      rw [finish]
      rfl
    refine ⟨completes.undone.mpr fails, rfl, installed, ?_, ?_⟩
    · rw [finish]
      rfl
    · intro same
      have impossible := same.vaultKey.symm.trans installed
      cases impossible
  · exact absurd admits (stops.admitsNothing unlockedKey)

end VaultCore
