import VaultCore.Async.Program
import VaultCore.Crypto.VaultKeyEnvelope
import VaultCore.Text.Words
import VaultCore.Timing.Timeouts

/-!
# The browser session

The variables of the session modules as one state.  `SessionCore` holds what
decides who may use which key: the installed key with its role and mode, the
registry of operations and leases, the cache entry and the manual lock.
`SessionState` adds the clock with its pending timeouts, the callbacks and the
byte arrays the cache refers to.
-/

namespace VaultCore

/-- Whether the session is an emergency session. -/
inductive VaultSessionMode where
  | normal
  | emergency
deriving DecidableEq

/-- Which vault the key of the session opens. -/
inductive VaultSessionKeyRole where
  | primary
  | decoy
deriving DecidableEq

/-- An operation token, known by its identity only. -/
structure VaultSessionOperation where
  id : Nat
deriving DecidableEq

structure VaultSessionOperationMetadata where
  epoch : Nat
  ownerId : JsString
deriving DecidableEq

/-- A lease object: its identity and its frozen fields. -/
structure VaultSessionLease where
  id : Nat
  ownerId : JsString
  epoch : Nat
  role : VaultSessionKeyRole
  vaultKey : CryptoKey
deriving DecidableEq

/-- A reference to a byte array. -/
structure BufferRef where
  index : Nat
deriving DecidableEq

/-- The cached blob and the key that it is wrapped with. -/
structure VaultInnerKeyMaterialCacheEntry where
  inner : BufferRef
  wrappingKey : CryptoKey
deriving DecidableEq

/-- The module variables that tokens and leases guard. -/
structure SessionCore where
  sessionVaultKey : Option CryptoKey := none
  sessionMode : VaultSessionMode := .normal
  sessionKeyRole : Option VaultSessionKeyRole := none
  emergencyModePinned : Bool := false
  operationMetadata : List VaultSessionOperationMetadata := []
  leaseMetadata : List VaultSessionLease := []
  currentEpoch : Nat := 0
  currentOwnerId : Option JsString := none
  currentOperation : Option VaultSessionOperation := none
  currentLease : Option VaultSessionLease := none
  ownershipModeEnabled : Bool := false
  manuallyLocked : Bool := false
  cachedEntry : Option VaultInnerKeyMaterialCacheEntry := none

/-- A number of the configuration; what is not finite is only ever replaced. -/
inductive ConfiguredNumber where
  | finite (value : ℚ)
  | notFinite

/-- What the application configures. -/
structure VaultSessionConfig where
  autoLockMinutes : Option ConfiguredNumber := none
  /-- What calling the resolver gives now. -/
  resolveAutoLockMinutes : Option (Except VaultError (Option ConfiguredNumber))
    := none

/-- A callback, known by the error it throws when it is called now. -/
abbrev Callback := Option VaultError

/-- The module variables of the session, with its timeouts and listeners. -/
structure SessionState extends SessionCore where
  sessionConfig : VaultSessionConfig := {}
  inactivityTimer : Option Nat := none
  /-- The timeouts that the auto-lock has set in the page. -/
  timeouts : Timeouts ℚ := .initial
  lastActivityAt : ℚ := 0
  now : ℚ := 0
  listeners : List Callback := []
  lockCleanupHandlers : List Callback := []
  buffers : List Bytes := []

/-- Uninterrupted session code. -/
abbrev SessionSync (α : Type) := Sync SessionState VaultError α

/-- An asynchronous session function. -/
abbrev SessionAsync (α : Type) := Async SessionState VaultError α

namespace SessionCore

def setSessionVaultKey (key : Option CryptoKey) (core : SessionCore) :
    SessionCore :=
  match key with
  | some key => { core with sessionVaultKey := some key }
  | none => { core with sessionVaultKey := none, sessionKeyRole := none }

/-- A decoy key or the pin makes it the emergency mode. -/
def getVaultSessionMode (core : SessionCore) : VaultSessionMode :=
  if core.sessionVaultKey.isSome ∧ core.sessionKeyRole = some .decoy then
    .emergency
  else if core.emergencyModePinned then .emergency
  else core.sessionMode

/-- Whether the mode is the emergency mode. -/
def isVaultEmergencyMode (core : SessionCore) : Bool :=
  core.getVaultSessionMode == .emergency

/-- The emergency mode is pinned. -/
def enterVaultEmergencyMode (core : SessionCore) : SessionCore :=
  { core with emergencyModePinned := true, sessionMode := .emergency }

/-- The pin is given up. -/
def clearEmergencyModePin (core : SessionCore) : SessionCore :=
  { core with emergencyModePinned := false, sessionMode := .normal }

/-- The role of the key; a decoy key enters the emergency mode. -/
def setSessionKeyRole (role : VaultSessionKeyRole) (core : SessionCore) :
    SessionCore :=
  let assigned := { core with sessionKeyRole := some role }
  match role with
  | .decoy => assigned.enterVaultEmergencyMode
  | .primary => assigned

/-- The key and its role are forgotten. -/
def lockVault (core : SessionCore) : SessionCore :=
  { core with sessionVaultKey := none, sessionKeyRole := none }

def isVaultUnlocked (core : SessionCore) : Bool :=
  core.sessionVaultKey.isSome

/-- The token that the next operation gets. -/
def nextOperation (core : SessionCore) : VaultSessionOperation :=
  { id := core.operationMetadata.length }

/-- `issueVaultSessionOperation` for an identifier that has been checked. -/
def issueVaultSessionOperation (ownerId : JsString) (core : SessionCore) :
    SessionCore :=
  { core with
    ownershipModeEnabled := true
    currentEpoch := core.currentEpoch + 1
    currentOwnerId := some ownerId
    operationMetadata := core.operationMetadata ++
      [{ epoch := core.currentEpoch + 1, ownerId }]
    currentOperation := some core.nextOperation }

/-- What the token stands for, if it was issued. -/
def metadataOf (core : SessionCore) (operation : VaultSessionOperation) :
    Option VaultSessionOperationMetadata :=
  core.operationMetadata[operation.id]?

/-- Whether the token is of the current epoch and owner. -/
def isVaultSessionOperationCurrent (core : SessionCore)
    (operation : VaultSessionOperation) : Bool :=
  match core.metadataOf operation with
  | none => false
  | some metadata =>
      core.currentOperation == some operation &&
        metadata.epoch == core.currentEpoch &&
        core.currentOwnerId == some metadata.ownerId

def invalidateVaultSessionLease (core : SessionCore) : SessionCore :=
  { core with currentLease := none }

def invalidateVaultSessionOperation (core : SessionCore) : SessionCore :=
  { core with
    currentEpoch := core.currentEpoch + 1
    currentOperation := none }

/-- No token is current, and no one owns the session. -/
def clearVaultSessionOperationOwner (core : SessionCore) : SessionCore :=
  { core.invalidateVaultSessionOperation with currentOwnerId := none }

/-- Whether the lease is the current one. -/
def isVaultSessionLeaseCurrent (core : SessionCore)
    (lease : VaultSessionLease) : Bool :=
  match core.leaseMetadata[lease.id]? with
  | none => false
  | some metadata =>
      core.currentLease == some metadata && core.currentLease == some lease &&
        core.currentOwnerId == some lease.ownerId

/-- The lease an operation is given for a key. -/
def nextLease (core : SessionCore) (metadata : VaultSessionOperationMetadata)
    (vaultKey : CryptoKey) (role : VaultSessionKeyRole) : VaultSessionLease :=
  { id := core.leaseMetadata.length
    ownerId := metadata.ownerId
    epoch := metadata.epoch
    role
    vaultKey }

def registerLease (lease : VaultSessionLease) (core : SessionCore) :
    SessionCore :=
  { core with
    leaseMetadata := core.leaseMetadata ++ [lease]
    currentLease := some lease }

end SessionCore

namespace SessionState

def mapCore (update : SessionCore → SessionCore) (state : SessionState) :
    SessionState :=
  { state with toSessionCore := update state.toSessionCore }

@[simp] theorem mapCore_core (update : SessionCore → SessionCore)
    (state : SessionState) :
    (state.mapCore update).toSessionCore = update state.toSessionCore := rfl

/-- When the timeout fires whose handle is in `inactivityTimer`. -/
def autoLockDeadline (state : SessionState) : Option ℚ :=
  state.timeouts.deadlineOf state.inactivityTimer

/-- `inactivityTimer` holds whatever timeout is pending. -/
def HoldsTimer (state : SessionState) : Prop :=
  state.timeouts.HeldBy state.inactivityTimer

def buffer (state : SessionState) (reference : BufferRef) : Bytes :=
  (state.buffers[reference.index]?).getD []

/-- `bytes.fill(0)` -/
def zeroBuffer (reference : BufferRef) (state : SessionState) : SessionState :=
  { state with
    buffers := state.buffers.modify reference.index fun bytes =>
      List.replicate bytes.length 0 }

end SessionState

section Registry

/-- Change the core of the session. -/
def mutate (update : SessionCore → SessionCore) : SessionSync Unit :=
  Sync.modify fun state => state.mapCore update

def assertVaultSessionOperationOwnerId (ownerId : JsString) :
    Except VaultError Unit :=
  if ownerId.length = 0 ∨ 2048 < ownerId.length ∨ trim ownerId ≠ ownerId then
    .error (.typeError
      "Vault session operation ownerId must be a non-empty opaque identifier")
  else .ok ()

def staleOperation : VaultError :=
  .vaultSessionOperationCancelledError .staleOperation

def missingOperation : VaultError :=
  .vaultSessionOperationCancelledError .missingOperation

/-- Why a mutation under a token, or under none, is refused. -/
def SessionCore.mutationAllowed (core : SessionCore) :
    Option VaultSessionOperation → Except VaultError Unit
  | some operation =>
      if core.isVaultSessionOperationCurrent operation then .ok ()
      else .error staleOperation
  | none =>
      if core.ownershipModeEnabled then .error missingOperation else .ok ()

/-- A given token must be current; without one, ownership mode must be off. -/
def assertVaultSessionMutationAllowed
    (operation : Option VaultSessionOperation) : SessionSync Unit :=
  fun state => (state.mutationAllowed operation, state)

/-- Why a mutation under a lease is refused. -/
def SessionCore.leaseMutationAllowed (core : SessionCore) :
    Option VaultSessionLease → Except VaultError Unit
  | some lease =>
      if core.isVaultSessionLeaseCurrent lease then .ok ()
      else .error staleOperation
  | none =>
      if core.ownershipModeEnabled then .error missingOperation else .ok ()

/-- A given lease must be current; without one, ownership mode must be off. -/
def assertVaultSessionLeaseMutationAllowed
    (lease : Option VaultSessionLease) : SessionSync Unit :=
  fun state => (state.leaseMutationAllowed lease, state)

/-- The lease of a key that was just installed. -/
def commitVaultSessionLease (operation : Option VaultSessionOperation)
    (vaultKey : CryptoKey) (role : VaultSessionKeyRole) :
    SessionSync (Option VaultSessionLease) := do
  assertVaultSessionMutationAllowed operation
  match operation with
  | none => do
      mutate SessionCore.invalidateVaultSessionLease
      return none
  | some operation => do
      let state ← Sync.get
      match state.metadataOf operation with
      | none => Sync.throw staleOperation
      | some metadata => do
          let lease := state.nextLease metadata vaultKey role
          mutate (SessionCore.registerLease lease)
          return some lease

/-- The current lease, for the owner that holds it. -/
def SessionCore.captureVaultSessionLease (core : SessionCore)
    (ownerId : JsString) : Except VaultError VaultSessionLease := do
  assertVaultSessionOperationOwnerId ownerId
  match core.currentLease with
  | none => .error staleOperation
  | some lease =>
      if lease.ownerId ≠ ownerId then .error staleOperation
      else if core.isVaultSessionLeaseCurrent lease then .ok lease
      else .error staleOperation

end Registry

end VaultCore
