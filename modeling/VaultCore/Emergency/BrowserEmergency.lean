import VaultCore.Emergency.UnlockRouting
import VaultCore.Envelopes.PasskeyPrfCandidates
import VaultCore.Session.InnerKeyCache

/-!
# Emergency-aware unlocking

An unlock resolves its target when it starts, opens the envelope selected for
it and installs the key with the target's role.  A decoy unlock pins the
emergency mode, which only the primary recovery phrase leaves again.
-/

namespace VaultCore

/-- What an unlock with a password is called with. -/
structure EmergencyUnlockPasswordInput where
  record : VaultSetupWithDecoy
  password : JsString
  duressSequence : Option JsString
  emergencyModeActive : Bool
  scope : VaultScope
  profile : VaultCryptoProfile
  /-- How the awaited callback ends, when one is given. -/
  onEmergencyEntered : Option (Except VaultError Unit)
  operation : Option VaultSessionOperation

/-- What an unlock with a passkey is called with. -/
structure EmergencyUnlockPasskeyInput where
  record : VaultSetupWithDecoy
  prfOutput : Bytes
  duressSignaled : Bool
  emergencyModeActive : Bool
  scope : VaultScope
  profile : VaultCryptoProfile
  onEmergencyEntered : Option (Except VaultError Unit)
  operation : Option VaultSessionOperation

/-- What an unlock with several variants is called with. -/
structure EmergencyUnlockPasskeyCandidateInput where
  record : VaultSetupWithDecoy
  verifiedCredentialId : JsString
  primaryCandidates : List UnknownCandidate
  decoyCandidates : Option (List UnknownCandidate)
  prfOutput : Bytes
  duressSignaled : Bool
  emergencyModeActive : Bool
  scope : VaultScope
  profile : VaultCryptoProfile
  onEmergencyEntered : Option (Except VaultError Unit)
  operation : Option VaultSessionOperation

/-- What an unlock with several variants answers. -/
inductive EmergencyUnlockPasskeyCandidateResult where
  | matched (matchedEnvelopeVariantId : JsString) (vaultKey : CryptoKey)
      (target : VaultUnlockTarget)
  | unmatched (result : UnlockPasskeyPrfEnvelopeCandidatesResult)

/-- What leaving the emergency mode is called with. -/
structure ExitEmergencyModeInput where
  recoveryPhrase : JsString
  emailOtp : Option JsString
  scope : VaultScope
  profile : VaultCryptoProfile
  primaryRecoveryEnvelope : RecoveryPhraseEnvelope
  emailOtpRequired : Bool
  operation : Option VaultSessionOperation

/-- The target of an unlock that starts in the given session. -/
def EmergencyUnlockPasswordInput.target (input : EmergencyUnlockPasswordInput)
    (core : SessionCore) : VaultUnlockTarget :=
  resolveVaultUnlockTarget {
    password := some input.password
    duressSequence := input.duressSequence
    emergencyModeActive :=
      input.emergencyModeActive || core.isVaultEmergencyMode }

/-- Which vault the passkey is to open. -/
def EmergencyUnlockPasskeyInput.target (input : EmergencyUnlockPasskeyInput)
    (core : SessionCore) : VaultUnlockTarget :=
  resolveVaultUnlockTarget {
    duressSignaled := input.duressSignaled
    emergencyModeActive :=
      input.emergencyModeActive || core.isVaultEmergencyMode }

/-- Which vault the variants are to open. -/
def EmergencyUnlockPasskeyCandidateInput.target
    (input : EmergencyUnlockPasskeyCandidateInput) (core : SessionCore) :
    VaultUnlockTarget :=
  resolveVaultUnlockTarget {
    duressSignaled := input.duressSignaled
    emergencyModeActive :=
      input.emergencyModeActive || core.isVaultEmergencyMode }

/-- The decoy of a record, or an error. -/
def requireDecoy (record : VaultSetupWithDecoy) :
    Except VaultError VaultDecoyRecord :=
  match record.decoy with
  | some decoy => .ok decoy
  | none => .error
      (.vaultAuthorizationError "Decoy vault is not configured.")

def selectPasswordEnvelope (record : VaultSetupWithDecoy) :
    VaultUnlockTarget → Except VaultError PasswordEnvelope
  | .decoy => do
      let decoy ← requireDecoy record
      return decoy.passwordEnvelope
  | .primary => .ok record.passwordEnvelope

/-- The decoy's passkey envelope, or else the primary one. -/
def passkeyEnvelopeFor (record : VaultSetupWithDecoy) :
    VaultUnlockTarget → Except VaultError (Option PasskeyPrfEnvelope)
  | .decoy => do
      let decoy ← requireDecoy record
      return decoy.passkeyPrfEnvelope.or record.passkeyPrfEnvelope
  | .primary => .ok record.passkeyPrfEnvelope

/-- The passkey envelope of the target; a decoy without one is given the
primary one. -/
def selectPasskeyEnvelope (record : VaultSetupWithDecoy)
    (target : VaultUnlockTarget) : Except VaultError PasskeyPrfEnvelope := do
  match ← passkeyEnvelopeFor record target with
  | some envelope => return envelope
  | none => throw (.vaultAuthorizationError
      "Passkey unlock is not configured for this vault.")

/-- The variants of the target. -/
def selectCandidates (input : EmergencyUnlockPasskeyCandidateInput) :
    VaultUnlockTarget → Except VaultError (List UnknownCandidate)
  | .primary => .ok input.primaryCandidates
  | .decoy => do
      let _ ← requireDecoy input.record
      match input.decoyCandidates with
      | some candidates => return candidates
      | none => throw (.vaultAuthorizationError
          "Passkey envelope candidates are not configured for the decoy vault.")

/-- `await callback?.()` -/
def awaitCallback : Option (Except VaultError Unit) → SessionAsync Unit
  | none => Async.awaitOutcome (.ok ())
  | some outcome => Async.awaitOutcome outcome

/-- Installs the key under its role, and then tells the application of an
emergency. -/
def finalizeUnlock (vaultKey : CryptoKey) (role : VaultSessionKeyRole)
    (enteredEmergency : Bool)
    (onEmergencyEntered : Option (Except VaultError Unit))
    (operation : Option VaultSessionOperation) : SessionAsync CryptoKey := do
  let _ ← Async.await (unlockVaultSession vaultKey (some role) operation)
  if enteredEmergency then do
    Async.lift (assertVaultSessionMutationAllowed operation)
    awaitCallback onEmergencyEntered
    Async.lift (assertVaultSessionMutationAllowed operation)
    pure vaultKey
  else pure vaultKey

section

variable (platform : Platform)

/-- The target is resolved before the derivation, and the key is installed
after it. -/
def unlockVaultWithPasswordRouting (input : EmergencyUnlockPasswordInput) :
    SessionAsync CryptoKey := do
  Async.lift (assertVaultSessionMutationAllowed input.operation)
  let state ← Async.lift Sync.get
  let target := input.target state.toSessionCore
  let envelope ← Async.lift (Sync.ofExcept
    (selectPasswordEnvelope input.record target))
  let vaultKey ← Async.awaitOutcome (unlockWithPasswordEnvelope platform
    input.password envelope input.scope input.profile)
  Async.await (finalizeUnlock vaultKey target (target == .decoy)
    input.onEmergencyEntered input.operation)

/-- The same with the envelope of a passkey. -/
def unlockVaultWithPasskeyRouting (input : EmergencyUnlockPasskeyInput) :
    SessionAsync CryptoKey := do
  Async.lift (assertVaultSessionMutationAllowed input.operation)
  let state ← Async.lift Sync.get
  let target := input.target state.toSessionCore
  let envelope ← Async.lift (Sync.ofExcept
    (selectPasskeyEnvelope input.record target))
  let vaultKey ← Async.awaitOutcome (unlockWithPasskeyPrfEnvelope platform
    envelope (some input.prfOutput) input.scope input.profile true)
  Async.await (finalizeUnlock vaultKey target (target == .decoy)
    input.onEmergencyEntered input.operation)

/-- The same with the variants of a passkey. -/
def unlockVaultWithPasskeyCandidateRouting
    (input : EmergencyUnlockPasskeyCandidateInput) :
    SessionAsync EmergencyUnlockPasskeyCandidateResult := do
  Async.lift (assertVaultSessionMutationAllowed input.operation)
  let state ← Async.lift Sync.get
  let target := input.target state.toSessionCore
  let candidates ← Async.lift (Sync.ofExcept (selectCandidates input target))
  let result ← Async.awaitOutcome (.ok
    (unlockWithPasskeyPrfEnvelopeCandidates platform
      input.verifiedCredentialId candidates (some input.prfOutput)
      input.scope input.profile))
  Async.lift (assertVaultSessionMutationAllowed input.operation)
  match result with
  | .matched envelopeVariantId vaultKey => do
      let _ ← Async.await (finalizeUnlock vaultKey target (target == .decoy)
        input.onEmergencyEntered input.operation)
      pure (.matched envelopeVariantId vaultKey target)
  | other => pure (.unmatched other)

/-- The phrase has to open the primary vault before the pin is released. -/
def exitEmergencyMode (input : ExitEmergencyModeInput) :
    SessionAsync Unit := do
  Async.lift (assertVaultSessionMutationAllowed input.operation)
  let state ← Async.lift Sync.get
  if !state.isVaultEmergencyMode then pure ()
  else if input.emailOtpRequired && (input.emailOtp.getD []).isEmpty then
    Async.throw (.vaultAuthorizationError
      "Email verification is required to exit emergency mode.")
  else do
    let _ ← Async.awaitOutcome (unlockWithRecoveryEnvelope platform
      input.recoveryPhrase input.primaryRecoveryEnvelope input.scope
      input.profile none)
    Async.lift do
      assertVaultSessionMutationAllowed input.operation
      clearEmergencyModePin input.operation
      lockVaultSession

end

/-- Pins the emergency mode when the server says that it is active. -/
def hydrateVaultEmergencyModeFromServer (emergencyModeActive : Bool)
    (operation : Option VaultSessionOperation) : SessionSync Unit := do
  assertVaultSessionMutationAllowed operation
  if emergencyModeActive then enterVaultEmergencyMode operation
  else return ()

end VaultCore
