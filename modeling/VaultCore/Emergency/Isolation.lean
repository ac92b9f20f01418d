import VaultCore.Emergency.Reference

/-!
# Isolation of the primary key

In emergency mode, or in the decoy role, a routed unlock leaves the decoy key
in the session.  The one exception is the passkey route to a decoy without a
passkey envelope, which opens the primary envelope instead.
-/

namespace VaultCore

section Mode

variable {core : SessionCore}

theorem SessionCore.isVaultEmergencyMode_false
    (normal : core.isVaultEmergencyMode = false) :
    core.emergencyModePinned = false ∧ core.sessionMode = .normal := by
  unfold isVaultEmergencyMode getVaultSessionMode at normal
  split at normal
  · cases normal
  · split at normal
    · cases normal
    · rename_i unpinned
      refine ⟨eq_false_of_ne_true unpinned, ?_⟩
      cases mode : core.sessionMode with
      | normal => rfl
      | emergency =>
          rw [mode] at normal
          cases normal

theorem SessionCore.isVaultEmergencyMode_primary
    (role : core.sessionKeyRole = some .primary)
    (unpinned : core.emergencyModePinned = false)
    (mode : core.sessionMode = .normal) :
    core.isVaultEmergencyMode = false := by
  simp [isVaultEmergencyMode, getVaultSessionMode, role, unpinned, mode]

theorem resolveVaultUnlockTarget_primary
    {input : ResolveVaultUnlockTargetInput}
    (primary : resolveVaultUnlockTarget input = .primary) :
    input.emergencyModeActive = false := by
  unfold resolveVaultUnlockTarget at primary
  split at primary
  · cases primary
  · rename_i inactive
    exact eq_false_of_ne_true inactive

theorem RoutedUnlock.target_primary {unlock : RoutedUnlock}
    (primary : unlock.target core = .primary) :
    core.isVaultEmergencyMode = false := by
  have inactive : ∀ given : Bool,
      (given || core.isVaultEmergencyMode) = false →
        core.isVaultEmergencyMode = false := by
    intro given neither
    exact (Bool.or_eq_false_iff.mp neither).2
  cases unlock with
  | password input =>
      exact inactive _ (resolveVaultUnlockTarget_primary primary)
  | passkey input =>
      exact inactive _ (resolveVaultUnlockTarget_primary primary)
  | candidate input =>
      exact inactive _ (resolveVaultUnlockTarget_primary primary)

end Mode

section Keys

variable (platform : Platform)

/-- What a routed unlock may open for the decoy holds the decoy key. -/
structure DecoyHolds (unlock : RoutedUnlock) (decoy : VaultDecoyRecord)
    (decoyMaterial : AesKeyMaterial) : Prop where
  configured : unlock.record.decoy = some decoy
  decoyPassword : HoldsByPassword platform decoy.passwordEnvelope decoyMaterial
  decoyPasskey : ∀ envelope, decoy.passkeyPrfEnvelope = some envelope →
    HoldsByPasskey platform envelope decoyMaterial
  decoyCandidates : ∀ input candidates, unlock = .candidate input →
    input.decoyCandidates = some candidates →
      HoldByCandidates platform candidates decoyMaterial

/-- The decoy key is not the primary one, which the primary passkey envelope
holds. -/
structure KeySeparation (unlock : RoutedUnlock) (decoy : VaultDecoyRecord)
    (primaryMaterial decoyMaterial : AesKeyMaterial) : Prop
    extends DecoyHolds platform unlock decoy decoyMaterial where
  distinct : decoyMaterial ≠ primaryMaterial
  primaryPasskey : ∀ envelope,
    unlock.record.passkeyPrfEnvelope = some envelope →
      HoldsByPasskey platform envelope primaryMaterial

end Keys

/-- The installed key is not the primary one where the session shows the
decoy. -/
def Isolated (session : SessionState) (primaryMaterial : AesKeyMaterial) :
    Prop :=
  session.getVaultSessionMode = .emergency ∨
      session.sessionKeyRole = some .decoy →
    ∀ vaultKey, session.sessionVaultKey = some vaultKey →
      vaultKey.material ≠ primaryMaterial

/-- A passkey unlock of the decoy finds no passkey envelope in the decoy. -/
def RoutedUnlock.FallsBack (session : SessionState)
    (decoy : VaultDecoyRecord) : RoutedUnlock → Prop
  | .passkey input =>
      (input.emergencyModeActive || session.isVaultEmergencyMode ||
        input.duressSignaled) = true ∧ decoy.passkeyPrfEnvelope = none
  | .password _ => False
  | .candidate _ => False

section Decoy

variable {platform : Platform} {session finish : SessionState}
  {unlock : RoutedUnlock} {decoy : VaultDecoyRecord}
  {primaryMaterial decoyMaterial : AesKeyMaterial} {vaultKey : CryptoKey}

theorem passkeyTarget_decoy_iff {input : EmergencyUnlockPasskeyInput}
    {core : SessionCore} :
    input.target core = .decoy ↔
      (input.emergencyModeActive || core.isVaultEmergencyMode ||
        input.duressSignaled) = true := by
  unfold EmergencyUnlockPasskeyInput.target resolveVaultUnlockTarget
  cases (input.emergencyModeActive || core.isVaultEmergencyMode) with
  | true => simp
  | false => cases input.duressSignaled <;> simp

theorem requireDecoy_some {record : VaultSetupWithDecoy}
    (configured : record.decoy = some decoy) :
    requireDecoy record = .ok decoy := by
  rw [requireDecoy, configured]

/-- What is installed for the decoy, when nothing falls back. -/
theorem decoy_installs
    (holds : DecoyHolds platform unlock decoy decoyMaterial)
    (noFallback : ¬ unlock.FallsBack session decoy)
    (installs : unlock.call.installs platform session.toSessionCore vaultKey
      .decoy) : vaultKey.material = decoyMaterial := by
  cases unlock with
  | password input =>
      have required : requireDecoy input.record = .ok decoy :=
        requireDecoy_some holds.configured
      obtain ⟨-, envelope, selected, opened⟩ := installs
      simp only [selectPasswordEnvelope, required, Outcome.ok_bind] at selected
      cases selected
      exact holds.decoyPassword _ _ _ _ opened
  | passkey input =>
      have required : requireDecoy input.record = .ok decoy :=
        requireDecoy_some holds.configured
      obtain ⟨target, envelope, selected, opened⟩ := installs
      cases own : decoy.passkeyPrfEnvelope with
      | none =>
          exact absurd ⟨passkeyTarget_decoy_iff.mp target.symm, own⟩ noFallback
      | some passkeyEnvelope =>
          simp only [selectPasskeyEnvelope, passkeyEnvelopeFor, required, own,
            Outcome.ok_bind] at selected
          cases selected
          exact holds.decoyPasskey _ own _ _ _ _ opened
  | candidate input =>
      have required : requireDecoy input.record = .ok decoy :=
        requireDecoy_some holds.configured
      obtain ⟨-, candidates, identifier, selected, found⟩ := installs
      simp only [selectCandidates, required, Outcome.ok_bind] at selected
      cases given : input.decoyCandidates with
      | none =>
          rw [given] at selected
          cases selected
      | some decoyCandidates =>
          rw [given] at selected
          cases selected
          exact holds.decoyCandidates input _ rfl given _ _ _ _ _ _ found

/-- What is installed when the passkey route falls back. -/
theorem fallback_installs (separate : KeySeparation platform unlock decoy
      primaryMaterial decoyMaterial)
    (fallback : unlock.FallsBack session decoy)
    (installs : unlock.call.installs platform session.toSessionCore vaultKey
      (unlock.target session.toSessionCore)) :
    unlock.target session.toSessionCore = .decoy ∧
      vaultKey.material = primaryMaterial := by
  cases unlock with
  | password input => exact fallback.elim
  | candidate input => exact fallback.elim
  | passkey input =>
      have required : requireDecoy input.record = .ok decoy :=
        requireDecoy_some separate.configured
      have target : input.target session.toSessionCore = .decoy :=
        passkeyTarget_decoy_iff.mpr fallback.1
      refine ⟨target, ?_⟩
      obtain ⟨-, envelope, selected, opened⟩ := installs
      simp only [RoutedUnlock.target, target, selectPasskeyEnvelope,
        passkeyEnvelopeFor, required, fallback.2, Outcome.ok_bind,
        Outcome.pure_eq_ok, Option.none_or] at selected
      cases primary : input.record.passkeyPrfEnvelope with
      | none =>
          rw [primary] at selected
          cases selected
      | some passkeyEnvelope =>
          rw [primary] at selected
          cases selected
          exact separate.primaryPasskey _ primary _ _ _ _ opened

/-- An unlock that falls back shows the decoy and holds the primary key. -/
theorem not_isolated_of_fallback
    (separate : KeySeparation platform unlock decoy primaryMaterial
      decoyMaterial)
    (resolved : unlock.Resolves platform session finish)
    (fallback : unlock.FallsBack session decoy) :
    ¬ Isolated finish primaryMaterial := by
  obtain ⟨vaultKey, unlocked, installs⟩ :=
    RoutedUnlock.resolves_unlocked resolved
  obtain ⟨committed, fields, -⟩ := SessionCore.installed_of_allowed
    unlocked.allowed vaultKey (unlock.target session.toSessionCore)
  rw [← unlocked.core] at fields
  obtain ⟨target, material⟩ := fallback_installs separate fallback installs
  intro isolated
  have role : finish.sessionKeyRole = some .decoy := by
    rw [fields.role, target]
  exact isolated (.inr role) vaultKey fields.vaultKey material

theorem isolated_of_no_fallback
    (separate : KeySeparation platform unlock decoy primaryMaterial
      decoyMaterial)
    (resolved : unlock.Resolves platform session finish)
    (noFallback : ¬ unlock.FallsBack session decoy) :
    Isolated finish primaryMaterial := by
  obtain ⟨vaultKey, unlocked, installs⟩ :=
    RoutedUnlock.resolves_unlocked resolved
  obtain ⟨committed, fields, -⟩ := SessionCore.installed_of_allowed
    unlocked.allowed vaultKey (unlock.target session.toSessionCore)
  rw [← unlocked.core] at fields
  intro shown installedKey holds
  rw [fields.vaultKey] at holds
  cases holds
  cases target : unlock.target session.toSessionCore with
  | decoy =>
      rw [target] at installs
      rw [decoy_installs separate.toDecoyHolds noFallback installs]
      exact separate.distinct
  | primary =>
      rw [target] at fields
      obtain ⟨unpinned, mode⟩ := SessionCore.isVaultEmergencyMode_false
        (RoutedUnlock.target_primary target)
      have normal := SessionCore.isVaultEmergencyMode_primary fields.role
        (by rw [fields.pin, unpinned]; rfl)
        (by rw [fields.mode, mode]; rfl)
      rcases shown with emergency | decoyRole
      · rw [SessionCore.isVaultEmergencyMode, emergency] at normal
        cases normal
      · rw [fields.role] at decoyRole
        cases decoyRole

/-- A routed unlock that resolves keeps the primary key out of the emergency
mode and of the decoy role exactly when it does not fall back. -/
theorem routed_unlock_isolated_iff
    (separate : KeySeparation platform unlock decoy primaryMaterial
      decoyMaterial)
    (resolved : unlock.Resolves platform session finish) :
    Isolated finish primaryMaterial ↔ ¬ unlock.FallsBack session decoy := by
  constructor
  · intro isolated fallback
    exact not_isolated_of_fallback separate resolved fallback isolated
  · exact isolated_of_no_fallback separate resolved

end Decoy

namespace Reference

/-- A passkey unlock under duress of the record whose decoy has the given
passkey envelope. -/
def duressPasskeyUnlock (decoyPasskey : Option PasskeyPrfEnvelope)
    (prfOutput : Bytes) : EmergencyUnlockPasskeyInput :=
  { record := emergencyRecord decoyPasskey
    prfOutput
    duressSignaled := true
    emergencyModeActive := false
    scope := referenceScope
    profile := referenceProfile
    onEmergencyEntered := none
    operation := none }

theorem duressPasskeyUnlock_separate {decoyPasskey : Option PasskeyPrfEnvelope}
    (prfOutput : Bytes)
    (decoyHolds : ∀ envelope, decoyPasskey = some envelope →
      HoldsByPasskey emergencyPlatform envelope decoyMaterial) :
    KeySeparation emergencyPlatform
      (.passkey (duressPasskeyUnlock decoyPasskey prfOutput))
      (decoyRecord decoyPasskey) primaryMaterial decoyMaterial where
  configured := rfl
  distinct := decoyMaterial_ne
  primaryPasskey := by
    intro envelope own
    cases own
    exact passkeyEnvelope_holds length_primaryMaterial
  decoyPassword := passwordEnvelope_holds length_decoyMaterial
  decoyPasskey := decoyHolds
  decoyCandidates := by
    intro input candidates impossible
    cases impossible

theorem fresh_quiet : SessionState.Quiet {} where
  listeners := fun _ impossible => by cases impossible
  autoLock := ⟨_, rfl⟩

private theorem primaryPrf_opens :
    unlockWithPasskeyPrfEnvelope emergencyPlatform
      (passkeyEnvelope emergencyLedger primaryPrf primaryMaterial)
      (some primaryPrf) referenceScope referenceProfile true =
        .ok (openedKey primaryMaterial) := by
  apply unlock_passkeyEnvelope length_primaryMaterial
  rw [primaryPrf, List.length_replicate]

private theorem decoyPrf_opens :
    unlockWithPasskeyPrfEnvelope emergencyPlatform
      (passkeyEnvelope emergencyLedger decoyPrf decoyMaterial)
      (some decoyPrf) referenceScope referenceProfile true =
        .ok (openedKey decoyMaterial) := by
  apply unlock_passkeyEnvelope length_decoyMaterial
  rw [decoyPrf, List.length_replicate]

private theorem duressPasskeyUnlock_resolves
    {decoyPasskey : Option PasskeyPrfEnvelope} {prfOutput : Bytes}
    {envelope : PasskeyPrfEnvelope} {material : AesKeyMaterial}
    (selected : selectPasskeyEnvelope (emergencyRecord decoyPasskey) .decoy =
      .ok envelope)
    (opened : unlockWithPasskeyPrfEnvelope emergencyPlatform envelope
      (some prfOutput) referenceScope referenceProfile true =
        .ok (openedKey material)) :
    ∃ finish, (RoutedUnlock.passkey (duressPasskeyUnlock decoyPasskey
      prfOutput)).Resolves emergencyPlatform {} finish := by
  have target : (duressPasskeyUnlock decoyPasskey prfOutput).target {} =
      .decoy := rfl
  obtain ⟨finish, ran⟩ := @unlockVaultWithPasskeyRouting_quiet
    emergencyPlatform {} (duressPasskeyUnlock decoyPasskey prfOutput) envelope
    (openedKey material) fresh_quiet rfl (by rw [target]; exact selected)
    opened rfl rfl
  exact ⟨finish, openedKey material, ran⟩

end Reference

/-- A decoy with a passkey envelope of its own. -/
theorem routed_unlock_isolated_iff_passkey :
    let envelope := Reference.passkeyEnvelope Reference.emergencyLedger
      Reference.decoyPrf Reference.decoyMaterial
    let unlock := RoutedUnlock.passkey
      (Reference.duressPasskeyUnlock (some envelope) Reference.decoyPrf)
    ∃ finish, unlock.Resolves Reference.emergencyPlatform {} finish ∧
      (Isolated finish Reference.primaryMaterial ↔
        ¬ unlock.FallsBack {} (Reference.decoyRecord (some envelope))) := by
  intro envelope unlock
  have separate := @Reference.duressPasskeyUnlock_separate (some envelope)
    Reference.decoyPrf (by
      intro other own
      cases own
      exact Reference.passkeyEnvelope_holds Reference.length_decoyMaterial)
  obtain ⟨finish, resolved⟩ := @Reference.duressPasskeyUnlock_resolves
    (some envelope) Reference.decoyPrf envelope Reference.decoyMaterial rfl
    Reference.decoyPrf_opens
  exact ⟨finish, resolved, routed_unlock_isolated_iff separate resolved⟩

/-- Under duress, the primary passkey installs the primary key for a decoy
that has no passkey envelope. -/
theorem duress_passkey_installs_primary :
    let unlock := RoutedUnlock.passkey
      (Reference.duressPasskeyUnlock none Reference.primaryPrf)
    KeySeparation Reference.emergencyPlatform unlock
      (Reference.decoyRecord none) Reference.primaryMaterial
      Reference.decoyMaterial ∧
    ∃ finish, unlock.Resolves Reference.emergencyPlatform {} finish ∧
      ¬ Isolated finish Reference.primaryMaterial := by
  intro unlock
  have separate := @Reference.duressPasskeyUnlock_separate none
    Reference.primaryPrf (by
      intro other impossible
      cases impossible)
  obtain ⟨finish, resolved⟩ := @Reference.duressPasskeyUnlock_resolves none
    Reference.primaryPrf _ Reference.primaryMaterial rfl
    Reference.primaryPrf_opens
  exact ⟨separate, finish, resolved,
    not_isolated_of_fallback separate resolved ⟨rfl, rfl⟩⟩

end VaultCore
