import VaultCore.Demo.CreatedVault
import VaultCore.Demo.SoundHandlers

/-!
# The vault of the demo survives its handlers

However the handlers of the page overlap, the stored record stays one that its
user can open: a password and a phrase that were given to the page open it to
the vault key it was created with, and its blob holds a payload that was
saved.  A save that loses an update or brings a record back loses no key, and
a record stays stored unless the user deletes the vault.
-/

namespace VaultCore

section Calls

variable {Value : Type}

namespace DemoCall

/-- The password that the call may store an envelope for. -/
def storedPassword : DemoCall Value → Option JsString
  | .changeDemoVaultPassword _ input => some input.newPassword
  | .upgradeDemoPasswordEnvelope _ currentPassword => some currentPassword
  | _ => none

/-- The phrase that the call may store an envelope for.  A phrase that was
only shown is none. -/
def storedPhrase : DemoCall Value → Option JsString
  | .handleCommit confirmPhrase => some confirmPhrase
  | .upgradeDemoRecoveryEnvelope _ input => some input.recoveryPhrase
  | _ => none

def storedPayload : DemoCall Value → Option Value
  | .saveDemoPayload _ payload => some payload
  | _ => none

/-- Every envelope that the call can create for the key opens under one key
only. -/
def SealsIdeally (app : DemoApp Value) (vaultKey : CryptoKey) :
    DemoCall Value → Prop
  | .changeDemoVaultPassword random input => ∀ envelope,
      RenewsIdeally app.platform random (.rotateVaultPassword
        (demoPasswordRotation app input vaultKey envelope))
  | .handleGenerate random input => ∀ envelope,
      RenewsIdeally app.platform random (.rotateRecoveryPhrase
        (demoRecoveryRotation app input vaultKey envelope))
  | .upgradeDemoPasswordEnvelope random currentPassword => ∀ envelope,
      RenewsIdeally app.platform random
        (.maybeUpgradePasswordEnvelopeAfterUnlock
          (demoPasswordUpgrade app currentPassword vaultKey envelope))
  | .upgradeDemoRecoveryEnvelope random input => ∀ envelope,
      RenewsIdeally app.platform random
        (.maybeUpgradeRecoveryEnvelopeAfterUnlock
          (demoRecoveryUpgrade app input vaultKey envelope))
  | _ => True

end DemoCall

/-- The call gives the page only what was offered. -/
structure DemoCall.Offers (app : DemoApp Value) (offered : Offered Value)
    (call : DemoCall Value) : Prop where
  ideally : call.SealsIdeally app offered.vaultKey
  password : ∀ password, call.storedPassword = some password →
    offered.passwords password
  phrase : ∀ phrase, call.storedPhrase = some phrase →
    offered.phrases phrase
  payload : ∀ payload, call.storedPayload = some payload →
    offered.payloads payload
  deletion : ∀ currentPassword, call = .deleteDemoVault currentPassword →
    offered.deletion

/-- A payload that is handed out was saved. -/
def GoodAnswer (app : DemoApp Value) (offered : Offered Value) :
    DemoAnswer Value → Prop
  | .payload (some value) => SavedPayload app offered value
  | _ => True

variable {app : DemoApp Value} {offered : Offered Value}

theorem demoProgram_keeps (ideal : IdealDemo app offered)
    {call : DemoCall Value} (offers : call.Offers app offered) :
    KeepsPage app offered (GoodAnswer app offered)
      (demoProgram app call) := by
  have ideally := offers.ideally
  cases call with
  | unlockDemoVault vaultPassword =>
      apply Async.Upholds.bind_pure (keeps_unlockDemoVault ideal vaultPassword)
      intro payload saved
      exact saved
  | unlockDemoVaultWithRecoveryPhrase recoveryPhrase =>
      apply Async.Upholds.bind_pure
        (keeps_unlockDemoVaultWithRecoveryPhrase ideal recoveryPhrase)
      intro payload saved
      exact saved
  | unlockDemoVaultWithPasskey metadataCredentialId authenticate =>
      apply Async.Upholds.bind_pure
        (keeps_unlockDemoVaultWithPasskey metadataCredentialId authenticate)
      intro payload saved
      exact saved
  | loadDecryptedDemoPayload =>
      apply Async.Upholds.bind_pure (keeps_loadDecryptedDemoPayload ideal)
      intro loaded saved
      cases loaded with
      | none => trivial
      | some payload => exact saved payload rfl
  | saveDemoPayload iv payload =>
      apply Async.Upholds.bind_pure
        (keeps_saveDemoPayload (offers.payload payload rfl))
      intro _ _
      trivial
  | changeDemoVaultPassword random input =>
      apply Async.Upholds.bind_pure (keeps_changeDemoVaultPassword ideal
        (offers.password input.newPassword rfl) ideally)
      intro _ _
      trivial
  | handleGenerate random input =>
      apply Async.Upholds.bind_pure (keeps_handleGenerate ideal ideally)
      intro _ _
      trivial
  | handleCommit confirmPhrase =>
      apply Async.Upholds.bind_pure
        (keeps_handleCommit (offers.phrase confirmPhrase rfl))
      intro _ _
      trivial
  | linkDemoPasskeyPrf iv registerDemoPasskey =>
      apply Async.Upholds.bind_pure (keeps_linkDemoPasskeyPrf ideal)
      intro _ _
      trivial
  | unlinkDemoPasskeyPrf =>
      apply Async.Upholds.bind_pure keeps_unlinkDemoPasskeyPrf
      intro _ _
      trivial
  | upgradeDemoPasswordEnvelope random currentPassword =>
      apply Async.Upholds.bind_pure (keeps_upgradeDemoPasswordEnvelope ideal
        (offers.password currentPassword rfl) ideally)
      intro _ _
      trivial
  | upgradeDemoRecoveryEnvelope random input =>
      apply Async.Upholds.bind_pure (keeps_upgradeDemoRecoveryEnvelope ideal
        (offers.phrase input.recoveryPhrase rfl) ideally)
      intro _ _
      trivial
  | deleteDemoVault currentPassword =>
      apply Async.Upholds.bind_pure (keeps_deleteDemoVault
        (offers.deletion currentPassword rfl) currentPassword)
      intro _ _
      trivial
  | lockVaultSession =>
      apply Async.Upholds.bind_pure keeps_lockVaultSession
      intro _ _
      trivial
  | touchVaultSession =>
      apply Async.Upholds.bind_pure keeps_touchVaultSession
      intro _ _
      trivial
  | hydrateDemoEmergencyFromServer =>
      apply Async.Upholds.bind_pure keeps_hydrateDemoEmergencyFromServer
      intro _ _
      trivial

theorem demoEnvironment_sound (event : DemoEvent) {page : DemoPage}
    (sound : SoundPage app offered page) :
    SoundPage app offered (demoEnvironment app event page) := by
  cases event with
  | session event =>
      apply sound.with_session
      rcases sessionEnvironment_core event page.session with same | locked
      · rw [same]
        exact sound.session
      · rw [locked]
        exact sound.session.locked
  | limiter event =>
      exact ⟨sound.session, sound.record, sound.pending, sound.kept⟩
  | storage getThrows setThrows removeThrows =>
      exact sound.with_record sound.record sound.kept
  | settingsPageLeft =>
      refine ⟨sound.session, sound.record, ?_, sound.kept⟩
      intro pending impossible
      cases impossible

/-- Whatever the handlers do, in any order, the page stays sound and hands out
payloads that were saved. -/
theorem demo_run_sound (ideal : IdealDemo app offered) {page : DemoPage}
    (sound : SoundPage app offered page)
    (events : List (PoolEvent (DemoCall Value) DemoEvent))
    (offers : ∀ call, .start call ∈ events → call.Offers app offered) :
    Machine.Upholds (SoundPage app offered)
      (fun _ => GoodAnswer app offered)
      ((demoMachine app).run (Pool.initial page) events) := by
  apply Machine.run_upholds (fun call offers => demoProgram_keeps ideal offers)
  · intro event page sound
    exact demoEnvironment_sound event sound
  · exact .initial sound
  · exact offers

end Calls

/-! ## Runs of a vault that was created -/

section Runs

variable {Value : Type} {app : DemoApp Value} {random : EnrollmentRandomness}
  {input : CreateDemoVaultInput}

/-- What a user has given to the page by the end of a run: at the creation of
the vault, and with the calls that were started since. -/
def offeredIn (app : DemoApp Value) (random : EnrollmentRandomness)
    (input : CreateDemoVaultInput) (recoveryPhrase : JsString)
    (events : List (PoolEvent (DemoCall Value) DemoEvent)) : Offered Value :=
  { vaultKey := demoVaultKey random
    passwords := fun password => password = input.vaultPassword ∨
      ∃ call, .start call ∈ events ∧ call.storedPassword = some password
    phrases := fun phrase => phrase = recoveryPhrase ∨
      ∃ call, .start call ∈ events ∧ call.storedPhrase = some phrase
    payloads := fun payload => payload = app.emptyPayload ∨
      ∃ call, .start call ∈ events ∧ call.storedPayload = some payload
    deletion := ∃ currentPassword,
      .start (.deleteDemoVault currentPassword) ∈ events }

/-- Every call of a run gives the page what the run offers. -/
theorem offers_offeredIn {recoveryPhrase : JsString}
    {events : List (PoolEvent (DemoCall Value) DemoEvent)}
    {call : DemoCall Value} (started : .start call ∈ events)
    (ideally : call.SealsIdeally app (demoVaultKey random)) :
    call.Offers app (offeredIn app random input recoveryPhrase events) where
  ideally := ideally
  password := by
    intro password stored
    exact .inr ⟨call, started, stored⟩
  phrase := by
    intro phrase stored
    exact .inr ⟨call, started, stored⟩
  payload := by
    intro payload stored
    exact .inr ⟨call, started, stored⟩
  deletion := by
    rintro currentPassword rfl
    exact ⟨currentPassword, started⟩

/-- A vault that was created while its page had no rotation pending survives
every run of the page. -/
theorem demo_vault_survives (crypto : app.platform.Lawful)
    (stable : app.platform.LowerCaseStable) (codec : app.codec.Lawful)
    (probe : app.platform.IdealProbe random.vaultKey.material)
    {page started : DemoPage} {recoveryPhrase : JsString}
    {record : VaultSetupWithDecoy}
    (unpinned : page.session.emergencyModePinned = false)
    (normal : page.session.sessionMode = .normal)
    (nothingPending : page.pendingRotation = none)
    (created : (createDemoVault app random input).runAlone page =
      (.ok (recoveryPhrase, record), started))
    (passwordIdeal : SealedForOneKey app.platform
      record.passwordEnvelope.encryptedVaultKey)
    (recoveryIdeal : SealedForOneKey app.platform
      record.recoveryEnvelope.encryptedVaultKey)
    (events : List (PoolEvent (DemoCall Value) DemoEvent))
    (ideally : ∀ call, .start call ∈ events →
      call.SealsIdeally app (demoVaultKey random)) :
    let offered := offeredIn app random input recoveryPhrase events
    let pool := (demoMachine app).run (Pool.initial started) events
    SoundPage app offered pool.state ∧
      ∀ call payload, (call, .done (.ok (.payload (some payload)))) ∈
        pool.tasks → SavedPayload app offered payload := by
  intro offered pool
  have ideal : IdealDemo app offered :=
    { crypto
      stable
      codec
      probe
      handle := rfl }
  have vault := createDemoVault_ok created
  have whole : SoundRecord app offered record :=
    vault.soundRecord crypto rfl (.inl rfl) (.inl rfl) (.inl rfl)
      passwordIdeal recoveryIdeal
  have sound : SoundPage app offered started :=
    vault.sound ideal rfl whole unpinned normal nothingPending
  have upholds := demo_run_sound ideal sound events
    fun call starts => offers_offeredIn starts (ideally call starts)
  refine ⟨upholds.state, ?_⟩
  intro call payload ended
  exact upholds.returned ended

end Runs

namespace Reference

/-- The password of the vault is its phrase, so that its two envelopes are one
sealing. -/
def demoLedger : List Sealing :=
  scopedLedger (stringToBytes recoveryPhrase) (Reference.material 7)
    (vaultScope demoUserId) referenceProfile

def demoApp : DemoApp JsString :=
  { platform := platform demoLedger
    codec := stringCodec
    demoVaultPayloadSchema := .ok
    emptyPayload := js ""
    vaultProfile := referenceProfile
    unlockRateLimit := RateLimit.defaultVaultUnlockRateLimit }

def demoRandomness : EnrollmentRandomness :=
  { randomness with
    vaultKey := ⟨List.replicate 32 7, List.length_replicate⟩ }

def demoCreation : CreateDemoVaultInput :=
  { vaultPassword := recoveryPhrase, recoveryWordCount := .twelve }

def freshDemoPage : DemoPage :=
  { storage := {}
    session := {}
    limiter := { buckets := .empty, nowMs := 0, attemptsInvoked := 0 } }

/-- Two saves and an unlock overlap, and the page locks between them. -/
def demoRun : List (PoolEvent (DemoCall JsString) DemoEvent) :=
  [.start (.saveDemoPayload referenceIv (js "first")),
    .start (.saveDemoPayload referenceIv (js "second")),
    .start (.unlockDemoVault recoveryPhrase),
    .resume 1,
    .start .lockVaultSession,
    .resume 0,
    .resume 2]

end Reference

theorem demo_vault_survives_saves :
    ∃ record started,
      (createDemoVault Reference.demoApp Reference.demoRandomness
        Reference.demoCreation).runAlone Reference.freshDemoPage =
          (.ok (Reference.recoveryPhrase, record), started) ∧
      SoundPage Reference.demoApp
        (offeredIn Reference.demoApp Reference.demoRandomness
          Reference.demoCreation Reference.recoveryPhrase Reference.demoRun)
        ((demoMachine Reference.demoApp).run (Pool.initial started)
          Reference.demoRun).state ∧
      ∀ call payload, (call, .done (.ok (.payload (some payload)))) ∈
        ((demoMachine Reference.demoApp).run (Pool.initial started)
          Reference.demoRun).tasks →
        SavedPayload Reference.demoApp
          (offeredIn Reference.demoApp Reference.demoRandomness
            Reference.demoCreation Reference.recoveryPhrase
            Reference.demoRun) payload := by
  have crypto := Reference.platform_lawful Reference.demoLedger
  have long : (Reference.material 7).val.length = 32 := List.length_replicate
  obtain ⟨record, started, created⟩ := @createDemoVault_resolves JsString
    Reference.demoApp Reference.demoRandomness Reference.demoCreation
    Reference.freshDemoPage crypto
    (Reference.platform_generatesMnemonics Reference.demoLedger) rfl
    (by decide +kernel) Reference.fresh_quiet rfl rfl
  have vault := createDemoVault_ok created
  have ideal := @Reference.vaultKeyPayload_sealedForOneKey
    (stringToBytes Reference.recoveryPhrase) (Reference.material 7)
    (vaultScope demoUserId) referenceProfile long
  have password := Except.ok.inj (vault.password.symm.trans
    (Reference.create_passwordEnvelope Reference.recoveryPhrase))
  have recovery := Except.ok.inj (vault.recovery.symm.trans
    Reference.create_recoveryEnvelope)
  refine ⟨record, started, created, ?_⟩
  apply demo_vault_survives crypto
    (Reference.platform_lowerCaseStable Reference.demoLedger)
    stringCodec_lawful (Reference.scopedLedger_idealProbe long) rfl rfl rfl
    created
  · rw [password]
    exact ideal
  · rw [recovery]
    exact ideal
  · intro call starts
    simp only [Reference.demoRun, List.mem_cons, List.not_mem_nil, or_false,
      PoolEvent.start.injEq, reduceCtorEq, false_or] at starts
    rcases starts with rfl | rfl | rfl | rfl
    · trivial
    · trivial
    · trivial
    · trivial

end VaultCore
