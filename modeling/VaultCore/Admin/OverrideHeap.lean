import VaultCore.Admin.OverrideAction
import VaultCore.Async.Program
import VaultCore.Data.Arena

/-!
# Overrides over objects

A configuration is an object with references to others.  Applying overrides
copies the object and those it refers to, and every round of the loop writes
to the copy or creates objects of its own, so the objects that are passed in
stay as they are.  What is read from the result is what the overrides act to.
-/

namespace VaultCore

namespace Admin

/-- The object of a configuration; its nested objects are references. -/
structure ConfigObject where
  enabled : JsValue
  basePath : JsValue
  productName : JsValue
  profile : Nat
  prfSaltPrefix : JsValue
  defaultRecoveryWordCount : JsValue
  passwordPolicy : Nat
  session : Nat
  rateLimit : Nat
  features : Nat

/-- The objects of a configuration by reference, so that sharing and writes in
place can be seen. -/
structure ConfigHeap where
  configs : Arena ConfigObject
  profiles : Arena VaultCryptoProfile
  passwordPolicies : Arena VaultAdminPasswordPolicy
  sessions : Arena VaultAdminSessionConfig
  rateLimits : Arena VaultAdminRateLimitConfig
  featureFlags : Arena VaultAdminFeatureFlags

namespace ConfigHeap

/-- The configuration at a reference. -/
def read (heap : ConfigHeap) (config : Nat) : VaultAdminConfig :=
  let object := heap.configs.contents config
  { enabled := object.enabled
    basePath := object.basePath
    productName := object.productName
    profile := heap.profiles.contents object.profile
    prfSaltPrefix := object.prfSaltPrefix
    defaultRecoveryWordCount := object.defaultRecoveryWordCount
    passwordPolicy := heap.passwordPolicies.contents object.passwordPolicy
    session := heap.sessions.contents object.session
    rateLimit := heap.rateLimits.contents object.rateLimit
    features := heap.featureFlags.contents object.features }

/-- `{ ...config, profile: { ...config.profile }, ... }`; the copy is at the
size before. -/
def copy (heap : ConfigHeap) (config : Nat) : ConfigHeap :=
  let object := heap.configs.contents config
  { configs := heap.configs.create { object with
      profile := heap.profiles.size
      passwordPolicy := heap.passwordPolicies.size
      session := heap.sessions.size
      rateLimit := heap.rateLimits.size
      features := heap.featureFlags.size }
    profiles := heap.profiles.create (heap.profiles.contents object.profile)
    passwordPolicies := heap.passwordPolicies.create
      (heap.passwordPolicies.contents object.passwordPolicy)
    sessions := heap.sessions.create (heap.sessions.contents object.session)
    rateLimits := heap.rateLimits.create
      (heap.rateLimits.contents object.rateLimit)
    featureFlags := heap.featureFlags.create
      (heap.featureFlags.contents object.features) }

/-- An assignment to fields of the object itself. -/
def assign (next : Nat) (update : ConfigObject → ConfigObject)
    (heap : ConfigHeap) : ConfigHeap :=
  { heap with
    configs := heap.configs.write next
      (update (heap.configs.contents next)) }

/-- `next.passwordPolicy = { ...next.passwordPolicy, ... }` -/
def assignPasswordPolicy (next : Nat)
    (update : VaultAdminPasswordPolicy → VaultAdminPasswordPolicy)
    (heap : ConfigHeap) : ConfigHeap :=
  let object := heap.configs.contents next
  { heap with
    passwordPolicies := heap.passwordPolicies.create
      (update (heap.passwordPolicies.contents object.passwordPolicy))
    configs := heap.configs.write next
      { object with passwordPolicy := heap.passwordPolicies.size } }

/-- The spread of the session's settings into a new object that `next` refers
to. -/
def assignSession (next : Nat)
    (update : VaultAdminSessionConfig → VaultAdminSessionConfig)
    (heap : ConfigHeap) : ConfigHeap :=
  let object := heap.configs.contents next
  { heap with
    sessions := heap.sessions.create
      (update (heap.sessions.contents object.session))
    configs := heap.configs.write next
      { object with session := heap.sessions.size } }

/-- The spread of the limits into a new object that `next` refers to. -/
def assignRateLimit (next : Nat)
    (update : VaultAdminRateLimitConfig → VaultAdminRateLimitConfig)
    (heap : ConfigHeap) : ConfigHeap :=
  let object := heap.configs.contents next
  { heap with
    rateLimits := heap.rateLimits.create
      (update (heap.rateLimits.contents object.rateLimit))
    configs := heap.configs.write next
      { object with rateLimit := heap.rateLimits.size } }

/-- The spread of the flags into a new object that `next` refers to. -/
def assignFeatures (next : Nat)
    (update : VaultAdminFeatureFlags → VaultAdminFeatureFlags)
    (heap : ConfigHeap) : ConfigHeap :=
  let object := heap.configs.contents next
  { heap with
    featureFlags := heap.featureFlags.create
      (update (heap.featureFlags.contents object.features))
    configs := heap.configs.write next
      { object with features := heap.featureFlags.size } }

end ConfigHeap

/-- Code that works on the objects of a configuration. -/
abbrev ConfigCode (α : Type) := Sync ConfigHeap ConfigError α

open ConfigHeap in
/-- One case of the switch over the keys, on the object at `next`. -/
def storeOverrideIn (next : Nat) (rawValue : JsValue) :
    VaultOverridableConfigKey → ConfigCode Unit
  | .enabled => do
      Sync.modify (assign next fun object =>
        { object with enabled := rawValue })
      Sync.modify (assignFeatures next fun features =>
        { features with adminEnabled := rawValue })
  | .basePath =>
      Sync.modify (assign next fun object =>
        { object with basePath := rawValue })
  | .prfSaltPrefix =>
      Sync.modify (assign next fun object =>
        { object with prfSaltPrefix := rawValue })
  | .defaultRecoveryWordCount =>
      match rawValue.numberOf with
      | none => Sync.throw .typeError
      | some count =>
          Sync.modify (assign next fun object =>
            { object with
              defaultRecoveryWordCount := wordCountValue
                (if count = .finite 12 then .twelve else .twentyFour) })
  | .autoLockMinutes =>
      Sync.modify (assignSession next fun session =>
        { session with autoLockMinutes := rawValue })
  | .passwordEnforcement =>
      Sync.modify (assignPasswordPolicy next fun policy =>
        { policy with enforcement := rawValue })
  | .passwordMinLength =>
      Sync.modify (assignPasswordPolicy next fun policy =>
        { policy with minLength := rawValue })
  | .passwordRequireUppercase =>
      Sync.modify (assignPasswordPolicy next fun policy =>
        { policy with requireUppercase := rawValue })
  | .passwordRequireLowercase =>
      Sync.modify (assignPasswordPolicy next fun policy =>
        { policy with requireLowercase := rawValue })
  | .passwordRequireNumber =>
      Sync.modify (assignPasswordPolicy next fun policy =>
        { policy with requireNumber := rawValue })
  | .passwordRequireSymbol =>
      Sync.modify (assignPasswordPolicy next fun policy =>
        { policy with requireSymbol := rawValue })
  | .passwordBlockCommonPasswords =>
      Sync.modify (assignPasswordPolicy next fun policy =>
        { policy with blockCommonPasswords := rawValue })
  | .passwordMinScore =>
      Sync.modify (assignPasswordPolicy next fun policy =>
        { policy with minScore := rawValue })
  | .passwordStrengthPosition =>
      Sync.modify (assignPasswordPolicy next fun policy =>
        { policy with strengthPosition := rawValue })
  | .passkeyPrfUnlockEnabled =>
      Sync.modify (assignFeatures next fun features =>
        { features with passkeyPrfUnlockEnabled := rawValue })
  | .emergencyModeEnabled =>
      Sync.modify (assignFeatures next fun features =>
        { features with emergencyModeEnabled := rawValue })
  | .unlockMaxFailures =>
      Sync.modify (assignRateLimit next fun rateLimit =>
        { rateLimit with unlockMaxFailures := rawValue })
  | .unlockFailureWindowMinutes =>
      Sync.modify (assignRateLimit next fun rateLimit =>
        { rateLimit with unlockFailureWindowMinutes := rawValue })
  | .unlockLockoutMinutes =>
      Sync.modify (assignRateLimit next fun rateLimit =>
        { rateLimit with unlockLockoutMinutes := rawValue })
  | .apiMaxRequests =>
      Sync.modify (assignRateLimit next fun rateLimit =>
        { rateLimit with apiMaxRequests := rawValue })
  | .apiWindowSeconds =>
      Sync.modify (assignRateLimit next fun rateLimit =>
        { rateLimit with apiWindowSeconds := rawValue })

/-- One override, written into the object at `next`. -/
def applyOverrideIn (next : Nat) (entry : JsString × JsValue) :
    ConfigCode Unit := do
  Sync.ofExcept (validateVaultAdminOverride entry.1 entry.2)
  match overridableConfigKey entry.1 with
  | some key => storeOverrideIn next entry.2 key
  | none => pure ()

/-- The loop over the overrides. -/
def applyEntriesIn (next : Nat) :
    List (JsString × JsValue) → ConfigCode Unit
  | [] => pure ()
  | entry :: entries => do
      applyOverrideIn next entry
      applyEntriesIn next entries

/-- The configuration itself when there are no overrides. -/
def applyVaultAdminOverridesIn (config : Nat) (overrides : Overrides) :
    ConfigCode Nat :=
  if overrides.size = 0 then pure config
  else do
    let heap ← Sync.get
    let next := heap.configs.size
    Sync.modify fun heap => heap.copy config
    applyEntriesIn next overrides.entries
    return next

/-! ## What is kept -/

namespace ConfigHeap

/-- Every object that was there before is as it was. -/
structure Keeps (start heap : ConfigHeap) : Prop where
  configs : start.configs.Keeps heap.configs
  profiles : start.profiles.Keeps heap.profiles
  passwordPolicies : start.passwordPolicies.Keeps heap.passwordPolicies
  sessions : start.sessions.Keeps heap.sessions
  rateLimits : start.rateLimits.Keeps heap.rateLimits
  featureFlags : start.featureFlags.Keeps heap.featureFlags

/-- The object and those it refers to have been created. -/
structure Created (heap : ConfigHeap) (config : Nat) : Prop where
  object : config < heap.configs.size
  profile : (heap.configs.contents config).profile < heap.profiles.size
  passwordPolicy : (heap.configs.contents config).passwordPolicy <
    heap.passwordPolicies.size
  session : (heap.configs.contents config).session < heap.sessions.size
  rateLimit : (heap.configs.contents config).rateLimit < heap.rateLimits.size
  features : (heap.configs.contents config).features < heap.featureFlags.size

/-- The object at `next` has been created since, and the others are as they
were. -/
structure Builds (start heap : ConfigHeap) (next : Nat) : Prop where
  keeps : start.Keeps heap
  created : start.configs.size ≤ next

variable {start heap : ConfigHeap} {config next : Nat}

theorem Keeps.refl (heap : ConfigHeap) : Keeps heap heap :=
  ⟨.refl _, .refl _, .refl _, .refl _, .refl _, .refl _⟩

theorem Keeps.read (keeps : start.Keeps heap)
    (created : start.Created config) :
    heap.read config = start.read config := by
  have object := keeps.configs.contents config created.object
  simp only [ConfigHeap.read, object,
    keeps.profiles.contents _ created.profile,
    keeps.passwordPolicies.contents _ created.passwordPolicy,
    keeps.sessions.contents _ created.session,
    keeps.rateLimits.contents _ created.rateLimit,
    keeps.featureFlags.contents _ created.features]

theorem copy_builds (start : ConfigHeap) (config : Nat) :
    start.Builds (start.copy config) start.configs.size where
  keeps :=
    ⟨(Arena.Keeps.refl _).create, (Arena.Keeps.refl _).create,
      (Arena.Keeps.refl _).create, (Arena.Keeps.refl _).create,
      (Arena.Keeps.refl _).create, (Arena.Keeps.refl _).create⟩
  created := Nat.le_refl _

theorem copy_read (start : ConfigHeap) (config : Nat) :
    (start.copy config).read start.configs.size = start.read config := by
  simp only [read, copy, Arena.contents_create]

end ConfigHeap

/-- Code on the object at `next` that does to its configuration what the step
does, and keeps the objects that were there before. -/
def Refines (next : Nat) (code : ConfigCode Unit)
    (step : VaultAdminConfig → Except ConfigError VaultAdminConfig) : Prop :=
  ∀ start heap : ConfigHeap, start.Builds heap next →
    start.Builds (code heap).2 next ∧
      (code heap).1.map (fun _ => (code heap).2.read next) =
        step (heap.read next)

section Refines

open ConfigHeap

variable {next : Nat}

theorem refines_pure : Refines next (pure ()) fun config => .ok config :=
  fun _ _ builds => ⟨builds, rfl⟩

theorem refines_throw (error : ConfigError) :
    Refines next (Sync.throw error) fun _ => .error error :=
  fun _ _ builds => ⟨builds, rfl⟩

theorem Refines.bind {code rest : ConfigCode Unit}
    {step restStep : VaultAdminConfig → Except ConfigError VaultAdminConfig}
    (refines : Refines next code step)
    (refinesRest : Refines next rest restStep) :
    Refines next (code >>= fun _ => rest) fun config =>
      step config >>= restStep := by
  intro start heap builds
  obtain ⟨built, same⟩ := refines start heap builds
  simp only [Sync.bind_apply, ← same]
  cases ran : code heap with
  | mk outcome middle =>
      rw [ran] at built
      cases outcome with
      | error error => exact ⟨built, rfl⟩
      | ok done => exact refinesRest start middle built

theorem refines_assign {update : ConfigObject → ConfigObject}
    {step : VaultAdminConfig → VaultAdminConfig}
    (same : ∀ heap : ConfigHeap,
      (heap.assign next update).read next = step (heap.read next)) :
    Refines next (Sync.modify (assign next update)) fun config =>
      .ok (step config) := by
  intro start heap builds
  have keeps := builds.keeps
  refine ⟨⟨?_, builds.created⟩, congrArg Except.ok (same heap)⟩
  exact { keeps with configs := keeps.configs.write builds.created }

theorem refines_assignPasswordPolicy
    (update : VaultAdminPasswordPolicy → VaultAdminPasswordPolicy) :
    Refines next (Sync.modify (assignPasswordPolicy next update)) fun config =>
      .ok { config with passwordPolicy := update config.passwordPolicy } := by
  intro start heap builds
  have keeps := builds.keeps
  refine ⟨⟨?_, builds.created⟩, ?_⟩
  · exact
      { keeps with
        configs := keeps.configs.write builds.created
        passwordPolicies := keeps.passwordPolicies.create }
  · apply congrArg Except.ok
    simp only [Sync.modify_apply, ConfigHeap.read, assignPasswordPolicy,
      Arena.contents_write, Arena.contents_create]

theorem refines_assignSession
    (update : VaultAdminSessionConfig → VaultAdminSessionConfig) :
    Refines next (Sync.modify (assignSession next update)) fun config =>
      .ok { config with session := update config.session } := by
  intro start heap builds
  have keeps := builds.keeps
  refine ⟨⟨?_, builds.created⟩, ?_⟩
  · exact
      { keeps with
        configs := keeps.configs.write builds.created
        sessions := keeps.sessions.create }
  · apply congrArg Except.ok
    simp only [Sync.modify_apply, ConfigHeap.read, assignSession,
      Arena.contents_write, Arena.contents_create]

theorem refines_assignRateLimit
    (update : VaultAdminRateLimitConfig → VaultAdminRateLimitConfig) :
    Refines next (Sync.modify (assignRateLimit next update)) fun config =>
      .ok { config with rateLimit := update config.rateLimit } := by
  intro start heap builds
  have keeps := builds.keeps
  refine ⟨⟨?_, builds.created⟩, ?_⟩
  · exact
      { keeps with
        configs := keeps.configs.write builds.created
        rateLimits := keeps.rateLimits.create }
  · apply congrArg Except.ok
    simp only [Sync.modify_apply, ConfigHeap.read, assignRateLimit,
      Arena.contents_write, Arena.contents_create]

theorem refines_assignFeatures
    (update : VaultAdminFeatureFlags → VaultAdminFeatureFlags) :
    Refines next (Sync.modify (assignFeatures next update)) fun config =>
      .ok { config with features := update config.features } := by
  intro start heap builds
  have keeps := builds.keeps
  refine ⟨⟨?_, builds.created⟩, ?_⟩
  · exact
      { keeps with
        configs := keeps.configs.write builds.created
        featureFlags := keeps.featureFlags.create }
  · apply congrArg Except.ok
    simp only [Sync.modify_apply, ConfigHeap.read, assignFeatures,
      Arena.contents_write, Arena.contents_create]

theorem storeOverrideIn_refines (rawValue : JsValue)
    (key : VaultOverridableConfigKey) :
    Refines next (storeOverrideIn next rawValue key) fun config =>
      storeOverride config rawValue key := by
  have own {heap : ConfigHeap} {update : ConfigObject → ConfigObject} :
      (heap.assign next update).configs.contents next =
        update (heap.configs.contents next) := Arena.contents_write
  cases key with
  | enabled =>
      have first : Refines next
          (Sync.modify (assign next fun object =>
            { object with enabled := rawValue }))
          fun config => .ok { config with enabled := rawValue } :=
        refines_assign fun heap => by simp only [ConfigHeap.read, own]; rfl
      exact first.bind (refines_assignFeatures _)
  | basePath =>
      exact refines_assign fun heap => by simp only [ConfigHeap.read, own]; rfl
  | prfSaltPrefix =>
      exact refines_assign fun heap => by simp only [ConfigHeap.read, own]; rfl
  | defaultRecoveryWordCount =>
      simp only [storeOverrideIn, storeOverride]
      cases rawValue.numberOf with
      | none => exact refines_throw _
      | some count =>
          exact refines_assign fun heap => by
            simp only [ConfigHeap.read, own]; rfl
  | autoLockMinutes => exact refines_assignSession _
  | passwordEnforcement => exact refines_assignPasswordPolicy _
  | passwordMinLength => exact refines_assignPasswordPolicy _
  | passwordRequireUppercase => exact refines_assignPasswordPolicy _
  | passwordRequireLowercase => exact refines_assignPasswordPolicy _
  | passwordRequireNumber => exact refines_assignPasswordPolicy _
  | passwordRequireSymbol => exact refines_assignPasswordPolicy _
  | passwordBlockCommonPasswords => exact refines_assignPasswordPolicy _
  | passwordMinScore => exact refines_assignPasswordPolicy _
  | passwordStrengthPosition => exact refines_assignPasswordPolicy _
  | passkeyPrfUnlockEnabled => exact refines_assignFeatures _
  | emergencyModeEnabled => exact refines_assignFeatures _
  | unlockMaxFailures => exact refines_assignRateLimit _
  | unlockFailureWindowMinutes => exact refines_assignRateLimit _
  | unlockLockoutMinutes => exact refines_assignRateLimit _
  | apiMaxRequests => exact refines_assignRateLimit _
  | apiWindowSeconds => exact refines_assignRateLimit _

theorem applyOverrideIn_refines (entry : JsString × JsValue) :
    Refines next (applyOverrideIn next entry) fun config =>
      applyOverride config entry := by
  intro start heap builds
  simp only [applyOverrideIn, Sync.bind_apply, Sync.ofExcept_apply,
    applyOverride]
  cases validateVaultAdminOverride entry.1 entry.2 with
  | error error => exact ⟨builds, rfl⟩
  | ok passed =>
      simp only [Outcome.ok_bind]
      cases overridableConfigKey entry.1 with
      | none => exact refines_pure start heap builds
      | some key => exact storeOverrideIn_refines entry.2 key start heap builds

theorem applyEntriesIn_refines (entries : List (JsString × JsValue)) :
    Refines next (applyEntriesIn next entries) fun config =>
      applyEntries config entries := by
  induction entries with
  | nil => exact refines_pure
  | cons entry entries ih => exact (applyOverrideIn_refines entry).bind ih

/-- The result is what the overrides act to, and no object that was there
before has changed, whether the overrides are accepted or refused. -/
theorem applyVaultAdminOverridesIn_refines (start : ConfigHeap) (config : Nat)
    (overrides : Overrides) :
    let ran := applyVaultAdminOverridesIn config overrides start
    start.Keeps ran.2 ∧
      ran.1.map ran.2.read =
        applyVaultAdminOverrides (start.read config) overrides := by
  intro ran
  by_cases empty : overrides.size = 0
  · have same : ran = (.ok config, start) := by
      simp only [ran, applyVaultAdminOverridesIn, if_pos empty]
      rfl
    rw [same, applyVaultAdminOverrides, if_pos empty]
    exact ⟨.refl start, rfl⟩
  · have same : ran =
        (applyEntriesIn start.configs.size overrides.entries >>= fun _ =>
          pure start.configs.size) (start.copy config) := by
      simp only [ran, applyVaultAdminOverridesIn, if_neg empty]
      rfl
    obtain ⟨built, applied⟩ := applyEntriesIn_refines overrides.entries start
      (start.copy config) (copy_builds start config)
    simp only [copy_read] at applied
    rw [same, Sync.bind_apply, applyVaultAdminOverrides, if_neg empty,
      ← applied]
    cases ended : applyEntriesIn start.configs.size overrides.entries
        (start.copy config) with
    | mk outcome after =>
        rw [ended] at built
        cases outcome with
        | error error => exact ⟨built.keeps, rfl⟩
        | ok done => exact ⟨built.keeps, rfl⟩

end Refines

/-- A record of overrides is accepted when all it gives is valid, and then
sets the fields of its keys and no others.  Records act one after the other as
their merge, and those passed in stay as they were. -/
theorem admin_overrides_act (start : ConfigHeap) (reference : Nat)
    (created : start.Created reference) (overrides : Overrides) :
    let config := start.read reference
    let ran := applyVaultAdminOverridesIn reference overrides start
    ran.1.map ran.2.read = applyVaultAdminOverrides config overrides ∧
      start.Keeps ran.2 ∧ ran.2.read reference = config ∧
      ((∃ next, applyVaultAdminOverrides config overrides = .ok next) ↔
        ∀ name value, overrides.get? name = some value →
          ValidOverride name value) ∧
      ∀ next, applyVaultAdminOverrides config overrides = .ok next →
        Applies config overrides.get? next ∧
        (∀ value,
          overrides.get?
              VaultOverridableConfigKey.defaultRecoveryWordCount.name =
            some value →
          ∃ wordCount : RecoveryPhraseWordCount,
            value.numberOf = some (.finite wordCount.toNat) ∧
              next.defaultRecoveryWordCount = wordCountValue wordCount) ∧
        applyVaultAdminOverrides next overrides = .ok next ∧
        (∀ other : Overrides, other.get? = overrides.get? →
          applyVaultAdminOverrides config other = .ok next) ∧
        ∀ (later : Overrides) (last : VaultAdminConfig),
          applyVaultAdminOverrides next later = .ok last →
          applyVaultAdminOverrides config (overrides.merge later) =
              .ok last ∧
            ((∀ name ∈ overrides.keys, name ∉ later.keys) →
              ∃ middle, applyVaultAdminOverrides config later = .ok middle ∧
                applyVaultAdminOverrides middle overrides = .ok last) := by
  intro config ran
  obtain ⟨keeps, result⟩ :=
    applyVaultAdminOverridesIn_refines start reference overrides
  refine ⟨result, keeps, keeps.read created,
    applyVaultAdminOverrides_ok_iff, ?_⟩
  intro next applied
  have valid := applyVaultAdminOverrides_ok_iff.mp ⟨next, applied⟩
  have applies := applyVaultAdminOverrides_applies applied
  refine ⟨applies, ?_, applyVaultAdminOverrides_idempotent applied, ?_, ?_⟩
  · intro value given
    obtain ⟨wordCount, number⟩ := wordCount_of_valid (valid _ _ given)
    have setting := applies.settings .defaultRecoveryWordCount
    rw [given, Option.map_some, storedValue, number] at setting
    exact ⟨wordCount, number, setting⟩
  · intro other same
    apply applyVaultAdminOverrides_of_applies
    · rw [same]
      exact valid
    · rw [same]
      exact applies
  · intro later last appliedLater
    exact ⟨applyVaultAdminOverrides_merge applied appliedLater,
      fun apart => applyVaultAdminOverrides_disjoint apart applied appliedLater⟩

/-- The default configuration, with each nested object at zero. -/
def defaultHeap : ConfigHeap where
  configs :=
    { contents := fun _ =>
        { enabled := defaultConfig.enabled
          basePath := defaultConfig.basePath
          productName := defaultConfig.productName
          profile := 0
          prfSaltPrefix := defaultConfig.prfSaltPrefix
          defaultRecoveryWordCount := defaultConfig.defaultRecoveryWordCount
          passwordPolicy := 0
          session := 0
          rateLimit := 0
          features := 0 }
      size := 1 }
  profiles := { contents := fun _ => defaultConfig.profile, size := 1 }
  passwordPolicies :=
    { contents := fun _ => defaultConfig.passwordPolicy, size := 1 }
  sessions := { contents := fun _ => defaultConfig.session, size := 1 }
  rateLimits := { contents := fun _ => defaultConfig.rateLimit, size := 1 }
  featureFlags := { contents := fun _ => defaultConfig.features, size := 1 }

/-- `{ enabled: true, defaultRecoveryWordCount: "12" }` -/
def enabledOverrides : Overrides :=
  (OrderedMap.empty.set (js "enabled") (.boolean true)).set
    (js "defaultRecoveryWordCount") (.string (js "12"))

theorem admin_overrides_act_enabled :
    let ran := applyVaultAdminOverridesIn 0 enabledOverrides defaultHeap
    ran.2.read 0 = defaultConfig ∧
      ran.1.map ran.2.read = .ok
        { defaultConfig with
          enabled := .boolean true
          features := { defaultConfig.features with
            adminEnabled := .boolean true }
          defaultRecoveryWordCount := wordCountValue .twelve } := by
  have created : defaultHeap.Created 0 :=
    ⟨by decide, by decide, by decide, by decide, by decide, by decide⟩
  obtain ⟨result, -, kept, -⟩ :=
    admin_overrides_act defaultHeap 0 created enabledOverrides
  have twelve : (JsValue.string (js "12")).numberOf = some (.finite 12) := by
    decide +kernel
  refine ⟨kept, result.trans ?_⟩
  have built : applyVaultAdminOverrides defaultConfig enabledOverrides =
      storeOverride
        { defaultConfig with
          enabled := .boolean true
          features := { defaultConfig.features with
            adminEnabled := .boolean true } }
        (.string (js "12")) .defaultRecoveryWordCount := by rfl
  rw [storeOverride, twelve] at built
  exact built

end Admin

end VaultCore
