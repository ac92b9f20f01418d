import VaultCore.Admin.Domain
import VaultCore.Admin.ResolveConfig
import VaultCore.Validation.PasswordPolicy

/-!
# The types of a resolved configuration

The switch over the keys stores the value of an override itself, also where
the validator looked up what it converts to.  So an accepted configuration is
well typed exactly when no enumerated setting is overridden with an array, and
a password policy whose enforcement is an array enforces nothing.
-/

namespace VaultCore

namespace Admin

/-- A password that does not meet the policy is refused, unless the setting is
literally off or warn. -/
def EnforcesPolicy (toLowerCase : JsString → JsString)
    (policy : VaultAdminPasswordPolicy) : Prop :=
  ∀ password assessment,
    assessVaultPassword toLowerCase password policy = some assessment →
      assessment.meetsPolicy = false →
        (∃ result, validateVaultPasswordForSubmission toLowerCase password
            policy = some result ∧ result.valid = false) ∨
          policy.enforcement = .string (js "off") ∨
          policy.enforcement = .string (js "warn")

/-- No enumerated setting is overridden with an array. -/
def NoArrayEnums (overrides : Overrides) : Prop :=
  ∀ key, IsCastEnum key → ∀ value,
    overrides.get? key.name = some value → ¬ value.IsArray

/-! ## What the switch stores -/

section Stored

variable {config next : VaultAdminConfig} {value : JsValue}
  {key : VaultOverridableConfigKey}

theorem storeOverride_self (notWordCount : key ≠ .defaultRecoveryWordCount)
    (stored : storeOverride config value key = .ok next) :
    next.setting key = value := by
  cases key <;> first
    | exact absurd rfl notWordCount
    | (obtain rfl := Except.ok.inj stored
       rfl)

theorem storeOverride_wordCount
    (stored : storeOverride config value .defaultRecoveryWordCount =
      .ok next) :
    ∃ wordCount, next = { config with
      defaultRecoveryWordCount := wordCountValue wordCount } := by
  rw [storeOverride] at stored
  cases count : value.numberOf with
  | none =>
      rw [count] at stored
      cases stored
  | some number =>
      rw [count] at stored
      exact ⟨_, (Except.ok.inj stored).symm⟩

/-- An override leaves the other settings alone. -/
theorem storeOverride_other {other : VaultOverridableConfigKey}
    (different : other ≠ key)
    (stored : storeOverride config value key = .ok next) :
    next.setting other = config.setting other := by
  by_cases wordCount : key = .defaultRecoveryWordCount
  · subst wordCount
    obtain ⟨count, rfl⟩ := storeOverride_wordCount stored
    cases other <;> first
      | exact absurd rfl different
      | rfl
  · cases key <;> first
      | exact absurd rfl wordCount
      | (obtain rfl := Except.ok.inj stored
         cases other <;> first
           | exact absurd rfl different
           | rfl)

theorem storeOverride_frame
    (stored : storeOverride config value key = .ok next) :
    next.productName = config.productName ∧ next.profile = config.profile ∧
      next.features.recoveryPhrase12WordSupported =
        config.features.recoveryPhrase12WordSupported ∧
      next.features.recoveryPhrase24WordSupported =
        config.features.recoveryPhrase24WordSupported := by
  by_cases wordCount : key = .defaultRecoveryWordCount
  · subst wordCount
    obtain ⟨count, rfl⟩ := storeOverride_wordCount stored
    exact ⟨rfl, rfl, rfl, rfl⟩
  · cases key <;> first
      | exact absurd rfl wordCount
      | (obtain rfl := Except.ok.inj stored
         exact ⟨rfl, rfl, rfl, rfl⟩)

/-- `enabled` is stored twice. -/
theorem storeOverride_adminEnabled
    (stored : storeOverride config value key = .ok next) :
    next.features.adminEnabled = config.features.adminEnabled ∨
      key = .enabled ∧ next.features.adminEnabled = value := by
  by_cases wordCount : key = .defaultRecoveryWordCount
  · subst wordCount
    obtain ⟨count, rfl⟩ := storeOverride_wordCount stored
    exact .inl rfl
  · cases key <;> first
      | exact absurd rfl wordCount
      | (obtain rfl := Except.ok.inj stored
         first
           | exact .inl rfl
           | exact .inr ⟨rfl, rfl⟩)

end Stored

/-- One round of the loop. -/
structure Overridden (config next : VaultAdminConfig) (name : JsString)
    (value : JsValue) (key : VaultOverridableConfigKey) : Prop where
  name : key.name = name
  passed : validateVaultAdminOverride key.name value = .ok ()
  stored : storeOverride config value key = .ok next

theorem applyOverride_inv {config next : VaultAdminConfig}
    {entry : JsString × JsValue}
    (applied : applyOverride config entry = .ok next) :
    ∃ key, Overridden config next entry.1 entry.2 key := by
  obtain ⟨name, value⟩ := entry
  obtain ⟨done, passed, switched⟩ := Outcome.bind_eq_ok_iff.mp applied
  cases known : overridableConfigKey name with
  | none =>
      simp only [validateVaultAdminOverride, known] at passed
      cases passed
  | some key =>
      simp only [known] at switched
      have same := name_of_overridableConfigKey known
      rw [← same] at passed
      exact ⟨key, { name := same, passed := passed, stored := switched }⟩

namespace Overridden

variable {config next : VaultAdminConfig} {name : JsString} {value : JsValue}
  {key : VaultOverridableConfigKey}

theorem inDomain_iff (round : Overridden config next name value key) :
    InDomain key (next.setting key) ↔ ¬ (IsCastEnum key ∧ value.IsArray) := by
  by_cases wordCount : key = .defaultRecoveryWordCount
  · have stored := round.stored
    subst wordCount
    obtain ⟨count, rfl⟩ := storeOverride_wordCount stored
    apply iff_of_true
    · rw [InDomain, if_pos rfl]
      exact ⟨count, rfl⟩
    · intro both
      exact absurd both.1 (by decide)
  · rw [storeOverride_self wordCount round.stored]
    exact validated_inDomain_iff wordCount round.passed

theorem adminEnabled (round : Overridden config next name value key)
    (before : config.features.adminEnabled.IsBoolean) :
    next.features.adminEnabled.IsBoolean := by
  rcases storeOverride_adminEnabled round.stored with same | ⟨rfl, same⟩
  · rw [same]
    exact before
  · have domain := (validated_inDomain_iff (by decide) round.passed).mpr
      (fun both => absurd both.1 (by decide))
    obtain ⟨definition, found, admits⟩ := domain
    obtain rfl := Option.some.inj found
    rw [same]
    exact admits

end Overridden

/-! ## A run of overrides -/

theorem FixedWellTyped.step {config next : VaultAdminConfig}
    {name : JsString} {value : JsValue} {key : VaultOverridableConfigKey}
    (fixed : FixedWellTyped config)
    (round : Overridden config next name value key) : FixedWellTyped next := by
  obtain ⟨productName, profile, phrase12, phrase24⟩ :=
    storeOverride_frame round.stored
  exact
    { adminEnabled := round.adminEnabled fixed.adminEnabled
      phrase12 := by rw [phrase12]; exact fixed.phrase12
      phrase24 := by rw [phrase24]; exact fixed.phrase24
      productName := by rw [productName]; exact fixed.productName
      aadContextVault := by rw [profile]; exact fixed.aadContextVault
      aadContextEnvelope := by rw [profile]; exact fixed.aadContextEnvelope }

theorem applyEntries_fixed {config next : VaultAdminConfig}
    {entries : List (JsString × JsValue)} (fixed : FixedWellTyped config)
    (applied : applyEntries config entries = .ok next) :
    FixedWellTyped next := by
  induction entries generalizing config with
  | nil =>
      obtain rfl := Except.ok.inj applied
      exact fixed
  | cons entry entries ih =>
      obtain ⟨middle, first, rest⟩ := Outcome.bind_eq_ok_iff.mp applied
      obtain ⟨key, round⟩ := applyOverride_inv first
      exact ih (fixed.step round) rest

/-- After the loop a setting is in its domain when its override is no array
under a cast, and, where it has none, when it was before. -/
theorem applyEntries_inDomain_iff {config next : VaultAdminConfig}
    {entries : List (JsString × JsValue)} {key : VaultOverridableConfigKey}
    (unique : (entries.map Prod.fst).Nodup)
    (applied : applyEntries config entries = .ok next) :
    InDomain key (next.setting key) ↔
      (∀ value, (key.name, value) ∈ entries →
        ¬ (IsCastEnum key ∧ value.IsArray)) ∧
      (key.name ∉ entries.map Prod.fst →
        InDomain key (config.setting key)) := by
  induction entries generalizing config with
  | nil =>
      obtain rfl := Except.ok.inj applied
      simp
  | cons entry entries ih =>
      obtain ⟨name, value⟩ := entry
      obtain ⟨fresh, restUnique⟩ := List.nodup_cons.mp unique
      obtain ⟨middle, first, rest⟩ := Outcome.bind_eq_ok_iff.mp applied
      obtain ⟨stored, round⟩ := applyOverride_inv first
      have storedName : stored.name = name := round.name
      have later := ih restUnique rest
      by_cases same : key = stored
      · subst same
        have absent : key.name ∉ entries.map Prod.fst := by
          rw [storedName]
          exact fresh
        have onlyHere : ∀ other, (key.name, other) ∈ (name, value) :: entries ↔
            other = value := by
          intro other
          rw [List.mem_cons, Prod.mk.injEq, storedName]
          constructor
          · intro member
            rcases member with here | there
            · exact here.2
            · exact absurd (List.mem_map.mpr ⟨_, there, rfl⟩) fresh
          · intro equal
            exact .inl ⟨rfl, equal⟩
        have notLater : ∀ other, (key.name, other) ∉ entries := by
          intro other member
          exact absent (List.mem_map.mpr ⟨_, member, rfl⟩)
        have domain := round.inDomain_iff
        simp only [notLater, false_implies, implies_true, absent,
          not_false_eq_true, true_implies, true_and] at later
        rw [later, domain]
        constructor
        · intro notArray
          constructor
          · intro other member
            rw [(onlyHere other).mp member]
            exact notArray
          · intro missing
            apply absurd _ missing
            rw [List.map_cons, storedName]
            exact List.mem_cons_self
        · intro kept
          exact kept.1 value ((onlyHere value).mpr rfl)
      · have differentName : key.name ≠ name := by
          intro equal
          have found := overridableConfigKey_name key
          rw [equal, ← storedName, overridableConfigKey_name] at found
          exact same (Option.some.inj found).symm
        rw [storeOverride_other same round.stored] at later
        rw [later]
        simp only [List.mem_cons, Prod.mk.injEq, differentName, false_and,
          false_or, List.map_cons]

/-- The configuration an accepted list of overrides gives. -/
theorem applyVaultAdminOverrides_wellTyped_iff
    {config next : VaultAdminConfig} {overrides : Overrides}
    (typed : WellTyped config)
    (applied : applyVaultAdminOverrides config overrides = .ok next) :
    WellTyped next ↔ NoArrayEnums overrides := by
  have entries : applyEntries config overrides.entries = .ok next := by
    rw [applyVaultAdminOverrides] at applied
    split at applied
    · rename_i empty
      rw [List.length_eq_zero_iff.mp empty]
      exact applied
    · exact applied
  have domain : ∀ key, InDomain key (next.setting key) ↔
      ∀ value, overrides.get? key.name = some value →
        ¬ (IsCastEnum key ∧ value.IsArray) := by
    intro key
    rw [applyEntries_inDomain_iff overrides.nodup entries]
    simp only [typed.settings key, implies_true, and_true,
      OrderedMap.get?_eq_some_iff]
  constructor
  · intro typedNext key cast value present isArray
    exact (domain key).mp (typedNext.settings key) value present
      ⟨cast, isArray⟩
  · intro noArrays
    have fixed := applyEntries_fixed typed.toFixedWellTyped entries
    refine { fixed with settings := ?_ }
    intro key
    apply (domain key).mpr
    intro value present both
    exact noArrays key both.1 value present both.2

/-! ## The configuration before the overrides -/

section Base

variable {toLowerCase : JsString → JsString} {env : Env}
  {key : VaultOverridableConfigKey}

/-- The settings of a policy read from the environment. -/
structure ResolvedPolicy (policy : VaultAdminPasswordPolicy) : Prop where
  enforcement : InDomain .passwordEnforcement policy.enforcement
  minLength : InDomain .passwordMinLength policy.minLength
  requireUppercase : InDomain .passwordRequireUppercase policy.requireUppercase
  requireLowercase : InDomain .passwordRequireLowercase policy.requireLowercase
  requireNumber : InDomain .passwordRequireNumber policy.requireNumber
  requireSymbol : InDomain .passwordRequireSymbol policy.requireSymbol
  blockCommonPasswords :
    InDomain .passwordBlockCommonPasswords policy.blockCommonPasswords
  minScore : InDomain .passwordMinScore policy.minScore
  strengthPosition : InDomain .passwordStrengthPosition policy.strengthPosition

theorem resolvePasswordPolicy_resolved {policy : VaultAdminPasswordPolicy}
    (resolved : resolvePasswordPolicy toLowerCase env = .ok policy) :
    ResolvedPolicy policy := by
  obtain ⟨enforcement, readEnforcement, rest⟩ :=
    Outcome.bind_eq_ok_iff.mp resolved
  obtain ⟨minLength, readMinLength, rest⟩ := Outcome.bind_eq_ok_iff.mp rest
  obtain ⟨requireUppercase, -, rest⟩ := Outcome.bind_eq_ok_iff.mp rest
  obtain ⟨requireLowercase, -, rest⟩ := Outcome.bind_eq_ok_iff.mp rest
  obtain ⟨requireNumber, -, rest⟩ := Outcome.bind_eq_ok_iff.mp rest
  obtain ⟨requireSymbol, -, rest⟩ := Outcome.bind_eq_ok_iff.mp rest
  obtain ⟨blockCommonPasswords, -, rest⟩ := Outcome.bind_eq_ok_iff.mp rest
  obtain ⟨minScore, readMinScore, rest⟩ := Outcome.bind_eq_ok_iff.mp rest
  obtain ⟨strengthPosition, readPosition, rest⟩ :=
    Outcome.bind_eq_ok_iff.mp rest
  obtain rfl := Except.ok.inj rest
  exact
    { enforcement := inDomain_enum (by decide) rfl rfl rfl
        (readEnumEnv_mem (by simp) readEnforcement)
      minLength := inDomain_number rfl rfl rfl rfl
        (readIntEnv_between (by norm_num) readMinLength)
      requireUppercase := inDomain_boolean rfl _
      requireLowercase := inDomain_boolean rfl _
      requireNumber := inDomain_boolean rfl _
      requireSymbol := inDomain_boolean rfl _
      blockCommonPasswords := inDomain_boolean rfl _
      minScore := inDomain_number rfl rfl rfl rfl
        (readIntEnv_between (by norm_num) readMinScore)
      strengthPosition := inDomain_enum (by decide) rfl rfl rfl
        (readEnumEnv_mem (by simp) readPosition) }

structure ResolvedRateLimit (rateLimit : VaultAdminRateLimitConfig) :
    Prop where
  unlockMaxFailures : InDomain .unlockMaxFailures rateLimit.unlockMaxFailures
  unlockFailureWindowMinutes : InDomain .unlockFailureWindowMinutes
    rateLimit.unlockFailureWindowMinutes
  unlockLockoutMinutes :
    InDomain .unlockLockoutMinutes rateLimit.unlockLockoutMinutes
  apiMaxRequests : InDomain .apiMaxRequests rateLimit.apiMaxRequests
  apiWindowSeconds : InDomain .apiWindowSeconds rateLimit.apiWindowSeconds

theorem resolveRateLimit_resolved {rateLimit : VaultAdminRateLimitConfig}
    (resolved : resolveRateLimit env = .ok rateLimit) :
    ResolvedRateLimit rateLimit := by
  obtain ⟨maxFailures, readMaxFailures, rest⟩ :=
    Outcome.bind_eq_ok_iff.mp resolved
  obtain ⟨failureWindow, readFailureWindow, rest⟩ :=
    Outcome.bind_eq_ok_iff.mp rest
  obtain ⟨lockout, readLockout, rest⟩ := Outcome.bind_eq_ok_iff.mp rest
  obtain ⟨maxRequests, readMaxRequests, rest⟩ :=
    Outcome.bind_eq_ok_iff.mp rest
  obtain ⟨window, readWindow, rest⟩ := Outcome.bind_eq_ok_iff.mp rest
  obtain rfl := Except.ok.inj rest
  exact
    { unlockMaxFailures := inDomain_number rfl rfl rfl rfl
        (readIntEnv_between (by norm_num) readMaxFailures)
      unlockFailureWindowMinutes := inDomain_number rfl rfl rfl rfl
        (readIntEnv_between (by norm_num) readFailureWindow)
      unlockLockoutMinutes := inDomain_number rfl rfl rfl rfl
        (readIntEnv_between (by norm_num) readLockout)
      apiMaxRequests := inDomain_number rfl rfl rfl rfl
        (readIntEnv_between (by norm_num) readMaxRequests)
      apiWindowSeconds := inDomain_number rfl rfl rfl rfl
        (readIntEnv_between (by norm_num) readWindow) }

theorem readAutoLockMinutes_between {minutes : ℤ}
    (read : readAutoLockMinutes env = .ok minutes) :
    autoLockMinutesBounds.min ≤ minutes ∧
      (minutes : ℚ) ≤ autoLockMinutesBounds.max := by
  have fallback : autoLockMinutesBounds.min ≤ defaultAutoLockMinutes ∧
      (defaultAutoLockMinutes : ℚ) ≤ autoLockMinutesBounds.max := by
    norm_num [autoLockMinutesBounds, defaultAutoLockMinutes]
  simp only [readAutoLockMinutes] at read
  split at read
  · obtain rfl := Except.ok.inj read
    exact fallback
  · split at read
    · obtain rfl := Except.ok.inj read
      exact fallback
    · obtain ⟨integer, -, bounded⟩ := Outcome.bind_eq_ok_iff.mp read
      split at bounded
      · cases bounded
      · rename_i inside
        obtain rfl := Except.ok.inj bounded
        rw [not_or, not_lt, not_lt] at inside
        exact inside

end Base

/-- The inputs that are not overrides or environment are not empty. -/
structure NonEmptyInput (input : VaultAdminConfigInput) : Prop where
  productName : input.productName ≠ some []
  prfSaltPrefix : input.prfSaltPrefix ≠ some []
  profile : ∀ profile ∈ input.profile,
    profile.aadContextVault ≠ [] ∧ profile.aadContextEnvelope ≠ []

theorem getD_nonEmpty {given : Option JsString} {fallback : JsString}
    (nonEmpty : given ≠ some []) (fallbackNonEmpty : fallback ≠ []) :
    given.getD fallback ≠ [] := by
  cases given with
  | none => exact fallbackNonEmpty
  | some text =>
      intro empty
      exact nonEmpty (congrArg some empty)

theorem resolveProfile_nonEmpty {input : VaultAdminConfigInput}
    (nonEmpty : NonEmptyInput input) (env : Env) :
    (resolveProfile input env).aadContextVault ≠ [] ∧
      (resolveProfile input env).aadContextEnvelope ≠ [] := by
  cases given : input.profile with
  | some profile =>
      simp only [resolveProfile, given, Option.getD_some]
      exact nonEmpty.profile profile given
  | none =>
      simp only [resolveProfile, given, Option.getD_none]
      exact ⟨readStringEnv_nonEmpty (by decide),
        readStringEnv_nonEmpty (by decide)⟩

/-- What the environment resolves to is well typed. -/
theorem resolveBaseConfig_wellTyped {toLowerCase : JsString → JsString}
    {input : VaultAdminConfigInput} {config : VaultAdminConfig}
    (nonEmpty : NonEmptyInput input)
    (resolved : resolveBaseConfig toLowerCase input = .ok config) :
    WellTyped config := by
  obtain ⟨wordCount, -, rest⟩ := Outcome.bind_eq_ok_iff.mp resolved
  obtain ⟨enabled, -, rest⟩ := Outcome.bind_eq_ok_iff.mp rest
  obtain ⟨policy, readPolicy, rest⟩ := Outcome.bind_eq_ok_iff.mp rest
  obtain ⟨minutes, readMinutes, rest⟩ := Outcome.bind_eq_ok_iff.mp rest
  obtain ⟨rateLimit, readRateLimit, rest⟩ := Outcome.bind_eq_ok_iff.mp rest
  obtain ⟨features, readFeatures, rest⟩ := Outcome.bind_eq_ok_iff.mp rest
  obtain rfl := Except.ok.inj rest
  obtain ⟨adminEnabled, -, flags⟩ := Outcome.bind_eq_ok_iff.mp readFeatures
  obtain ⟨passkeyEnabled, -, flags⟩ := Outcome.bind_eq_ok_iff.mp flags
  obtain ⟨emergencyEnabled, -, flags⟩ := Outcome.bind_eq_ok_iff.mp flags
  obtain rfl := Except.ok.inj flags
  have policyTyped := resolvePasswordPolicy_resolved readPolicy
  have rateLimitTyped := resolveRateLimit_resolved readRateLimit
  have profileNonEmpty := resolveProfile_nonEmpty nonEmpty
    (input.env.getD fun _ => none)
  refine
    { adminEnabled := ⟨adminEnabled, rfl⟩
      phrase12 := ⟨true, rfl⟩
      phrase24 := ⟨true, rfl⟩
      productName := ⟨_, rfl, getD_nonEmpty nonEmpty.productName
        (readStringEnv_nonEmpty (by decide))⟩
      aadContextVault := profileNonEmpty.1
      aadContextEnvelope := profileNonEmpty.2
      settings := ?_ }
  intro key
  cases key with
  | enabled => exact inDomain_boolean rfl enabled
  | basePath => exact inDomain_string rfl (readStringEnv_nonEmpty (by decide))
  | prfSaltPrefix =>
      exact inDomain_string rfl (getD_nonEmpty nonEmpty.prfSaltPrefix
        (readStringEnv_nonEmpty (by decide)))
  | defaultRecoveryWordCount => exact ⟨wordCount, rfl⟩
  | autoLockMinutes =>
      exact inDomain_number rfl rfl rfl rfl
        (readAutoLockMinutes_between readMinutes)
  | passwordEnforcement => exact policyTyped.enforcement
  | passwordMinLength => exact policyTyped.minLength
  | passwordRequireUppercase => exact policyTyped.requireUppercase
  | passwordRequireLowercase => exact policyTyped.requireLowercase
  | passwordRequireNumber => exact policyTyped.requireNumber
  | passwordRequireSymbol => exact policyTyped.requireSymbol
  | passwordBlockCommonPasswords => exact policyTyped.blockCommonPasswords
  | passwordMinScore => exact policyTyped.minScore
  | passwordStrengthPosition => exact policyTyped.strengthPosition
  | passkeyPrfUnlockEnabled => exact inDomain_boolean rfl passkeyEnabled
  | emergencyModeEnabled => exact inDomain_boolean rfl emergencyEnabled
  | unlockMaxFailures => exact rateLimitTyped.unlockMaxFailures
  | unlockFailureWindowMinutes =>
      exact rateLimitTyped.unlockFailureWindowMinutes
  | unlockLockoutMinutes => exact rateLimitTyped.unlockLockoutMinutes
  | apiMaxRequests => exact rateLimitTyped.apiMaxRequests
  | apiWindowSeconds => exact rateLimitTyped.apiWindowSeconds

/-! ## Type safety -/

/-- Well typed, and the policy is enforced. -/
structure TypeSafe (toLowerCase : JsString → JsString)
    (config : VaultAdminConfig) : Prop where
  typed : WellTyped config
  enforced : EnforcesPolicy toLowerCase config.passwordPolicy

theorem WellTyped.enforces {config : VaultAdminConfig}
    (typed : WellTyped config) (toLowerCase : JsString → JsString) :
    EnforcesPolicy toLowerCase config.passwordPolicy := by
  obtain ⟨definition, found, admits⟩ := typed.settings .passwordEnforcement
  obtain rfl := Option.some.inj found
  obtain ⟨text, member, same⟩ := admits
  change config.passwordPolicy.enforcement = .string text at same
  intro password assessment assessed unmet
  simp only [Option.getD_some, List.mem_cons, List.not_mem_nil,
    or_false] at member
  obtain rfl | rfl | rfl := member
  · exact .inr (.inl same)
  · exact .inr (.inr same)
  · exact .inl ⟨_, validateVaultPasswordForSubmission_enforced same assessed,
      unmet⟩

theorem typeSafe_iff {toLowerCase : JsString → JsString}
    {config : VaultAdminConfig} :
    TypeSafe toLowerCase config ↔ WellTyped config := by
  constructor
  · intro safe
    exact safe.typed
  · intro typed
    exact { typed := typed, enforced := typed.enforces toLowerCase }

/-- An accepted configuration is type safe exactly when no enumerated setting
is overridden with an array, whether it is built from the environment or from a
configuration that was type safe. -/
theorem admin_config_type_safe_iff (toLowerCase : JsString → JsString) :
    (∀ input config, NonEmptyInput input →
      buildVaultAdminConfigFromEnv toLowerCase input = .ok config →
        (TypeSafe toLowerCase config ↔
          NoArrayEnums (input.adminOverrides.getD .empty))) ∧
      ∀ config overrides next, TypeSafe toLowerCase config →
        applyVaultAdminOverrides config overrides = .ok next →
          (TypeSafe toLowerCase next ↔ NoArrayEnums overrides) := by
  constructor
  · intro input config nonEmpty built
    obtain ⟨base, resolved, applied⟩ := Outcome.bind_eq_ok_iff.mp built
    rw [typeSafe_iff]
    exact applyVaultAdminOverrides_wellTyped_iff
      (resolveBaseConfig_wellTyped nonEmpty resolved) applied
  · intro config overrides next safe applied
    rw [typeSafe_iff]
    exact applyVaultAdminOverrides_wellTyped_iff safe.typed applied

/-- Lower case on ASCII, for the reference runs. -/
def asciiLowerCase (text : JsString) : JsString :=
  text.map fun unit => if isUpperUnit unit then unit + 32 else unit

/-- The configuration of an empty environment. -/
def defaultConfig : VaultAdminConfig :=
  { enabled := .boolean false
    basePath := .string (js "/admin/vault")
    productName := .string (js "Vault App")
    profile :=
      { aadContextVault := js "app:vault:v1"
        aadContextEnvelope := js "app:vault-envelope:v1" }
    prfSaltPrefix := .string (js "app-passkey-prf-v1:")
    defaultRecoveryWordCount := wordCountValue .twentyFour
    passwordPolicy :=
      { enforcement := .string (js "enforce")
        minLength := .number (.finite 12)
        requireUppercase := .boolean true
        requireLowercase := .boolean true
        requireNumber := .boolean true
        requireSymbol := .boolean true
        blockCommonPasswords := .boolean true
        minScore := .number (.finite 2)
        strengthPosition := .string (js "below") }
    session := { autoLockMinutes := .number (.finite 15) }
    rateLimit :=
      { unlockMaxFailures := .number (.finite 5)
        unlockFailureWindowMinutes := .number (.finite 15)
        unlockLockoutMinutes := .number (.finite 30)
        apiMaxRequests := .number (.finite 120)
        apiWindowSeconds := .number (.finite 60) }
    features :=
      { adminEnabled := .boolean false
        passkeyPrfUnlockEnabled := .boolean true
        emergencyModeEnabled := .boolean false
        recoveryPhrase12WordSupported := .boolean true
        recoveryPhrase24WordSupported := .boolean true } }

/-- `["enforce"]` -/
def enforceArray : JsValue := .array [.string (js "enforce")]

def arrayOverrides : Overrides :=
  OrderedMap.empty.set (js "passwordEnforcement") enforceArray

/-- What the array leaves of the default configuration. -/
def arrayConfig : VaultAdminConfig :=
  { defaultConfig with
    passwordPolicy :=
      { defaultConfig.passwordPolicy with enforcement := enforceArray } }

theorem arrayConfig_built :
    buildVaultAdminConfigFromEnv asciiLowerCase
      { adminOverrides := some arrayOverrides } = .ok arrayConfig := by
  rfl

theorem admin_config_type_safe_iff_array :
    TypeSafe asciiLowerCase arrayConfig ↔ NoArrayEnums arrayOverrides :=
  (admin_config_type_safe_iff asciiLowerCase).1
    { adminOverrides := some arrayOverrides } arrayConfig
    { productName := by decide
      prfSaltPrefix := by decide
      profile := by
        intro profile given
        cases given }
    arrayConfig_built

/-- The array passes as the setting it converts to, and switches the policy
off. -/
theorem array_enforcement_disables_policy :
    buildVaultAdminConfigFromEnv asciiLowerCase
        { adminOverrides := some arrayOverrides } = .ok arrayConfig ∧
      ¬ TypeSafe asciiLowerCase arrayConfig ∧
      (assessVaultPassword asciiLowerCase (js "a")
        arrayConfig.passwordPolicy).map VaultPasswordAssessment.meetsPolicy =
          some false ∧
      (validateVaultPasswordForSubmission asciiLowerCase (js "a")
        arrayConfig.passwordPolicy).map SubmissionValidation.valid =
          some true := by
  refine ⟨arrayConfig_built, ?_, by decide +kernel, by decide +kernel⟩
  intro safe
  obtain ⟨definition, found, admits⟩ :=
    safe.typed.settings .passwordEnforcement
  obtain rfl := Option.some.inj found
  obtain ⟨text, -, same⟩ := admits
  cases same

end Admin

end VaultCore
