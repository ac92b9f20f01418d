import VaultCore.Admin.EnvSources

/-!
# Blank variables

The configuration does not change when the blank variables are left out, and
its entries name the environment when they were read there, unless a blank
first variable for the minutes until the lock hides the second one.
-/

namespace VaultCore

namespace Admin

/-- Both fail, or both give the same. -/
def SameOutcome {ε α : Type} : Except ε α → Except ε α → Prop
  | .ok value, .ok other => value = other
  | .error _, .error _ => True
  | _, _ => False

theorem sameOutcome_iff {ε α : Type} {first second : Except ε α} :
    SameOutcome first second ↔
      ∀ value, first = .ok value ↔ second = .ok value := by
  cases first with
  | ok value =>
      cases second with
      | ok other =>
          constructor
          · rintro rfl held
            exact Iff.rfl
          · intro same
            exact (Except.ok.inj ((same value).mp rfl)).symm
      | error error =>
          constructor
          · exact False.elim
          · intro same
            cases (same value).mp rfl
  | error error =>
      cases second with
      | ok other =>
          constructor
          · exact False.elim
          · intro same
            cases (same other).mpr rfl
      | error otherError => exact iff_of_true trivial (by simp)

/-- The overrides that the input brings, none if it has none. -/
def overridesOf (input : VaultAdminConfigInput) : Overrides :=
  input.adminOverrides.getD .empty

/-- The first variable for the minutes is blank, and the second is not. -/
def Shadowed (env : Env) : Prop :=
  (∃ blank, env nextPublicAutoLockMinutes = some blank ∧ trim blank = []) ∧
    hasEnvValue env vaultAutoLockMinutes = true

/-- An override decides the minutes, whatever the variables say. -/
def AutoLockOverridden (input : VaultAdminConfigInput) : Prop :=
  ((overridesOf input).get?
    VaultOverridableConfigKey.autoLockMinutes.name).isSome = true

/-- Everything but the minutes until the lock is accepted. -/
structure OtherwiseAccepted (toLowerCase : JsString → JsString)
    (input : VaultAdminConfigInput) (env : Env) : Prop where
  wordCount : ∃ wordCount, resolveRecoveryWordCount input env = .ok wordCount
  enabled : ∃ enabled,
    readBoolEnv toLowerCase env (js "VAULT_ADMIN_ENABLED") false = .ok enabled
  passwordPolicy : ∃ policy, resolvePasswordPolicy toLowerCase env = .ok policy
  rateLimit : ∃ rateLimit, resolveRateLimit env = .ok rateLimit
  features : ∃ features, resolveFeatures toLowerCase env = .ok features
  overrides : ∀ name value, (overridesOf input).get? name = some value →
    ValidOverride name value

/-- What is said of an input and an environment. -/
structure BlankMeansAbsent (toLowerCase : JsString → JsString)
    (input : VaultAdminConfigInput) (env : Env) : Prop where
  outcome : SameOutcome
    (buildVaultAdminConfigFromEnv toLowerCase { input with env := some env })
    (buildVaultAdminConfigFromEnv toLowerCase
      { input with env := some (withoutBlank env) })
  sources : NoArguments input → ∀ config,
    buildVaultAdminConfigFromEnv toLowerCase { input with env := some env } =
        .ok config →
      ∀ entry ∈ listVaultAdminConfigEntries config env (overridesOf input),
        entry.source = .env ↔
          (overridesOf input).get? entry.key.name = none ∧
            TakenFromEnv toLowerCase env entry

section Blank

variable {toLowerCase : JsString → JsString} {env other : Env}
  {input : VaultAdminConfigInput} {config : VaultAdminConfig}
  {minutes : ℤ}

theorem envValue_withoutBlank :
    envValue (withoutBlank env) = envValue env := by
  funext key
  rw [envValue, envValue, withoutBlank, Option.filter_filter]
  simp only [Bool.and_self]

/-! ## The minutes until the lock -/

/-- Without blank variables the second one is read. -/
theorem readAutoLockMinutes_shadowed (shadowed : Shadowed env) :
    ∃ raw, env vaultAutoLockMinutes = some raw ∧
      readAutoLockMinutes env = .ok defaultAutoLockMinutes ∧
      readAutoLockMinutes (withoutBlank env) = parseAutoLockMinutes raw := by
  obtain ⟨⟨blank, first, isBlank⟩, second⟩ := shadowed
  rw [hasEnvValue] at second
  cases held : env vaultAutoLockMinutes with
  | none =>
      rw [held] at second
      cases second
  | some raw =>
      rw [held] at second
      have present : ¬ trim raw = [] := by simpa using second
      have absent : withoutBlank env nextPublicAutoLockMinutes = none := by
        rw [withoutBlank, first, Option.filter_some, isBlank]
        rfl
      have kept : withoutBlank env vaultAutoLockMinutes = some raw := by
        rw [withoutBlank, held, Option.filter_some, if_pos second]
      refine ⟨raw, rfl, ?_, ?_⟩
      · rw [readAutoLockMinutes_eq, readAutoLockSourced, autoLockVariable,
          first]
        simp only [if_pos isBlank]
        rfl
      · rw [readAutoLockMinutes_eq, readAutoLockSourced, autoLockVariable,
          absent, kept]
        simp only [Option.map_some, if_neg present]
        cases parseAutoLockMinutes raw <;> rfl

theorem readAutoLockMinutes_unshadowed (unshadowed : ¬ Shadowed env) :
    readAutoLockMinutes (withoutBlank env) = readAutoLockMinutes env := by
  rw [readAutoLockMinutes_eq, readAutoLockMinutes_eq, readAutoLockSourced,
    readAutoLockSourced, autoLockVariable, autoLockVariable, withoutBlank,
    withoutBlank]
  cases first : env nextPublicAutoLockMinutes with
  | some raw =>
      by_cases blank : trim raw = []
      · have notSecond : hasEnvValue env vaultAutoLockMinutes = false := by
          by_contra held
          exact unshadowed ⟨⟨raw, first, blank⟩, by simpa using held⟩
        have absent : (env vaultAutoLockMinutes).filter
            (fun raw => trim raw != []) = none := by
          rw [hasEnvValue_eq, Option.isSome_eq_false_iff,
            Option.isNone_iff_eq_none] at notSecond
          exact notSecond
        simp only [Option.filter_some, blank, bne_self_eq_false,
          Bool.false_eq_true, if_false, absent, Option.map_none, if_true]
      · simp [Option.filter_some, blank]
  | none =>
      cases second : env vaultAutoLockMinutes with
      | none => rfl
      | some raw =>
          by_cases blank : trim raw = []
          · simp [Option.filter_some, Option.filter_none, blank]
          · simp [Option.filter_some, Option.filter_none, blank]

/-- The texts that are read as an integer. -/
theorem readInteger_ok_iff {raw notAnInteger : JsString} {value : ℤ} :
    readInteger raw notAnInteger = .ok value ↔
      numberOfText raw = .finite value := by
  rw [readInteger]
  cases numberOfText raw with
  | nan => simp
  | infinite => simp
  | finite number =>
      by_cases integer : number.isInt = true
      · have whole := Rat.eq_num_of_isInt integer
        simp only [if_pos integer, Outcome.pure_eq_ok, Except.ok.injEq,
          JsNumber.finite.injEq]
        constructor
        · rintro rfl
          exact whole
        · intro same
          rw [same, Rat.num_intCast]
      · simp only [if_neg integer, Outcome.throw_eq_error,
          JsNumber.finite.injEq]
        constructor
        · intro read
          cases read
        · intro same
          rw [same] at integer
          exact absurd (by simp [Rat.isInt]) integer

/-- The texts that are minutes. -/
theorem parseAutoLockMinutes_ok_iff {raw : JsString} :
    parseAutoLockMinutes raw = .ok minutes ↔
      numberOfText raw = .finite minutes ∧ 1 ≤ minutes ∧ minutes ≤ 1440 := by
  have inside (value : ℤ) :
      (¬ ((value : ℚ) < autoLockMinutesBounds.min ∨
        autoLockMinutesBounds.max < (value : ℚ))) ↔
        1 ≤ value ∧ value ≤ 1440 := by
    rw [not_or, not_lt, not_lt]
    norm_num [autoLockMinutesBounds]
    norm_cast
  rw [parseAutoLockMinutes, Outcome.bind_eq_ok_iff, ← inside]
  constructor
  · rintro ⟨value, read, bounded⟩
    split at bounded
    · cases bounded
    · rename_i within
      obtain rfl := Except.ok.inj bounded
      exact ⟨readInteger_ok_iff.mp read, within⟩
  · rintro ⟨number, within⟩
    exact ⟨minutes, readInteger_ok_iff.mpr number, if_neg within⟩

/-! ## Another environment with the same values -/

section Same

variable (same : envValue other = envValue env)

include same

theorem readStringEnv_congr (key defaultValue : JsString) :
    readStringEnv other key defaultValue =
      readStringEnv env key defaultValue := by
  rw [readStringEnv, readStringEnv, same]

theorem readBoolEnv_congr (key : JsString) (defaultValue : Bool) :
    readBoolEnv toLowerCase other key defaultValue =
      readBoolEnv toLowerCase env key defaultValue := by
  rw [readBoolEnv, readBoolEnv, same]

theorem resolveRecoveryWordCount_congr :
    resolveRecoveryWordCount input other =
      resolveRecoveryWordCount input env := by
  rw [resolveRecoveryWordCount, resolveRecoveryWordCount,
    readRecoveryWordCount, readRecoveryWordCount, same]

theorem resolveProfile_congr :
    resolveProfile input other = resolveProfile input env := by
  simp only [resolveProfile, readStringEnv_congr same]

theorem resolvePasswordPolicy_congr :
    resolvePasswordPolicy toLowerCase other =
      resolvePasswordPolicy toLowerCase env := by
  simp only [resolvePasswordPolicy, readEnumEnv, readIntEnv,
    readBoolEnv_congr same, same]

theorem resolveRateLimit_congr :
    resolveRateLimit other = resolveRateLimit env := by
  simp only [resolveRateLimit, readIntEnv, same]

theorem resolveFeatures_congr :
    resolveFeatures toLowerCase other = resolveFeatures toLowerCase env := by
  simp only [resolveFeatures, readBoolEnv_congr same]

theorem OtherwiseAccepted.congr
    (accepted : OtherwiseAccepted toLowerCase input env) :
    OtherwiseAccepted toLowerCase input other where
  wordCount := by
    rw [resolveRecoveryWordCount_congr same]
    exact accepted.wordCount
  enabled := by
    rw [readBoolEnv_congr same]
    exact accepted.enabled
  passwordPolicy := by
    rw [resolvePasswordPolicy_congr same]
    exact accepted.passwordPolicy
  rateLimit := by
    rw [resolveRateLimit_congr same]
    exact accepted.rateLimit
  features := by
    rw [resolveFeatures_congr same]
    exact accepted.features
  overrides := accepted.overrides

end Same

/-! ## Building -/

/-- The configuration with other minutes and nothing else changed. -/
def VaultAdminConfig.withMinutes (config : VaultAdminConfig) (minutes : ℤ) :
    VaultAdminConfig :=
  { config with session := { autoLockMinutes := integerValue minutes } }

/-- The base configuration, when its readers succeed. -/
theorem OtherwiseAccepted.resolves
    (accepted : OtherwiseAccepted toLowerCase input env) :
    ∃ base : VaultAdminConfig, ∀ {other : Env} {minutes : ℤ},
      envValue other = envValue env →
      readAutoLockMinutes other = .ok minutes →
        resolveBaseConfig toLowerCase { input with env := some other } =
          .ok (base.withMinutes minutes) := by
  obtain ⟨wordCount, readWordCount⟩ := accepted.wordCount
  obtain ⟨enabled, readEnabled⟩ := accepted.enabled
  obtain ⟨policy, readPolicy⟩ := accepted.passwordPolicy
  obtain ⟨rateLimit, readRateLimit⟩ := accepted.rateLimit
  obtain ⟨features, readFeatures⟩ := accepted.features
  let base : VaultAdminConfig :=
    { enabled := .boolean enabled
      basePath := .string
        (readStringEnv env (js "VAULT_ADMIN_PATH") (js "/admin/vault"))
      productName := .string (input.productName.getD
        (readStringEnv env (js "APP_NAME") (js "Vault App")))
      profile := resolveProfile input env
      prfSaltPrefix := .string (input.prfSaltPrefix.getD
        (readStringEnv env (js "VAULT_PRF_SALT_PREFIX")
          (js "app-passkey-prf-v1:")))
      defaultRecoveryWordCount := wordCountValue wordCount
      passwordPolicy := policy
      session := { autoLockMinutes := integerValue 0 }
      rateLimit := rateLimit
      features := features }
  refine ⟨base, ?_⟩
  intro other minutes same readMinutes
  have countRead : resolveRecoveryWordCount
      { input with env := some other } other = .ok wordCount := by
    rw [resolveRecoveryWordCount_congr same]
    exact readWordCount
  have profile : resolveProfile { input with env := some other } other =
      resolveProfile input env := by
    rw [resolveProfile_congr same]
    rfl
  simp only [resolveBaseConfig, Option.getD_some, countRead,
    readBoolEnv_congr same, readEnabled, resolvePasswordPolicy_congr same,
    readPolicy, readMinutes, resolveRateLimit_congr same, readRateLimit,
    resolveFeatures_congr same, readFeatures, readStringEnv_congr same,
    profile, Outcome.ok_bind]
  rfl

/-- The configuration is built when all is accepted, and holds the minutes
that were read unless they are overridden. -/
theorem OtherwiseAccepted.builds
    (accepted : OtherwiseAccepted toLowerCase input env) :
    ∃ base : VaultAdminConfig, ∀ {other : Env} {minutes : ℤ},
      envValue other = envValue env →
      readAutoLockMinutes other = .ok minutes →
        resolveBaseConfig toLowerCase { input with env := some other } =
            .ok (base.withMinutes minutes) ∧
          ∃ config,
            buildVaultAdminConfigFromEnv toLowerCase
                { input with env := some other } = .ok config ∧
              Applies (base.withMinutes minutes) (overridesOf input).get?
                config := by
  obtain ⟨base, resolves⟩ := accepted.resolves
  refine ⟨base, fun same readMinutes => ?_⟩
  have resolved := resolves same readMinutes
  refine ⟨resolved, ?_⟩
  obtain ⟨config, applied⟩ :=
    applyVaultAdminOverrides_ok_iff.mpr accepted.overrides
  refine ⟨config, ?_, applyVaultAdminOverrides_applies applied⟩
  rw [buildVaultAdminConfigFromEnv, resolved, Outcome.ok_bind]
  exact applied

theorem accepted_of_built
    (built : buildVaultAdminConfigFromEnv toLowerCase
      { input with env := some env } = .ok config) :
    OtherwiseAccepted toLowerCase input env ∧
      ∃ minutes, readAutoLockMinutes env = .ok minutes := by
  obtain ⟨base, resolved, applied⟩ := Outcome.bind_eq_ok_iff.mp built
  obtain ⟨wordCount, readWordCount, rest⟩ :=
    Outcome.bind_eq_ok_iff.mp resolved
  obtain ⟨enabled, readEnabled, rest⟩ := Outcome.bind_eq_ok_iff.mp rest
  obtain ⟨policy, readPolicy, rest⟩ := Outcome.bind_eq_ok_iff.mp rest
  obtain ⟨minutes, readMinutes, rest⟩ := Outcome.bind_eq_ok_iff.mp rest
  obtain ⟨rateLimit, readRateLimit, rest⟩ := Outcome.bind_eq_ok_iff.mp rest
  obtain ⟨features, readFeatures, rest⟩ := Outcome.bind_eq_ok_iff.mp rest
  refine ⟨?_, minutes, readMinutes⟩
  exact
    { wordCount := ⟨wordCount, readWordCount⟩
      enabled := ⟨enabled, readEnabled⟩
      passwordPolicy := ⟨policy, readPolicy⟩
      rateLimit := ⟨rateLimit, readRateLimit⟩
      features := ⟨features, readFeatures⟩
      overrides := applyVaultAdminOverrides_ok_iff.mp ⟨config, applied⟩ }

theorem setting_withMinutes (config : VaultAdminConfig) {minutes : ℤ}
    {key : VaultOverridableConfigKey} (different : key ≠ .autoLockMinutes) :
    (config.withMinutes minutes).setting key = config.setting key := by
  cases key <;> first
    | exact absurd rfl different
    | rfl

/-- Different minutes show in the result unless they are overridden. -/
theorem applies_withMinutes_iff {base config otherConfig : VaultAdminConfig}
    {first second : ℤ}
    (applies : Applies (base.withMinutes first) (overridesOf input).get?
      config)
    (appliesOther : Applies (base.withMinutes second) (overridesOf input).get?
      otherConfig) :
    config = otherConfig ↔ AutoLockOverridden input ∨ first = second := by
  constructor
  · intro equal
    by_cases overridden : AutoLockOverridden input
    · exact .inl overridden
    · right
      rw [AutoLockOverridden, Bool.not_eq_true, Option.isSome_eq_false_iff,
        Option.isNone_iff_eq_none] at overridden
      have setting := applies.settings .autoLockMinutes
      rw [equal, appliesOther.settings, overridden] at setting
      have value : integerValue second = integerValue first := setting
      simpa [integerValue] using value.symm
  · rintro (overridden | rfl)
    · obtain ⟨value, given⟩ := Option.isSome_iff_exists.mp overridden
      have appliesFirst : Applies (base.withMinutes second)
          (overridesOf input).get? config := by
        refine
          { applies with
            settings := ?_ }
        intro key
        by_cases minutes : key = .autoLockMinutes
        · rw [applies.settings, minutes, given]
          rfl
        · rw [applies.settings, setting_withMinutes _ minutes,
            setting_withMinutes _ minutes]
      exact appliesFirst.unique appliesOther
    · exact applies.unique appliesOther

/-! ## The sources of the entries -/

theorem vaultConfigKeyDisplay_key (shown : VaultConfigKey) :
    (vaultConfigKeyDisplay shown).key = shown := by
  cases shown with
  | overridable key => cases key <;> rfl
  | aadContextVault => rfl
  | aadContextEnvelope => rfl
  | recommendedKdfVersion => rfl
  | encryptionAlgorithm => rfl

theorem envVar_autoLock_iff (shown : VaultConfigKey) :
    (vaultConfigKeyDisplay shown).envVar = some nextPublicAutoLockMinutes ↔
      shown = .overridable .autoLockMinutes := by
  cases shown with
  | overridable key => cases key <;> decide +kernel
  | aadContextVault => decide
  | aadContextEnvelope => decide
  | recommendedKdfVersion => decide
  | encryptionAlgorithm => decide

theorem sourceFor_env_iff {overrides : Overrides} (shown : VaultConfigKey) :
    sourceFor env overrides shown (vaultConfigKeyDisplay shown).envVar =
        .env ↔
      overrides.get? shown.name = none ∧
        (shown = .overridable .autoLockMinutes ∧
            (hasEnvValue env nextPublicAutoLockMinutes ||
              hasEnvValue env vaultAutoLockMinutes) = true ∨
          (vaultConfigKeyDisplay shown).envVar.any (hasEnvValue env) =
            true) := by
  simp only [sourceFor, envVar_autoLock_iff]
  cases given : overrides.get? shown.name with
  | some value => simp
  | none =>
      simp only [Option.isSome_none, Bool.false_eq_true, if_false, true_and]
      split
      · rename_i first
        simp [first]
      · rename_i first
        split
        · rename_i second
          simp [second]
        · rename_i second
          simp only [first, second]
          split <;> simp

/-- The variable that was read is the one reported, unless it is hidden. -/
theorem takesEnv_iff {shown : VaultConfigKey}
    (visible : shown = .overridable .autoLockMinutes → ¬ Shadowed env) :
    takesEnv env shown = true ↔
      (shown = .overridable .autoLockMinutes ∧
          (hasEnvValue env nextPublicAutoLockMinutes ||
            hasEnvValue env vaultAutoLockMinutes) = true ∨
        (vaultConfigKeyDisplay shown).envVar.any (hasEnvValue env) = true) := by
  by_cases autoLock : shown = .overridable .autoLockMinutes
  · subst autoLock
    have own : (vaultConfigKeyDisplay
        (.overridable .autoLockMinutes)).envVar.any (hasEnvValue env) =
          hasEnvValue env nextPublicAutoLockMinutes := rfl
    rw [own, takesEnv, autoLockVariable]
    cases first : env nextPublicAutoLockMinutes with
    | none =>
        have notFirst : hasEnvValue env nextPublicAutoLockMinutes = false := by
          rw [hasEnvValue, first]
        rw [notFirst, hasEnvValue]
        cases env vaultAutoLockMinutes <;> simp
    | some raw =>
        have held : hasEnvValue env nextPublicAutoLockMinutes =
            (trim raw != []) := by
          rw [hasEnvValue, first]
        rw [held, Option.any_some]
        by_cases blank : trim raw = []
        · have notSecond : hasEnvValue env vaultAutoLockMinutes = false := by
            rw [← Bool.not_eq_true]
            intro second
            exact visible rfl ⟨⟨raw, first, blank⟩, second⟩
          simp [blank, notSecond]
        · simp [blank]
  · have same : takesEnv env shown =
        (vaultConfigKeyDisplay shown).envVar.any (hasEnvValue env) := by
      cases shown with
      | overridable key =>
          cases key <;> first
            | exact absurd rfl autoLock
            | rfl
      | aadContextVault => rfl
      | aadContextEnvelope => rfl
      | recommendedKdfVersion => rfl
      | encryptionAlgorithm => rfl
    rw [same]
    simp [autoLock]

/-- What is not overridden is shown as it was resolved. -/
theorem Applies.valueForKey {base next : VaultAdminConfig}
    {overrides : Overrides} {shown : VaultConfigKey}
    (applies : Applies base overrides.get? next)
    (kept : overrides.get? shown.name = none) :
    Admin.valueForKey next shown = Admin.valueForKey base shown := by
  cases shown with
  | aadContextVault =>
      simp only [Admin.valueForKey, applies.profile]
  | aadContextEnvelope =>
      simp only [Admin.valueForKey, applies.profile]
  | recommendedKdfVersion => rfl
  | encryptionAlgorithm => rfl
  | overridable key =>
      have setting := applies.settings key
      rw [show overrides.get? key.name = none from kept] at setting
      have same : next.setting key = base.setting key := setting
      cases key with
      | emergencyModeEnabled =>
          have flag : next.features.emergencyModeEnabled =
              base.features.emergencyModeEnabled := same
          simp only [Admin.valueForKey, flag]
      | _ => exact same

theorem taken_iff {reads : Except ConfigError (Sourced JsValue)}
    {value : JsValue} {taken : Bool} (gives : Gives reads value taken) :
    (∃ reading, reads = .ok reading ∧ reading.value = value ∧
      reading.envVar.isSome = true) ↔ taken = true := by
  obtain ⟨reading, read, same, held⟩ := gives
  constructor
  · rintro ⟨other, readOther, -, present⟩
    obtain rfl := Except.ok.inj (read.symm.trans readOther)
    exact held.symm.trans present
  · intro present
    exact ⟨reading, read, same, held.trans present⟩

/-- The sources are right unless the first variable hides the second. -/
theorem sources_iff (noArguments : NoArguments input)
    (built : buildVaultAdminConfigFromEnv toLowerCase
      { input with env := some env } = .ok config) :
    (∀ entry ∈ listVaultAdminConfigEntries config env (overridesOf input),
      entry.source = .env ↔
        (overridesOf input).get? entry.key.name = none ∧
          TakenFromEnv toLowerCase env entry) ↔
      ¬ Shadowed env ∨ AutoLockOverridden input := by
  obtain ⟨accepted, minutes, readMinutes⟩ := accepted_of_built built
  obtain ⟨base, builds⟩ := accepted.builds
  obtain ⟨resolved, again, builtAgain, applies⟩ := builds rfl readMinutes
  obtain rfl := Except.ok.inj (built.symm.trans builtAgain)
  have entries : (∀ entry ∈
      listVaultAdminConfigEntries config env (overridesOf input),
        entry.source = .env ↔
          (overridesOf input).get? entry.key.name = none ∧
            TakenFromEnv toLowerCase env entry) ↔
      ∀ shown : VaultConfigKey, (overridesOf input).get? shown.name = none →
        ((shown = .overridable .autoLockMinutes ∧
            (hasEnvValue env nextPublicAutoLockMinutes ||
              hasEnvValue env vaultAutoLockMinutes) = true ∨
          (vaultConfigKeyDisplay shown).envVar.any (hasEnvValue env) = true) ↔
        takesEnv env shown = true) := by
    simp only [listVaultAdminConfigEntries, List.forall_mem_map, configEntry,
      sourceFor_env_iff, TakenFromEnv, vaultConfigKeyDisplay_key]
    have taken (shown : VaultConfigKey)
        (kept : (overridesOf input).get? shown.name = none) :=
      taken_iff ((applies.valueForKey kept) ▸
        resolveBaseConfig_gives noArguments resolved shown)
    constructor
    · intro right shown kept
      have here := right shown (mem_vaultConfigKeys shown)
      rw [taken shown kept] at here
      simpa only [kept, true_and] using here
    · intro right shown _
      rw [and_congr_right_iff]
      intro kept
      rw [taken shown kept]
      exact right shown kept
  rw [entries]
  constructor
  · intro right
    by_cases overridden : AutoLockOverridden input
    · exact .inr overridden
    · left
      intro shadowed
      have kept : (overridesOf input).get?
          VaultOverridableConfigKey.autoLockMinutes.name = none := by
        simpa [AutoLockOverridden] using overridden
      have reported := (right (.overridable .autoLockMinutes) kept).mp
        (.inl ⟨rfl, by rw [shadowed.2, Bool.or_true]⟩)
      obtain ⟨⟨blank, first, isBlank⟩, -⟩ := shadowed
      rw [takesEnv, autoLockVariable, first] at reported
      simp [isBlank] at reported
  · intro visible shown kept
    apply (takesEnv_iff ?_).symm
    rintro rfl
    rcases visible with unshadowed | overridden
    · exact unshadowed
    · rw [AutoLockOverridden] at overridden
      have absent : (overridesOf input).get?
          VaultOverridableConfigKey.autoLockMinutes.name = none := kept
      rw [absent] at overridden
      cases overridden

/-! ## Exactly when blank means absent -/

theorem built_of_same (same : envValue other = envValue env)
    (sameMinutes : readAutoLockMinutes other = readAutoLockMinutes env)
    (built : buildVaultAdminConfigFromEnv toLowerCase
      { input with env := some env } = .ok config) :
    buildVaultAdminConfigFromEnv toLowerCase
      { input with env := some other } = .ok config := by
  obtain ⟨accepted, minutes, readMinutes⟩ := accepted_of_built built
  obtain ⟨base, builds⟩ := accepted.builds
  obtain ⟨-, first, builtFirst, applies⟩ := builds rfl readMinutes
  obtain ⟨-, second, builtSecond, appliesSecond⟩ :=
    builds same (sameMinutes.trans readMinutes)
  obtain rfl := Except.ok.inj (built.symm.trans builtFirst)
  rw [builtSecond, appliesSecond.unique applies]

theorem blankMeansAbsent_of_unshadowed (unshadowed : ¬ Shadowed env) :
    BlankMeansAbsent toLowerCase input env where
  outcome := by
    have sameMinutes := readAutoLockMinutes_unshadowed unshadowed
    refine sameOutcome_iff.mpr fun config => ⟨?_, ?_⟩
    · exact built_of_same envValue_withoutBlank sameMinutes
    · exact built_of_same envValue_withoutBlank.symm sameMinutes.symm
  sources := fun noArguments config built =>
    (sources_iff noArguments built).mpr (.inl unshadowed)

theorem blankMeansAbsent_of_refused
    (refused : ¬ OtherwiseAccepted toLowerCase input env) :
    BlankMeansAbsent toLowerCase input env where
  outcome := by
    refine sameOutcome_iff.mpr fun config => ⟨?_, ?_⟩
    · intro built
      exact absurd (accepted_of_built built).1 refused
    · intro built
      have accepted := (accepted_of_built built).1
      exact absurd (accepted.congr envValue_withoutBlank.symm) refused
  sources := fun _ config built => absurd (accepted_of_built built).1 refused

/-- Where the second variable is hidden, it has to be minutes that are
overridden, or the default. -/
theorem blankMeansAbsent_shadowed_iff (shadowed : Shadowed env)
    (accepted : OtherwiseAccepted toLowerCase input env) :
    BlankMeansAbsent toLowerCase input env ↔
      ∃ (raw : JsString) (minutes : ℤ), env vaultAutoLockMinutes = some raw ∧
        numberOfText raw = .finite minutes ∧ 1 ≤ minutes ∧ minutes ≤ 1440 ∧
        (AutoLockOverridden input ∨
          minutes = defaultAutoLockMinutes ∧ ¬ NoArguments input) := by
  obtain ⟨raw, held, readMinutes, readOther⟩ :=
    readAutoLockMinutes_shadowed shadowed
  obtain ⟨base, builds⟩ := accepted.builds
  obtain ⟨-, config, built, applies⟩ := builds rfl readMinutes
  constructor
  · intro absent
    have builtOther := (sameOutcome_iff.mp absent.outcome config).mp built
    obtain ⟨-, minutes, readAgain⟩ := accepted_of_built builtOther
    obtain ⟨-, again, builtAgain, appliesAgain⟩ :=
      builds envValue_withoutBlank readAgain
    obtain rfl := Except.ok.inj (builtOther.symm.trans builtAgain)
    rw [readOther] at readAgain
    obtain ⟨number, least, most⟩ := parseAutoLockMinutes_ok_iff.mp readAgain
    refine ⟨raw, minutes, held, number, least, most, ?_⟩
    rcases (applies_withMinutes_iff applies appliesAgain).mp rfl with
      overridden | equal
    · exact .inl overridden
    · by_cases noArguments : NoArguments input
      · have right := absent.sources noArguments config built
        rcases (sources_iff noArguments built).mp right with unshadowed | held
        · exact absurd shadowed unshadowed
        · exact .inl held
      · exact .inr ⟨equal.symm, noArguments⟩
  · rintro ⟨again, minutes, heldAgain, number, least, most, harmless⟩
    obtain rfl := Option.some.inj (held.symm.trans heldAgain)
    have readAgain := readOther.trans
      (parseAutoLockMinutes_ok_iff.mpr ⟨number, least, most⟩)
    obtain ⟨-, other, builtOther, appliesOther⟩ :=
      builds envValue_withoutBlank readAgain
    have equal : config = other := by
      apply (applies_withMinutes_iff applies appliesOther).mpr
      rcases harmless with overridden | ⟨same, -⟩
      · exact .inl overridden
      · exact .inr same.symm
    constructor
    · rw [built, builtOther]
      exact equal
    · intro noArguments next builtNext
      apply (sources_iff noArguments builtNext).mpr
      rcases harmless with overridden | ⟨-, given⟩
      · exact .inr overridden
      · exact absurd noArguments given

/-- Blank variables count as absent, for the configuration and for the
sources of its entries, exactly when no blank variable hides the minutes, or
something else is refused anyway, or the hidden minutes make no difference. -/
theorem blank_means_absent_iff (toLowerCase : JsString → JsString)
    (input : VaultAdminConfigInput) (env : Env) :
    BlankMeansAbsent toLowerCase input env ↔
      ¬ Shadowed env ∨ ¬ OtherwiseAccepted toLowerCase input env ∨
        ∃ (raw : JsString) (minutes : ℤ),
          env vaultAutoLockMinutes = some raw ∧
          numberOfText raw = .finite minutes ∧ 1 ≤ minutes ∧
          minutes ≤ 1440 ∧
          (AutoLockOverridden input ∨
            minutes = defaultAutoLockMinutes ∧ ¬ NoArguments input) := by
  by_cases shadowed : Shadowed env
  · by_cases accepted : OtherwiseAccepted toLowerCase input env
    · rw [blankMeansAbsent_shadowed_iff shadowed accepted]
      simp only [shadowed, accepted, not_true_eq_false, false_or]
    · exact iff_of_true (blankMeansAbsent_of_refused accepted)
        (.inr (.inl accepted))
  · exact iff_of_true (blankMeansAbsent_of_unshadowed shadowed)
      (.inl shadowed)

end Blank

/-- `NEXT_PUBLIC_VAULT_AUTO_LOCK_MINUTES=` and
`VAULT_AUTO_LOCK_MINUTES=30` -/
def blankFirstEnv : Env :=
  fun key =>
    if key = nextPublicAutoLockMinutes then some []
    else if key = vaultAutoLockMinutes then some (js "30")
    else none

/-- The blank variable hides the thirty minutes. -/
theorem blank_hides_minutes :
    ¬ ∀ (input : VaultAdminConfigInput) (env : Env),
      BlankMeansAbsent asciiLowerCase input env := by
  intro always
  have shadowed : Shadowed blankFirstEnv :=
    ⟨⟨[], by decide +kernel, by decide +kernel⟩, by decide +kernel⟩
  have accepted : OtherwiseAccepted asciiLowerCase {} blankFirstEnv :=
    { wordCount := ⟨.twentyFour, by rfl⟩
      enabled := ⟨false, by rfl⟩
      passwordPolicy := ⟨defaultConfig.passwordPolicy, by rfl⟩
      rateLimit := ⟨defaultConfig.rateLimit, by rfl⟩
      features := ⟨defaultConfig.features, by rfl⟩
      overrides := by
        intro name value present
        cases present }
  obtain ⟨raw, minutes, held, number, -, -, harmless⟩ :=
    (blankMeansAbsent_shadowed_iff shadowed accepted).mp
      (always {} blankFirstEnv)
  have thirty : blankFirstEnv vaultAutoLockMinutes = some (js "30") := by
    decide +kernel
  obtain rfl := Option.some.inj (thirty.symm.trans held)
  have value : numberOfText (js "30") = .finite 30 := by decide +kernel
  rcases harmless with overridden | ⟨rfl, -⟩
  · cases overridden
  · rw [value] at number
    exact absurd number (by decide)

end Admin

end VaultCore
