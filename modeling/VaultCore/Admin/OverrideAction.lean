import VaultCore.Admin.TypeSafety
import VaultCore.Text.NumberText

/-!
# Overrides as an action

An accepted record of overrides sets the fields of its keys and nothing else,
so what it gives depends on the record as a map only: records act one after
the other as their merge does.
-/

namespace VaultCore

namespace Admin

/-! ## Valid overrides -/

namespace VaultConfigKeyDefinition

/-- What a value has to be under a key: of the type, and in the domain once it
has been converted. -/
def Accepts (definition : VaultConfigKeyDefinition) (value : JsValue) :
    Prop :=
  match definition.type with
  | .boolean => value.IsBoolean
  | .string => ∃ text, value = .string text ∧ trim text ≠ []
  | .number => ∃ integer : ℤ, value = .number (.finite integer) ∧
      (∀ least ∈ definition.min, least ≤ integer) ∧
      ∀ most ∈ definition.max, (integer : ℚ) ≤ most
  | .enum => ∃ text ∈ definition.enumValues.getD [],
      value.stringOf = some text

end VaultConfigKeyDefinition

/-- The key may be overridden, with this value. -/
def ValidOverride (name : JsString) (value : JsValue) : Prop :=
  ∃ (key : VaultOverridableConfigKey) (definition : VaultConfigKeyDefinition),
    key.name = name ∧ getVaultConfigKeyDefinition name = some definition ∧
      definition.Accepts value

section Accepts

variable {definition : VaultConfigKeyDefinition} {name : JsString}
  {value : JsValue}

theorem checkString_ok_iff :
    checkString name value = .ok () ↔
      ∃ text, value = .string text ∧ trim text ≠ [] := by
  cases value with
  | string text =>
      by_cases blank : trim text = []
      · simp [checkString, blank]
      · simp [checkString, blank]
  | null => simp [checkString]
  | boolean held => simp [checkString]
  | number held => simp [checkString]
  | array items => simp [checkString]
  | object members => simp [checkString]

theorem outside_of_inside {bound : Option ℚ} {past : ℚ → Bool}
    (inside : ∀ limit ∈ bound, past limit = false) :
    outside bound past = false := by
  cases bound with
  | none => rfl
  | some limit => exact inside limit rfl

theorem checkNumber_ok_iff :
    checkNumber definition name value = .ok () ↔
      ∃ integer : ℤ, value = .number (.finite integer) ∧
        (∀ least ∈ definition.min, least ≤ integer) ∧
        ∀ most ∈ definition.max, (integer : ℚ) ≤ most := by
  constructor
  · exact checkNumber_admits
  · rintro ⟨integer, rfl, least, most⟩
    have isInt : (integer : ℚ).isInt = true := by simp [Rat.isInt]
    have notBelow : outside definition.min ((integer : ℚ) < ·) = false := by
      apply outside_of_inside
      intro limit member
      exact decide_eq_false (not_lt.mpr (least limit member))
    have notAbove : outside definition.max (· < (integer : ℚ)) = false := by
      apply outside_of_inside
      intro limit member
      exact decide_eq_false (not_lt.mpr (most limit member))
    simp only [checkNumber, isInt, notBelow, notAbove, Bool.true_eq_false,
      Bool.false_eq_true, if_false]
    rfl

theorem checkEnum_ok_iff :
    checkEnum definition name value = .ok () ↔
      ∃ text ∈ definition.enumValues.getD [], value.stringOf = some text := by
  cases converted : value.stringOf with
  | none => simp [checkEnum, converted]
  | some text =>
      by_cases member : text ∈ definition.enumValues.getD []
      · simp [checkEnum, converted, member]
      · simp [checkEnum, converted, member]

theorem checkValue_ok_iff :
    checkValue definition name value = .ok () ↔ definition.Accepts value := by
  unfold checkValue VaultConfigKeyDefinition.Accepts
  cases definition.type with
  | boolean =>
      constructor
      · exact checkBoolean_admits
      · rintro ⟨held, rfl⟩
        rfl
  | string => exact checkString_ok_iff
  | number => exact checkNumber_ok_iff
  | enum => exact checkEnum_ok_iff

theorem validateVaultAdminOverride_ok_iff :
    validateVaultAdminOverride name value = .ok () ↔
      ValidOverride name value := by
  constructor
  · intro passed
    cases known : overridableConfigKey name with
    | none =>
        simp only [validateVaultAdminOverride, known] at passed
        cases passed
    | some key =>
        have same := name_of_overridableConfigKey known
        obtain ⟨definition, found, -⟩ := exists_definition key
        rw [same] at found
        simp only [validateVaultAdminOverride, known, found] at passed
        exact ⟨key, definition, same, found, checkValue_ok_iff.mp passed⟩
  · rintro ⟨key, definition, rfl, found, accepts⟩
    simp only [validateVaultAdminOverride, overridableConfigKey_name, found]
    exact checkValue_ok_iff.mpr accepts

end Accepts

/-! ## What an override stores -/

/-- The value given, or its number for the length of the recovery phrase. -/
def storedValue (value : JsValue) : VaultOverridableConfigKey → JsValue
  | .defaultRecoveryWordCount => (value.numberOf.map .number).getD value
  | _ => value

/-- A value that is written as twelve or twenty-four has that number. -/
theorem numberOf_of_stringOf {value : JsValue} {digits : Nat}
    (noZero : digits % 10 ≠ 0) (notOne : digits ≠ 1)
    (small : digits < 10 ^ 16)
    (reads : numberOfText (JsNumber.digitsText digits) = .finite digits)
    (exact : JsNumber.roundToDouble digits = .finite digits)
    (written : value.stringOf = some (JsNumber.digitsText digits)) :
    value.numberOf = some (.finite digits) := by
  have allDigits := JsNumber.allDigits_digitsText digits
  cases value with
  | null =>
      rw [← Option.some.inj written] at allDigits
      exact absurd (allDigits 110 (by decide)).2 (by decide)
  | boolean held =>
      rw [← Option.some.inj written] at allDigits
      cases held with
      | false => exact absurd (allDigits 102 (by decide)).2 (by decide)
      | true => exact absurd (allDigits 116 (by decide)).2 (by decide)
  | number held =>
      have same := JsNumber.eq_of_numberText noZero notOne small
        (Option.some.inj written)
      rw [JsValue.numberOf, ← same, exact]
  | string text =>
      rw [JsValue.numberOf, written, Option.map_some, reads]
      all_goals simp
  | array items =>
      rw [JsValue.numberOf, written, Option.map_some, reads]
      all_goals simp
  | object members =>
      rw [JsValue.numberOf, written, Option.map_some, reads]
      all_goals simp

theorem wordCount_of_valid {value : JsValue}
    (valid : ValidOverride
      VaultOverridableConfigKey.defaultRecoveryWordCount.name value) :
    ∃ wordCount : RecoveryPhraseWordCount,
      value.numberOf = some (.finite wordCount.toNat) := by
  obtain ⟨key, definition, -, found, accepts⟩ := valid
  obtain rfl := Option.some.inj found
  obtain ⟨text, member, written⟩ := accepts
  simp only [Option.getD_some, List.mem_cons, List.not_mem_nil, or_false]
    at member
  rcases member with rfl | rfl
  · have twelve : js "12" = JsNumber.digitsText 12 := by decide +kernel
    rw [twelve] at written
    exact ⟨.twelve, numberOf_of_stringOf (by decide) (by decide) (by decide)
      (by decide +kernel) (by decide +kernel) written⟩
  · have twentyFour : js "24" = JsNumber.digitsText 24 := by decide +kernel
    rw [twentyFour] at written
    exact ⟨.twentyFour, numberOf_of_stringOf (by decide) (by decide)
      (by decide) (by decide +kernel) (by decide +kernel) written⟩

section Stored

variable {config next : VaultAdminConfig} {value : JsValue}
  {key : VaultOverridableConfigKey}

theorem storeOverride_valid (config : VaultAdminConfig)
    (valid : ValidOverride key.name value) :
    ∃ next, storeOverride config value key = .ok next ∧
      next.setting key = storedValue value key := by
  by_cases wordCount : key = .defaultRecoveryWordCount
  · subst wordCount
    obtain ⟨count, number⟩ := wordCount_of_valid valid
    rw [storeOverride, storedValue, number]
    refine ⟨_, rfl, ?_⟩
    cases count <;> rfl
  · cases key <;> first
      | exact absurd rfl wordCount
      | exact ⟨_, rfl, rfl⟩

/-- `enabled` drives two fields, and every other field of the features keeps
its value. -/
theorem storeOverride_features
    (stored : storeOverride config value key = .ok next) :
    next.features.adminEnabled =
      if key = .enabled then value else config.features.adminEnabled := by
  by_cases wordCount : key = .defaultRecoveryWordCount
  · subst wordCount
    obtain ⟨count, rfl⟩ := storeOverride_wordCount stored
    rfl
  · cases key <;> first
      | exact absurd rfl wordCount
      | (obtain rfl := Except.ok.inj stored
         rfl)

end Stored

/-- A configuration is its settings, the second field of `enabled`, and what
no override touches. -/
theorem VaultAdminConfig.ext_settings {config other : VaultAdminConfig}
    (settings : ∀ key, config.setting key = other.setting key)
    (adminEnabled : config.features.adminEnabled =
      other.features.adminEnabled)
    (productName : config.productName = other.productName)
    (profile : config.profile = other.profile)
    (phrase12 : config.features.recoveryPhrase12WordSupported =
      other.features.recoveryPhrase12WordSupported)
    (phrase24 : config.features.recoveryPhrase24WordSupported =
      other.features.recoveryPhrase24WordSupported) : config = other := by
  have same := fun key => settings key
  obtain ⟨enabled, basePath, product, crypto, salt, words, policy, session,
    rateLimit, features⟩ := config
  obtain ⟨enabled', basePath', product', crypto', salt', words', policy',
    session', rateLimit', features'⟩ := other
  obtain ⟨⟩ := policy
  obtain ⟨⟩ := policy'
  obtain ⟨⟩ := session
  obtain ⟨⟩ := session'
  obtain ⟨⟩ := rateLimit
  obtain ⟨⟩ := rateLimit'
  obtain ⟨⟩ := features
  obtain ⟨⟩ := features'
  simp only [VaultAdminConfig.mk.injEq, VaultAdminPasswordPolicy.mk.injEq,
    VaultAdminSessionConfig.mk.injEq, VaultAdminRateLimitConfig.mk.injEq,
    VaultAdminFeatureFlags.mk.injEq]
  refine ⟨same .enabled, same .basePath, productName, profile,
    same .prfSaltPrefix, same .defaultRecoveryWordCount, ?_,
    same .autoLockMinutes, ?_, ?_⟩
  · exact ⟨same .passwordEnforcement, same .passwordMinLength,
      same .passwordRequireUppercase, same .passwordRequireLowercase,
      same .passwordRequireNumber, same .passwordRequireSymbol,
      same .passwordBlockCommonPasswords, same .passwordMinScore,
      same .passwordStrengthPosition⟩
  · exact ⟨same .unlockMaxFailures, same .unlockFailureWindowMinutes,
      same .unlockLockoutMinutes, same .apiMaxRequests,
      same .apiWindowSeconds⟩
  · exact ⟨adminEnabled, same .passkeyPrfUnlockEnabled,
      same .emergencyModeEnabled, phrase12, phrase24⟩

/-! ## A record of overrides -/

/-- What a configuration becomes under the given values: every field of a
given key has its value, and the other fields are as they were. -/
structure Applies (config : VaultAdminConfig)
    (given : JsString → Option JsValue) (next : VaultAdminConfig) : Prop where
  settings : ∀ key, next.setting key =
    ((given key.name).map (storedValue · key)).getD (config.setting key)
  adminEnabled : next.features.adminEnabled =
    (given VaultOverridableConfigKey.enabled.name).getD
      config.features.adminEnabled
  productName : next.productName = config.productName
  profile : next.profile = config.profile
  phrase12 : next.features.recoveryPhrase12WordSupported =
    config.features.recoveryPhrase12WordSupported
  phrase24 : next.features.recoveryPhrase24WordSupported =
    config.features.recoveryPhrase24WordSupported

section Applies

variable {config middle next : VaultAdminConfig}
  {given later : JsString → Option JsValue}

theorem Applies.unique {other : VaultAdminConfig}
    (applies : Applies config given next)
    (appliesOther : Applies config given other) : next = other := by
  apply VaultAdminConfig.ext_settings
  · intro key
    rw [applies.settings, appliesOther.settings]
  · rw [applies.adminEnabled, appliesOther.adminEnabled]
  · rw [applies.productName, appliesOther.productName]
  · rw [applies.profile, appliesOther.profile]
  · rw [applies.phrase12, appliesOther.phrase12]
  · rw [applies.phrase24, appliesOther.phrase24]

theorem Applies.trans (first : Applies config given middle)
    (second : Applies middle later next) :
    Applies config (fun name => (later name).or (given name)) next where
  settings := fun key => by
    rw [second.settings, first.settings]
    cases later key.name <;> rfl
  adminEnabled := by
    rw [second.adminEnabled, first.adminEnabled]
    cases later VaultOverridableConfigKey.enabled.name <;> rfl
  productName := second.productName.trans first.productName
  profile := second.profile.trans first.profile
  phrase12 := second.phrase12.trans first.phrase12
  phrase24 := second.phrase24.trans first.phrase24

theorem name_injective {key other : VaultOverridableConfigKey}
    (same : key.name = other.name) : key = other := by
  have found := overridableConfigKey_name key
  rw [same, overridableConfigKey_name] at found
  exact (Option.some.inj found).symm

/-- One round of the loop. -/
theorem Overridden.applies {name : JsString} {value : JsValue}
    {key : VaultOverridableConfigKey}
    (round : Overridden config next name value key) :
    Applies config (fun other => if other = name then some value else none)
      next := by
  have valid := validateVaultAdminOverride_ok_iff.mp round.passed
  have named := round.name
  obtain ⟨productName, profile, phrase12, phrase24⟩ :=
    storeOverride_frame round.stored
  refine
    { settings := ?_
      adminEnabled := ?_
      productName, profile, phrase12, phrase24 }
  · intro other
    by_cases same : other = key
    · subst same
      obtain ⟨stored, again, setting⟩ := storeOverride_valid config valid
      obtain rfl := Except.ok.inj (round.stored.symm.trans again)
      rw [setting, if_pos named]
      rfl
    · have different : other.name ≠ name := by
        intro equal
        exact same (name_injective (equal.trans named.symm))
      rw [storeOverride_other same round.stored, if_neg different]
      rfl
  · rw [storeOverride_features round.stored]
    by_cases enabled : key = .enabled
    · have same : VaultOverridableConfigKey.enabled.name = name := by
        rw [← named, enabled]
      rw [if_pos enabled, if_pos same]
      rfl
    · have different : VaultOverridableConfigKey.enabled.name ≠ name := by
        intro equal
        exact enabled (name_injective (named.trans equal.symm))
      rw [if_neg enabled, if_neg different]
      rfl

theorem applyEntries_applies {entries : List (JsString × JsValue)}
    (unique : (entries.map Prod.fst).Nodup)
    (applied : applyEntries config entries = .ok next) :
    Applies config (OrderedMap.get? ⟨entries, unique⟩) next := by
  induction entries generalizing config with
  | nil =>
      obtain rfl := Except.ok.inj applied
      exact ⟨fun _ => rfl, rfl, rfl, rfl, rfl, rfl⟩
  | cons entry entries ih =>
      obtain ⟨name, value⟩ := entry
      obtain ⟨fresh, restUnique⟩ := List.nodup_cons.mp unique
      obtain ⟨middle, first, rest⟩ := Outcome.bind_eq_ok_iff.mp applied
      obtain ⟨key, round⟩ := applyOverride_inv first
      have applies := round.applies.trans (ih restUnique rest)
      have given : (fun other =>
          (OrderedMap.get? ⟨entries, restUnique⟩ other).or
            (if other = name then some value else none)) =
          OrderedMap.get? ⟨(name, value) :: entries, unique⟩ := by
        funext other
        rw [OrderedMap.get?_cons]
        by_cases same : other = name
        · have absent : OrderedMap.get? ⟨entries, restUnique⟩ other = none := by
            apply OrderedMap.get?_eq_none_iff.mpr
            rw [same]
            exact fresh
          rw [absent, if_pos same, Option.none_or]
        · rw [if_neg same, if_neg same, Option.or_none]
      rw [given] at applies
      exact applies

/-- The loop ends without a refusal when every override is valid. -/
theorem applyEntries_ok_iff {entries : List (JsString × JsValue)} :
    (∃ next, applyEntries config entries = .ok next) ↔
      ∀ entry ∈ entries, ValidOverride entry.1 entry.2 := by
  induction entries generalizing config with
  | nil => exact iff_of_true ⟨config, rfl⟩ (by simp)
  | cons entry entries ih =>
      rw [List.forall_mem_cons]
      constructor
      · rintro ⟨next, applied⟩
        obtain ⟨middle, first, rest⟩ := Outcome.bind_eq_ok_iff.mp applied
        obtain ⟨key, round⟩ := applyOverride_inv first
        have valid := validateVaultAdminOverride_ok_iff.mp round.passed
        rw [round.name] at valid
        exact ⟨valid, ih.mp ⟨next, rest⟩⟩
      · rintro ⟨valid, restValid⟩
        obtain ⟨key, definition, named, -⟩ := id valid
        have passed := validateVaultAdminOverride_ok_iff.mpr valid
        have known : overridableConfigKey entry.1 = some key := by
          rw [← named, overridableConfigKey_name]
        rw [← named] at valid
        obtain ⟨middle, stored, -⟩ := storeOverride_valid config valid
        obtain ⟨next, rest⟩ := (@ih middle).mpr restValid
        refine ⟨next, ?_⟩
        rw [applyEntries, applyOverride, passed, Outcome.ok_bind, known]
        simp only [stored, Outcome.ok_bind, rest]

end Applies

section Records

variable {config middle next : VaultAdminConfig}
  {overrides first second : Overrides}

theorem applyVaultAdminOverrides_entries :
    applyVaultAdminOverrides config overrides =
      applyEntries config overrides.entries := by
  rw [applyVaultAdminOverrides]
  split
  · rename_i empty
    rw [List.length_eq_zero_iff.mp empty]
    rfl
  · rfl

theorem applyVaultAdminOverrides_applies
    (applied : applyVaultAdminOverrides config overrides = .ok next) :
    Applies config overrides.get? next := by
  rw [applyVaultAdminOverrides_entries] at applied
  exact applyEntries_applies overrides.nodup applied

/-- A record is accepted when its values are valid, whatever the order of its
keys. -/
theorem applyVaultAdminOverrides_ok_iff :
    (∃ next, applyVaultAdminOverrides config overrides = .ok next) ↔
      ∀ name value, overrides.get? name = some value →
        ValidOverride name value := by
  rw [applyVaultAdminOverrides_entries, applyEntries_ok_iff]
  simp only [OrderedMap.get?_eq_some_iff, Prod.forall]

theorem applyVaultAdminOverrides_of_applies
    (valid : ∀ name value, overrides.get? name = some value →
      ValidOverride name value)
    (applies : Applies config overrides.get? next) :
    applyVaultAdminOverrides config overrides = .ok next := by
  obtain ⟨other, applied⟩ :=
    (@applyVaultAdminOverrides_ok_iff config overrides).mpr valid
  rw [applied, (applyVaultAdminOverrides_applies applied).unique applies]

/-- Two records one after the other act as their merge. -/
theorem applyVaultAdminOverrides_merge
    (appliedFirst : applyVaultAdminOverrides config first = .ok middle)
    (appliedSecond : applyVaultAdminOverrides middle second = .ok next) :
    applyVaultAdminOverrides config (first.merge second) = .ok next := by
  have merged : (first.merge second).get? =
      fun name => (second.get? name).or (first.get? name) :=
    funext (first.get?_merge second)
  have validFirst := applyVaultAdminOverrides_ok_iff.mp ⟨_, appliedFirst⟩
  have validSecond := applyVaultAdminOverrides_ok_iff.mp ⟨_, appliedSecond⟩
  apply applyVaultAdminOverrides_of_applies
  · intro name value present
    rw [merged] at present
    rcases Option.or_eq_some_iff.mp present with here | ⟨-, here⟩
    · exact validSecond name value here
    · exact validFirst name value here
  · rw [merged]
    exact (applyVaultAdminOverrides_applies appliedFirst).trans
      (applyVaultAdminOverrides_applies appliedSecond)

theorem applyVaultAdminOverrides_idempotent
    (applied : applyVaultAdminOverrides config overrides = .ok next) :
    applyVaultAdminOverrides next overrides = .ok next := by
  have valid := applyVaultAdminOverrides_ok_iff.mp ⟨_, applied⟩
  obtain ⟨again, appliedAgain⟩ :=
    (@applyVaultAdminOverrides_ok_iff next overrides).mpr valid
  have once := applyVaultAdminOverrides_applies applied
  have twice := once.trans (applyVaultAdminOverrides_applies appliedAgain)
  have same : (fun name => (overrides.get? name).or (overrides.get? name)) =
      overrides.get? := by
    funext name
    exact Option.or_self
  rw [same] at twice
  rw [appliedAgain, twice.unique once]

/-- Records without a common key act in any order. -/
theorem applyVaultAdminOverrides_disjoint
    (apart : ∀ name ∈ first.keys, name ∉ second.keys)
    (appliedFirst : applyVaultAdminOverrides config first = .ok middle)
    (appliedSecond : applyVaultAdminOverrides middle second = .ok next) :
    ∃ other, applyVaultAdminOverrides config second = .ok other ∧
      applyVaultAdminOverrides other first = .ok next := by
  have validFirst := applyVaultAdminOverrides_ok_iff.mp ⟨_, appliedFirst⟩
  have validSecond := applyVaultAdminOverrides_ok_iff.mp ⟨_, appliedSecond⟩
  obtain ⟨other, appliedOther⟩ :=
    (@applyVaultAdminOverrides_ok_iff config second).mpr validSecond
  obtain ⟨last, appliedLast⟩ :=
    (@applyVaultAdminOverrides_ok_iff other first).mpr validFirst
  refine ⟨other, appliedOther, ?_⟩
  have forwards := (applyVaultAdminOverrides_applies appliedFirst).trans
    (applyVaultAdminOverrides_applies appliedSecond)
  have backwards := (applyVaultAdminOverrides_applies appliedOther).trans
    (applyVaultAdminOverrides_applies appliedLast)
  have same : (fun name => (first.get? name).or (second.get? name)) =
      fun name => (second.get? name).or (first.get? name) := by
    funext name
    by_cases held : name ∈ first.keys
    · rw [OrderedMap.get?_eq_none_iff.mpr (apart name held), Option.or_none,
        Option.none_or]
    · rw [OrderedMap.get?_eq_none_iff.mpr held, Option.or_none,
        Option.none_or]
  rw [same] at backwards
  rw [appliedLast, backwards.unique forwards]

end Records

end Admin

end VaultCore
