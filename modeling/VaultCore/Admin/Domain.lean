import VaultCore.Admin.ConfigKeys
import VaultCore.Admin.EnvParse

/-!
# The domain of a setting

The table of keys declares for every setting a type and a domain.  What the
validator lets pass under a key is in the key's domain, with one exception: it
converts the value of an enumerated setting to a string before it looks the
value up, and an array of one item converts to the item's string.
-/

namespace VaultCore

namespace Admin

namespace VaultConfigKeyDefinition

/-- The declared type and domain of a setting. -/
def Admits (definition : VaultConfigKeyDefinition) (value : JsValue) : Prop :=
  match definition.type with
  | .boolean => value.IsBoolean
  | .string => value.IsNonEmptyString
  | .number => ∃ integer : ℤ, value = .number (.finite integer) ∧
      (∀ least ∈ definition.min, least ≤ integer) ∧
      ∀ most ∈ definition.max, (integer : ℚ) ≤ most
  | .enum => value.IsOneOf (definition.enumValues.getD [])

end VaultConfigKeyDefinition

/-- What a setting has to be.  The length of the recovery phrase is stored as
a number although its key is enumerated. -/
def InDomain (key : VaultOverridableConfigKey) (value : JsValue) : Prop :=
  if key = .defaultRecoveryWordCount then
    ∃ wordCount, value = wordCountValue wordCount
  else
    ∃ definition, getVaultConfigKeyDefinition key.name = some definition ∧
      definition.Admits value

/-- Everything of a configuration but its overridable settings is well
typed. -/
structure FixedWellTyped (config : VaultAdminConfig) : Prop where
  adminEnabled : config.features.adminEnabled.IsBoolean
  phrase12 : config.features.recoveryPhrase12WordSupported.IsBoolean
  phrase24 : config.features.recoveryPhrase24WordSupported.IsBoolean
  productName : config.productName.IsNonEmptyString
  aadContextVault : config.profile.aadContextVault ≠ []
  aadContextEnvelope : config.profile.aadContextEnvelope ≠ []

/-- Every field has its declared type and lies in its domain. -/
structure WellTyped (config : VaultAdminConfig) : Prop
    extends FixedWellTyped config where
  settings : ∀ key, InDomain key (config.setting key)

/-- The settings stored under a cast from a converted string. -/
def IsCastEnum (key : VaultOverridableConfigKey) : Prop :=
  key = .passwordEnforcement ∨ key = .passwordStrengthPosition

instance (key : VaultOverridableConfigKey) : Decidable (IsCastEnum key) :=
  inferInstanceAs (Decidable (_ ∨ _))

/-! ## The table -/

/-- The type that the table declares for a key. -/
def declaredType : VaultOverridableConfigKey → VaultConfigValueType
  | .basePath | .prfSaltPrefix => .string
  | .defaultRecoveryWordCount | .passwordEnforcement
  | .passwordStrengthPosition => .enum
  | .autoLockMinutes | .passwordMinLength | .passwordMinScore
  | .unlockMaxFailures | .unlockFailureWindowMinutes | .unlockLockoutMinutes
  | .apiMaxRequests | .apiWindowSeconds => .number
  | _ => .boolean

theorem exists_definition (key : VaultOverridableConfigKey) :
    ∃ definition, getVaultConfigKeyDefinition key.name = some definition ∧
      definition.type = declaredType key := by
  cases key <;> exact ⟨_, rfl, rfl⟩

theorem overridableConfigKey_name (key : VaultOverridableConfigKey) :
    overridableConfigKey key.name = some key := by
  cases key <;> rfl

theorem name_of_overridableConfigKey {name : JsString}
    {key : VaultOverridableConfigKey}
    (found : overridableConfigKey name = some key) : key.name = name := by
  simpa using List.find?_some found

theorem not_enum_or_cast {key : VaultOverridableConfigKey}
    (enumerated : declaredType key = .enum)
    (notWordCount : key ≠ .defaultRecoveryWordCount) : IsCastEnum key := by
  cases key <;> simp_all [declaredType, IsCastEnum]

/-! ## What the validator lets pass -/

section Validated

variable {definition : VaultConfigKeyDefinition} {name : JsString}
  {value : JsValue}

theorem checkBoolean_admits (passed : checkBoolean name value = .ok ()) :
    value.IsBoolean := by
  cases value with
  | boolean held => exact ⟨held, rfl⟩
  | null => cases passed
  | number held => cases passed
  | string text => cases passed
  | array items => cases passed
  | object members => cases passed

theorem checkString_admits (passed : checkString name value = .ok ()) :
    value.IsNonEmptyString := by
  cases value with
  | string text =>
      simp only [checkString] at passed
      split at passed
      · cases passed
      · rename_i nonBlank
        refine ⟨text, rfl, ?_⟩
        intro empty
        exact nonBlank (by rw [empty]; rfl)
  | null => cases passed
  | boolean held => cases passed
  | number held => cases passed
  | array items => cases passed
  | object members => cases passed

theorem outside_eq_false {bound : Option ℚ} {past : ℚ → Bool}
    (inside : outside bound past = false) :
    ∀ limit ∈ bound, past limit = false := by
  intro limit member
  rw [Option.mem_def.mp member] at inside
  exact inside

theorem checkNumber_admits
    (passed : checkNumber definition name value = .ok ()) :
    ∃ integer : ℤ, value = .number (.finite integer) ∧
      (∀ least ∈ definition.min, least ≤ integer) ∧
      ∀ most ∈ definition.max, (integer : ℚ) ≤ most := by
  cases value with
  | number number =>
      cases number with
      | finite held =>
          simp only [checkNumber] at passed
          split at passed
          · cases passed
          · rename_i integral
            split at passed
            · cases passed
            · rename_i notBelow
              split at passed
              · cases passed
              · rename_i notAbove
                have whole : held = (held.num : ℚ) := by
                  apply Rat.eq_num_of_isInt
                  simpa using integral
                refine ⟨held.num, by rw [← whole], ?_, ?_⟩
                · intro least member
                  have within := outside_eq_false
                    (eq_false_of_ne_true notBelow) least member
                  rw [← whole]
                  simpa using within
                · intro most member
                  have within := outside_eq_false
                    (eq_false_of_ne_true notAbove) most member
                  rw [← whole]
                  simpa using within
      | infinite negative => cases passed
      | nan => cases passed
  | null => cases passed
  | boolean held => cases passed
  | string text => cases passed
  | array items => cases passed
  | object members => cases passed

/-- A text of an enumeration begins with a small letter. -/
def BeginsSmall (text : JsString) : Prop :=
  ∃ unit rest, text = unit :: rest ∧ 97 ≤ unit.toNat

/-- Apart from the strings themselves, only arrays convert to a text of the
enumeration. -/
theorem checkEnum_admits_iff
    (small : ∀ text ∈ definition.enumValues.getD [], BeginsSmall text)
    (plain : ∀ text ∈ definition.enumValues.getD [],
      text ≠ js "null" ∧ text ≠ js "true" ∧ text ≠ js "false")
    (passed : checkEnum definition name value = .ok ()) :
    value.IsOneOf (definition.enumValues.getD []) ↔ ¬ value.IsArray := by
  have converted : ∃ text, value.stringOf = some text ∧
      text ∈ definition.enumValues.getD [] := by
    simp only [checkEnum] at passed
    cases text : value.stringOf with
    | none =>
        rw [text] at passed
        cases passed
    | some normalized =>
        simp only [text] at passed
        split at passed
        · rename_i member
          exact ⟨normalized, rfl, member⟩
        · cases passed
  obtain ⟨text, same, member⟩ := converted
  cases value with
  | null =>
      simp only [JsValue.stringOf, Option.some.injEq] at same
      exact absurd same.symm (plain text member).1
  | boolean held =>
      cases held with
      | false =>
          simp only [JsValue.stringOf, Option.some.injEq] at same
          exact absurd same.symm (plain text member).2.2
      | true =>
          simp only [JsValue.stringOf, Option.some.injEq] at same
          exact absurd same.symm (plain text member).2.1
  | number held =>
      simp only [JsValue.stringOf, Option.some.injEq] at same
      obtain ⟨unit, rest, begins, small⟩ := small text member
      obtain ⟨other, others, written, before⟩ := numberText_begins held
      rw [same, begins] at written
      obtain ⟨rfl, -⟩ := List.cons.inj written
      omega
  | string held =>
      simp only [JsValue.stringOf, Option.some.injEq] at same
      constructor
      · intro _ isArray
        obtain ⟨items, different⟩ := isArray
        cases different
      · intro _
        exact ⟨text, member, by rw [same]⟩
  | array items =>
      constructor
      · intro oneOf
        obtain ⟨other, -, different⟩ := oneOf
        cases different
      · intro notArray
        exact absurd ⟨items, rfl⟩ notArray
  | object members =>
      simp only [JsValue.stringOf] at same
      split at same
      · cases same
      · obtain ⟨unit, rest, begins, small⟩ := small text member
        rw [← Option.some.inj same] at begins
        obtain ⟨rfl, -⟩ := List.cons.inj begins
        exact absurd small (by decide)

end Validated

/-- The values of the enumerations that are stored under a cast. -/
theorem castEnum_values {key : VaultOverridableConfigKey}
    (cast : IsCastEnum key) {definition : VaultConfigKeyDefinition}
    (found : getVaultConfigKeyDefinition key.name = some definition) :
    ∀ text ∈ definition.enumValues.getD [], BeginsSmall text ∧
      text ≠ js "null" ∧ text ≠ js "true" ∧ text ≠ js "false" := by
  have enforcement : ∀ text ∈ [js "off", js "warn", js "enforce"],
      BeginsSmall text ∧
        text ≠ js "null" ∧ text ≠ js "true" ∧ text ≠ js "false" := by
    intro text member
    simp only [List.mem_cons, List.not_mem_nil, or_false] at member
    obtain rfl | rfl | rfl := member
    · exact ⟨⟨_, _, rfl, by decide⟩, by decide⟩
    · exact ⟨⟨_, _, rfl, by decide⟩, by decide⟩
    · exact ⟨⟨_, _, rfl, by decide⟩, by decide⟩
  have position : ∀ text ∈ [js "above", js "below"],
      BeginsSmall text ∧
        text ≠ js "null" ∧ text ≠ js "true" ∧ text ≠ js "false" := by
    intro text member
    simp only [List.mem_cons, List.not_mem_nil, or_false] at member
    obtain rfl | rfl := member
    · exact ⟨⟨_, _, rfl, by decide⟩, by decide⟩
    · exact ⟨⟨_, _, rfl, by decide⟩, by decide⟩
  rcases cast with rfl | rfl
  · obtain rfl := Option.some.inj found
    exact enforcement
  · obtain rfl := Option.some.inj found
    exact position

/-- A value that passes under a key is in the key's domain, unless it is an
array under a cast enumeration. -/
theorem validated_inDomain_iff {key : VaultOverridableConfigKey}
    {value : JsValue} (notWordCount : key ≠ .defaultRecoveryWordCount)
    (passed : validateVaultAdminOverride key.name value = .ok ()) :
    InDomain key value ↔ ¬ (IsCastEnum key ∧ value.IsArray) := by
  obtain ⟨definition, found, type⟩ := exists_definition key
  simp only [validateVaultAdminOverride, overridableConfigKey_name, found,
    checkValue] at passed
  have domain : InDomain key value ↔ definition.Admits value := by
    simp only [InDomain, if_neg notWordCount, found, Option.some.injEq,
      exists_eq_left']
  rw [domain]
  have notCast : declaredType key ≠ .enum →
      ¬ (IsCastEnum key ∧ value.IsArray) := by
    intro different both
    rcases both.1 with rfl | rfl
    · exact different rfl
    · exact different rfl
  cases declared : definition.type with
  | boolean =>
      simp only [declared] at passed
      rw [declared] at type
      have admits : definition.Admits value := by
        rw [VaultConfigKeyDefinition.Admits, declared]
        exact checkBoolean_admits passed
      exact iff_of_true admits (notCast (by rw [← type]; decide))
  | string =>
      simp only [declared] at passed
      rw [declared] at type
      have admits : definition.Admits value := by
        rw [VaultConfigKeyDefinition.Admits, declared]
        exact checkString_admits passed
      exact iff_of_true admits (notCast (by rw [← type]; decide))
  | number =>
      simp only [declared] at passed
      rw [declared] at type
      have admits : definition.Admits value := by
        rw [VaultConfigKeyDefinition.Admits, declared]
        exact checkNumber_admits passed
      exact iff_of_true admits (notCast (by rw [← type]; decide))
  | enum =>
      simp only [declared] at passed
      rw [declared] at type
      have cast := not_enum_or_cast type.symm notWordCount
      have values := castEnum_values cast found
      rw [VaultConfigKeyDefinition.Admits, declared]
      have admits := checkEnum_admits_iff (fun text member =>
        (values text member).1) (fun text member => (values text member).2)
        passed
      simp only [cast, true_and]
      exact admits

section Members

variable {key : VaultOverridableConfigKey}

theorem inDomain_boolean (type : declaredType key = .boolean) (held : Bool) :
    InDomain key (.boolean held) := by
  obtain ⟨definition, found, same⟩ := exists_definition key
  rw [type] at same
  have notWordCount : key ≠ .defaultRecoveryWordCount := by
    intro wordCount
    rw [wordCount] at type
    cases type
  rw [InDomain, if_neg notWordCount]
  refine ⟨definition, found, ?_⟩
  rw [VaultConfigKeyDefinition.Admits, same]
  exact ⟨held, rfl⟩

theorem inDomain_string (type : declaredType key = .string) {text : JsString}
    (nonEmpty : text ≠ []) : InDomain key (.string text) := by
  obtain ⟨definition, found, same⟩ := exists_definition key
  rw [type] at same
  have notWordCount : key ≠ .defaultRecoveryWordCount := by
    intro wordCount
    rw [wordCount] at type
    cases type
  rw [InDomain, if_neg notWordCount]
  refine ⟨definition, found, ?_⟩
  rw [VaultConfigKeyDefinition.Admits, same]
  exact ⟨text, rfl, nonEmpty⟩

/-- The table has the bounds the environment is read with. -/
theorem inDomain_number {definition : VaultConfigKeyDefinition}
    {bounds : IntBounds} {integer : ℤ}
    (found : getVaultConfigKeyDefinition key.name = some definition)
    (type : definition.type = .number)
    (least : definition.min = some bounds.min)
    (most : definition.max = some bounds.max)
    (between : bounds.min ≤ integer ∧ (integer : ℚ) ≤ bounds.max) :
    InDomain key (.number (.finite integer)) := by
  have notWordCount : key ≠ .defaultRecoveryWordCount := by
    intro wordCount
    rw [wordCount] at found
    obtain rfl := Option.some.inj found
    cases type
  rw [InDomain, if_neg notWordCount]
  refine ⟨definition, found, ?_⟩
  rw [VaultConfigKeyDefinition.Admits, type]
  refine ⟨integer, rfl, ?_, ?_⟩
  · intro bound member
    rw [least] at member
    obtain rfl := Option.some.inj member
    exact between.1
  · intro bound member
    rw [most] at member
    obtain rfl := Option.some.inj member
    exact between.2

theorem inDomain_enum {definition : VaultConfigKeyDefinition}
    {allowed : List JsString} {text : JsString}
    (notWordCount : key ≠ .defaultRecoveryWordCount)
    (found : getVaultConfigKeyDefinition key.name = some definition)
    (type : definition.type = .enum)
    (values : definition.enumValues = some allowed)
    (member : text ∈ allowed) : InDomain key (.string text) := by
  rw [InDomain, if_neg notWordCount]
  refine ⟨definition, found, ?_⟩
  rw [VaultConfigKeyDefinition.Admits, type, values]
  exact ⟨text, member, rfl⟩

end Members

end Admin

end VaultCore
