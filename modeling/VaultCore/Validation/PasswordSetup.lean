import VaultCore.Validation.PasswordPolicy

/-!
# The check of the setup forms

A setup form lists the requirements of the policy that a password fails and
refuses the password as long as there is one, whatever the enforcement.  A
submission is refused under an enforced policy only.
-/

namespace VaultCore

open Admin

/-- How strong a password is shown to be. -/
inductive VaultPasswordStrength where
  | empty
  | weak
  | fair
  | good
  | strong
deriving DecidableEq

inductive VaultPasswordRequirementId where
  | minLength
  | uppercase
  | lowercase
  | number
  | symbol
  | common
  | minScore
deriving DecidableEq

/-- A requirement, and whether it is met. -/
structure VaultPasswordRequirement where
  id : VaultPasswordRequirementId
  label : JsString
  met : Bool
deriving DecidableEq

/-- What the page shows of a password. -/
structure VaultPasswordValidationResult where
  valid : Bool
  strength : VaultPasswordStrength
  score : Nat
  strengthLabel : JsString
  failedRequirements : List VaultPasswordRequirement
  passedRequirements : List VaultPasswordRequirement
  messages : List JsString
  assessment : VaultPasswordAssessment

/-- What the page shows of the confirmation. -/
structure PasswordConfirmation where
  valid : Bool
  matched : Bool
  message : Option JsString := none

structure VaultPasswordSetupValidationResult where
  valid : Bool
  password : VaultPasswordValidationResult
  confirmation : PasswordConfirmation

/-- The shown strength of a label and a score. -/
def mapStrengthLabel (password : JsString)
    (label : VaultPasswordStrengthLabel) (score : Nat) :
    VaultPasswordStrength :=
  if password = [] then .empty
  else if label = .tooShort ∨ label = .common then .weak
  else if label = .weak ∨ score ≤ 1 then .weak
  else if 4 ≤ score then .strong
  else if 3 ≤ score then .good
  else .fair

def getVaultPasswordStrengthDisplay : VaultPasswordStrengthLabel → JsString
  | .tooShort => js "Too short"
  | .common => js "Too common"
  | .weak => js "Weak"
  | .okay => js "Okay"
  | .strong => js "Strong"

/-- A requirement on the kinds of characters, when the policy has it. -/
def kindRequirement (required : JsValue) (id : VaultPasswordRequirementId)
    (label : JsString) (met : Bool) : List VaultPasswordRequirement :=
  if required.truthy then [{ id, label, met }] else []

/-- The requirement that a typed password is not common. -/
def commonRequirement (password : JsString)
    (policy : VaultAdminPasswordPolicy)
    (assessment : VaultPasswordAssessment) : List VaultPasswordRequirement :=
  if policy.blockCommonPasswords.truthy && decide (0 < password.length) then
    [{ id := .common
       label := js "Not a common password"
       met := assessment.label != .common }]
  else []

def minScoreRequirement (password : JsString)
    (policy : VaultAdminPasswordPolicy)
    (assessment : VaultPasswordAssessment) :
    Option (List VaultPasswordRequirement) := do
  let positive ← policy.minScore.exceeds (.finite 0)
  if positive then do
    let longEnough ← policy.minLength.reachedBy (lengthNumber password)
    if longEnough then do
      let minScore ← policy.minScore.stringOf
      let met ← policy.minScore.reachedBy (.finite assessment.score)
      pure
        [{ id := .minScore
           label := js "Strength score at least " ++ minScore ++
             js " (current: " ++ numberText (.finite assessment.score) ++
             js ")"
           met := met }]
    else pure []
  else pure []

/-- The requirements of the policy, those that are met and the others. -/
structure RequirementList where
  passed : List VaultPasswordRequirement
  failed : List VaultPasswordRequirement

/-- The requirements of a policy, in their order. -/
def buildRequirementList (password : JsString)
    (policy : VaultAdminPasswordPolicy)
    (assessment : VaultPasswordAssessment) : Option RequirementList := do
  let variety := Variety.ofPassword password
  let minLength ← policy.minLength.stringOf
  let longEnough ← policy.minLength.reachedBy (lengthNumber password)
  let score ← minScoreRequirement password policy assessment
  let candidates : List VaultPasswordRequirement :=
    [{ id := .minLength
       label := js "At least " ++ minLength ++ js " characters"
       met := longEnough }] ++
    kindRequirement policy.requireUppercase .uppercase
      (js "Uppercase letter") variety.upper ++
    kindRequirement policy.requireLowercase .lowercase
      (js "Lowercase letter") variety.lower ++
    kindRequirement policy.requireNumber .number (js "Number")
      variety.number ++
    kindRequirement policy.requireSymbol .symbol (js "Symbol")
      variety.symbol ++
    commonRequirement password policy assessment ++
    score
  pure
    { passed := candidates.filter fun item => item.met
      failed := candidates.filter fun item => !item.met }

section

variable (toLowerCase : JsString → JsString)

/-- What the page shows of a password under a policy. -/
def validateVaultPasswordAgainstPolicy (password : JsString)
    (policy : VaultAdminPasswordPolicy) :
    Option VaultPasswordValidationResult := do
  let assessment ← assessVaultPassword toLowerCase password policy
  let requirements ← buildRequirementList password policy assessment
  pure
    { valid := decide (0 < password.length) &&
        decide (requirements.failed.length = 0) &&
        (policy.enforcement.isText (js "off") || assessment.meetsPolicy)
      strength := mapStrengthLabel password assessment.label assessment.score
      score := assessment.score
      strengthLabel := getVaultPasswordStrengthDisplay assessment.label
      failedRequirements := requirements.failed
      passedRequirements := requirements.passed
      messages := assessment.messages
      assessment := assessment }

/-- Neither text is empty, and they are the same. -/
def validateVaultPasswordConfirmation (password confirmation : JsString) :
    Bool :=
  decide (0 < password.length) && decide (0 < confirmation.length) &&
    password == confirmation

/-- What is typed, and the policy that it has to meet. -/
structure VaultPasswordSetupInput where
  password : JsString
  confirmation : Option JsString := none
  policy : VaultAdminPasswordPolicy
  requireConfirmation : Option Bool := none
  confirmationMismatchMessage : Option JsString := none

def validateVaultPasswordSetup (input : VaultPasswordSetupInput) :
    Option VaultPasswordSetupValidationResult := do
  let requireConfirmation := input.requireConfirmation != some false
  let passwordResult ← validateVaultPasswordAgainstPolicy toLowerCase
    input.password input.policy
  let mismatchMessage := input.confirmationMismatchMessage.getD
    (js "Passwords do not match.")
  if !requireConfirmation then
    pure
      { valid := passwordResult.valid
        password := passwordResult
        confirmation := { valid := true, matched := true } }
  else
    let confirmationValue := input.confirmation.getD []
    let matched := validateVaultPasswordConfirmation input.password
      confirmationValue
    pure
      { valid := passwordResult.valid && matched
        password := passwordResult
        confirmation :=
          { valid := matched
            matched := matched
            message := if matched then none else some mismatchMessage } }

end

/-- What the page says about the enforcement of a policy. -/
def getVaultPasswordEnforcementMessage (policy : VaultAdminPasswordPolicy) :
    Option JsString :=
  if policy.enforcement.isText (js "off") then
    some (js "Password policy is disabled (enforcement: off).")
  else if policy.enforcement.isText (js "warn") then
    some (js ("Policy feedback is shown; weak passwords are allowed " ++
      "(enforcement: warn)."))
  else if policy.enforcement.isText (js "enforce") then
    some (js ("Password must meet all requirements below " ++
      "(enforcement: enforce)."))
  else none

/-! ## Declared policies -/

inductive VaultPasswordEnforcement where
  | off
  | warn
  | enforce
deriving DecidableEq

namespace VaultPasswordEnforcement

def text : VaultPasswordEnforcement → JsString
  | off => js "off"
  | warn => js "warn"
  | enforce => js "enforce"

theorem isText_iff {enforcement other : VaultPasswordEnforcement} :
    (JsValue.string enforcement.text).isText other.text = true ↔
      enforcement = other := by
  cases enforcement <;> cases other <;> decide

end VaultPasswordEnforcement

/-- A policy of the declared types, with a minimum length of at least one. -/
structure DeclaredPasswordPolicy where
  enforcement : VaultPasswordEnforcement
  minLength : JsNumber
  positive : minLength.atLeast (.finite 1) = true
  requireUppercase : Bool
  requireLowercase : Bool
  requireNumber : Bool
  requireSymbol : Bool
  blockCommonPasswords : Bool
  minScore : JsNumber
  comparable : minScore ≠ .nan
  strengthPosition : JsValue

namespace DeclaredPasswordPolicy

variable (policy : DeclaredPasswordPolicy)

/-- The declared policy as the configuration holds it. -/
def settings : VaultAdminPasswordPolicy :=
  { enforcement := .string policy.enforcement.text
    minLength := .number policy.minLength
    requireUppercase := .boolean policy.requireUppercase
    requireLowercase := .boolean policy.requireLowercase
    requireNumber := .boolean policy.requireNumber
    requireSymbol := .boolean policy.requireSymbol
    blockCommonPasswords := .boolean policy.blockCommonPasswords
    minScore := .number policy.minScore
    strengthPosition := policy.strengthPosition }

/-- The password has the least length of the policy. -/
def LongEnough (password : JsString) : Prop :=
  (lengthNumber password).atLeast policy.minLength = true

/-- The password is a common one, and the policy blocks these. -/
def BlocksAsCommon (toLowerCase : JsString → JsString) (password : JsString) :
    Prop :=
  policy.blockCommonPasswords = true ∧
    toLowerCase password ∈ commonPasswords

/-- One point, and one each for four characters more than the minimum, for
three kinds of characters, and for these among sixteen characters. -/
def points (password : JsString) : Nat :=
  let kinds := (Variety.ofPassword password).count
  let longer := (lengthNumber password).atLeast
    (policy.minLength.add (.finite 4))
  1 + longer.toNat + (decide (3 ≤ kinds)).toNat +
    (decide (16 ≤ password.length ∧ 3 ≤ kinds)).toNat

/-- The password meets every rule of the policy. -/
structure Admits (toLowerCase : JsString → JsString) (password : JsString) :
    Prop where
  longEnough : policy.LongEnough password
  kinds : (Variety.ofPassword password).meetsRequirements policy.settings =
    true
  uncommon : ¬ policy.BlocksAsCommon toLowerCase password
  score : (JsNumber.finite (policy.points password)).atLeast policy.minScore =
    true

theorem comparable_minLength : policy.minLength ≠ .nan := by
  intro notNumber
  have positive := policy.positive
  rw [notNumber] at positive
  cases positive

theorem lengthNumber_atLeast (password : JsString) :
    (lengthNumber password).atLeast policy.minLength =
      !(lengthNumber password).lessThan policy.minLength :=
  JsNumber.atLeast_eq_not_lessThan (by simp [lengthNumber])
    policy.comparable_minLength

theorem passwordScore_settings (password : JsString) :
    passwordScore password policy.settings = some (policy.points password) :=
  rfl

/-- What an assessment under the policy says of the password. -/
structure Assesses (toLowerCase : JsString → JsString) (password : JsString)
    (assessment : VaultPasswordAssessment) : Prop where
  meets : policy.enforcement ≠ .off →
    (assessment.meetsPolicy = true ↔ policy.Admits toLowerCase password)
  common : policy.LongEnough password →
    (assessment.label = .common ↔
      policy.BlocksAsCommon toLowerCase password)
  score : policy.LongEnough password →
    ¬ policy.BlocksAsCommon toLowerCase password →
      assessment.score = policy.points password

variable {policy} {toLowerCase : JsString → JsString} {password : JsString}

theorem isText_off (policy : DeclaredPasswordPolicy) :
    policy.settings.enforcement.isText (js "off") =
      decide (policy.enforcement = .off) := by
  rw [Bool.eq_iff_iff, decide_eq_true_iff]
  exact @VaultPasswordEnforcement.isText_iff policy.enforcement .off

theorem assessStrength_settings (longEnough : policy.LongEnough password)
    (uncommon : ¬ policy.BlocksAsCommon toLowerCase password) :
    ∃ assessment, assessStrength password policy.settings =
      some assessment ∧ policy.Assesses toLowerCase password assessment := by
  have minScore (score : JsNumber) :
      policy.settings.minScore.reachedBy score =
        some (score.atLeast policy.minScore) := rfl
  have notCommon : labelOfScore (policy.points password) ≠ .common := by
    unfold labelOfScore
    split
    · decide
    · split <;> decide
  simp only [assessStrength, passwordScore_settings, isText_off, minScore,
    Option.bind_eq_bind, Option.bind_some, Option.pure_def,
    decide_eq_true_eq]
  by_cases isOff : policy.enforcement = .off
  · simp only [isOff, if_true]
    refine ⟨_, rfl, ?_, ?_, ?_⟩
    · intro notOff
      exact absurd isOff notOff
    · intro _
      exact iff_of_false notCommon uncommon
    · intro _ _
      rfl
  · cases kinds : (Variety.ofPassword password).meetsRequirements
        policy.settings with
    | false =>
        simp only [isOff, if_false, Bool.false_eq_true]
        refine ⟨_, rfl, ?_, ?_, ?_⟩
        · intro _
          apply iff_of_false Bool.false_ne_true
          intro admits
          have held := admits.kinds
          rw [kinds] at held
          exact Bool.false_ne_true held
        · intro _
          exact iff_of_false notCommon uncommon
        · intro _ _
          rfl
    | true =>
        simp only [isOff, if_false, if_true]
        refine ⟨_, rfl, ?_, ?_, ?_⟩
        · intro _
          constructor
          · intro score
            exact ⟨longEnough, kinds, uncommon, score⟩
          · intro admits
            exact admits.score
        · intro _
          exact iff_of_false notCommon uncommon
        · intro _ _
          rfl

theorem blocksAsCommon_iff :
    policy.BlocksAsCommon toLowerCase password ↔
      (policy.settings.blockCommonPasswords.truthy &&
        commonPasswords.contains (toLowerCase password)) = true := by
  simp only [BlocksAsCommon, settings, JsValue.truthy, Bool.and_eq_true,
    List.contains_iff_mem]

theorem assessVaultPassword_settings (policy : DeclaredPasswordPolicy)
    (toLowerCase : JsString → JsString) (password : JsString) :
    ∃ assessment, assessVaultPassword toLowerCase password policy.settings =
      some assessment ∧ policy.Assesses toLowerCase password assessment := by
  have minLength : policy.settings.minLength.exceeds (lengthNumber password) =
      some ((lengthNumber password).lessThan policy.minLength) := rfl
  have text : policy.settings.minLength.stringOf =
      some (numberText policy.minLength) := rfl
  have long := policy.lengthNumber_atLeast password
  simp only [assessVaultPassword, minLength, text, Option.bind_eq_bind,
    Option.bind_some]
  cases short : (lengthNumber password).lessThan policy.minLength with
  | true =>
      have notLong : ¬ policy.LongEnough password := by
        rw [LongEnough, long, short]
        exact Bool.false_ne_true
      simp only [if_true]
      refine ⟨_, rfl, ?_, ?_, ?_⟩
      · intro notOff
        simp only [isText_off, decide_eq_true_eq]
        exact iff_of_false notOff fun admits => notLong admits.longEnough
      · intro longEnough
        exact absurd longEnough notLong
      · intro longEnough
        exact absurd longEnough notLong
  | false =>
      have longEnough : policy.LongEnough password := by
        rw [LongEnough, long, short]
        rfl
      simp only [Bool.false_eq_true, if_false]
      by_cases common : policy.BlocksAsCommon toLowerCase password
      · rw [if_pos (blocksAsCommon_iff.mp common)]
        refine ⟨_, rfl, ?_, ?_, ?_⟩
        · intro _
          apply iff_of_false Bool.false_ne_true
          intro admits
          exact admits.uncommon common
        · intro _
          exact iff_of_true rfl common
        · intro _ uncommon
          exact absurd common uncommon
      · rw [if_neg (mt blocksAsCommon_iff.mpr common)]
        exact assessStrength_settings longEnough common

/-! ## The list of requirements -/

def AllMet (items : List VaultPasswordRequirement) : Prop :=
  ∀ item ∈ items, item.met = true

theorem allMet_append {items others : List VaultPasswordRequirement} :
    AllMet (items ++ others) ↔ AllMet items ∧ AllMet others :=
  List.forall_mem_append

theorem allMet_kind_iff {required met : Bool}
    {id : VaultPasswordRequirementId} {label : JsString} :
    AllMet (kindRequirement (.boolean required) id label met) ↔
      (!required || met) = true := by
  cases required <;> simp [AllMet, kindRequirement, JsValue.truthy]

theorem allMet_kinds_iff {variety : Variety} :
    AllMet (kindRequirement policy.settings.requireUppercase .uppercase
        (js "Uppercase letter") variety.upper) ∧
      AllMet (kindRequirement policy.settings.requireLowercase .lowercase
        (js "Lowercase letter") variety.lower) ∧
      AllMet (kindRequirement policy.settings.requireNumber .number
        (js "Number") variety.number) ∧
      AllMet (kindRequirement policy.settings.requireSymbol .symbol
        (js "Symbol") variety.symbol) ↔
      variety.meetsRequirements policy.settings = true := by
  simp only [settings, allMet_kind_iff, Variety.meetsRequirements,
    JsValue.truthy, Bool.and_eq_true]
  tauto

variable {assessment : VaultPasswordAssessment}

theorem allMet_common_iff (nonempty : password ≠ [])
    (longEnough : policy.LongEnough password)
    (assesses : policy.Assesses toLowerCase password assessment) :
    AllMet (commonRequirement password policy.settings assessment) ↔
      ¬ policy.BlocksAsCommon toLowerCase password := by
  have some : 0 < password.length := List.length_pos_iff.mpr nonempty
  rw [← assesses.common longEnough]
  cases blocks : policy.blockCommonPasswords with
  | false =>
      have different : assessment.label ≠ .common := by
        intro common
        have blocked := ((assesses.common longEnough).mp common).1
        rw [blocks] at blocked
        cases blocked
      simp [AllMet, commonRequirement, settings, blocks, JsValue.truthy,
        different]
  | true =>
      simp [AllMet, commonRequirement, settings, blocks, JsValue.truthy, some]

/-- A minimum score that is not positive is always reached. -/
theorem score_of_not_positive {points : Nat}
    (notPositive : (JsNumber.finite 0).lessThan policy.minScore = false) :
    (JsNumber.finite points).atLeast policy.minScore = true := by
  have known := policy.comparable
  rw [JsNumber.atLeast_eq_not_lessThan (by simp) known]
  cases minScore : policy.minScore with
  | nan => exact absurd minScore known
  | infinite negative =>
      rw [minScore] at notPositive
      rw [Bool.not_eq_true']
      exact notPositive
  | finite least =>
      rw [minScore] at notPositive
      simp only [JsNumber.lessThan, decide_eq_false_iff_not, not_lt]
        at notPositive
      simp only [JsNumber.lessThan, Bool.not_eq_true', decide_eq_false_iff_not,
        not_lt]
      exact notPositive.trans (Nat.cast_nonneg points)

theorem minScoreRequirement_settings (longEnough : policy.LongEnough password)
    (assessment : VaultPasswordAssessment) :
    ∃ items, minScoreRequirement password policy.settings assessment =
      some items ∧ (AllMet items ↔
        (JsNumber.finite assessment.score).atLeast policy.minScore =
          true) := by
  have positive : policy.settings.minScore.exceeds (.finite 0) =
      some ((JsNumber.finite 0).lessThan policy.minScore) := rfl
  have reached : policy.settings.minLength.reachedBy (lengthNumber password) =
      some true := congrArg some longEnough
  have text : policy.settings.minScore.stringOf =
      some (numberText policy.minScore) := rfl
  have met : policy.settings.minScore.reachedBy (.finite assessment.score) =
      some ((JsNumber.finite assessment.score).atLeast policy.minScore) := rfl
  simp only [minScoreRequirement, positive, reached, text, met,
    Option.bind_eq_bind, Option.bind_some]
  cases counts : (JsNumber.finite 0).lessThan policy.minScore with
  | false =>
      simp only [Bool.false_eq_true, if_false]
      refine ⟨[], rfl, ?_⟩
      exact iff_of_true (by simp [AllMet]) (score_of_not_positive counts)
  | true =>
      simp only [if_true]
      exact ⟨_, rfl, by simp [AllMet]⟩

theorem minScoreRequirement_some (policy : DeclaredPasswordPolicy)
    (password : JsString) (assessment : VaultPasswordAssessment) :
    ∃ items, minScoreRequirement password policy.settings assessment =
      some items := by
  by_cases longEnough : policy.LongEnough password
  · obtain ⟨items, listed, -⟩ :=
      minScoreRequirement_settings longEnough assessment
    exact ⟨items, listed⟩
  · have positive : policy.settings.minScore.exceeds (.finite 0) =
        some ((JsNumber.finite 0).lessThan policy.minScore) := rfl
    have reached : policy.settings.minLength.reachedBy
        (lengthNumber password) = some false :=
      congrArg some (Bool.eq_false_iff.mpr longEnough)
    simp only [minScoreRequirement, positive, reached, Option.bind_eq_bind,
      Option.bind_some]
    split <;> exact ⟨[], rfl⟩

/-- No requirement fails exactly when the policy admits the password. -/
theorem buildRequirementList_settings (nonempty : password ≠ [])
    (assesses : policy.Assesses toLowerCase password assessment) :
    ∃ requirements, buildRequirementList password policy.settings
        assessment = some requirements ∧
      (requirements.failed = [] ↔ policy.Admits toLowerCase password) := by
  have text : policy.settings.minLength.stringOf =
      some (numberText policy.minLength) := rfl
  have reached : policy.settings.minLength.reachedBy (lengthNumber password) =
      some ((lengthNumber password).atLeast policy.minLength) := rfl
  obtain ⟨items, listed⟩ := minScoreRequirement_some policy password
    assessment
  simp only [buildRequirementList, text, reached, listed, Option.bind_eq_bind,
    Option.bind_some]
  refine ⟨_, rfl, ?_⟩
  have noneFails (candidates : List VaultPasswordRequirement) :
      candidates.filter (fun item => !item.met) = [] ↔ AllMet candidates := by
    simp only [List.filter_eq_nil_iff, Bool.not_eq_true', Bool.not_eq_false,
      AllMet]
  rw [noneFails]
  have minLength {label : JsString} {met : Bool} :
      AllMet [{ id := .minLength, label, met }] ↔ met = true := by
    simp [AllMet]
  simp only [allMet_append, minLength, and_assoc]
  constructor
  · rintro ⟨longEnough, upper, lower, number, symbol, common, score⟩
    have uncommon := (allMet_common_iff nonempty longEnough assesses).mp common
    obtain ⟨others, otherListed, met⟩ :=
      minScoreRequirement_settings longEnough assessment
    obtain rfl := Option.some.inj (listed.symm.trans otherListed)
    rw [assesses.score longEnough uncommon] at met
    exact
      { longEnough
        kinds := allMet_kinds_iff.mp ⟨upper, lower, number, symbol⟩
        uncommon
        score := met.mp score }
  · intro admits
    have common := (allMet_common_iff nonempty admits.longEnough assesses).mpr
      admits.uncommon
    obtain ⟨others, otherListed, met⟩ :=
      minScoreRequirement_settings admits.longEnough assessment
    obtain rfl := Option.some.inj (listed.symm.trans otherListed)
    rw [assesses.score admits.longEnough admits.uncommon] at met
    obtain ⟨upper, lower, number, symbol⟩ := allMet_kinds_iff.mpr admits.kinds
    exact ⟨admits.longEnough, upper, lower, number, symbol, common,
      met.mpr admits.score⟩

/-! ## The two checks -/

/-- A setup form lets a password pass that the policy admits, whatever the
enforcement. -/
theorem validateVaultPasswordSetup_settings
    (toLowerCase : JsString → JsString) (policy : DeclaredPasswordPolicy)
    (nonempty : password ≠ []) :
    ∃ setup, validateVaultPasswordSetup toLowerCase
        { password
          policy := policy.settings
          requireConfirmation := some false } = some setup ∧
      (setup.valid = true ↔ policy.Admits toLowerCase password) ∧
      (setup.password.failedRequirements = [] ↔
        policy.Admits toLowerCase password) := by
  obtain ⟨assessment, assessed, assesses⟩ :=
    policy.assessVaultPassword_settings toLowerCase password
  obtain ⟨requirements, built, noneFails⟩ :=
    buildRequirementList_settings nonempty assesses
  have some : 0 < password.length := List.length_pos_iff.mpr nonempty
  simp only [validateVaultPasswordSetup, validateVaultPasswordAgainstPolicy,
    assessed, built, Option.bind_eq_bind, Option.bind_some, Option.pure_def]
  refine ⟨_, rfl, ?_, noneFails⟩
  simp only [some, decide_true, Bool.true_and, List.length_eq_zero_iff,
    noneFails, isText_off, Bool.and_eq_true, Bool.or_eq_true,
    decide_eq_true_eq]
  constructor
  · exact fun passed => passed.1
  · intro admits
    refine ⟨admits, ?_⟩
    by_cases isOff : policy.enforcement = .off
    · exact .inl isOff
    · exact .inr ((assesses.meets isOff).mpr admits)

/-- A submission is refused under an enforced policy only. -/
theorem validateVaultPasswordForSubmission_settings
    (toLowerCase : JsString → JsString) (policy : DeclaredPasswordPolicy)
    (password : JsString) :
    ∃ submission, validateVaultPasswordForSubmission toLowerCase password
        policy.settings = some submission ∧
      (submission.valid = true ↔ policy.enforcement ≠ .enforce ∨
        policy.Admits toLowerCase password) := by
  obtain ⟨assessment, assessed, assesses⟩ :=
    policy.assessVaultPassword_settings toLowerCase password
  by_cases enforced : policy.enforcement = .enforce
  · have setting : policy.settings.enforcement = .string (js "enforce") := by
      rw [settings, enforced]
      rfl
    refine ⟨_, validateVaultPasswordForSubmission_enforced setting assessed,
      ?_⟩
    have notOff : policy.enforcement ≠ .off := by
      rw [enforced]
      decide
    rw [assesses.meets notOff]
    exact (or_iff_right (not_not.mpr enforced)).symm
  · have setting : policy.settings.enforcement ≠ .string (js "enforce") := by
      intro same
      apply enforced
      apply VaultPasswordEnforcement.isText_iff.mp
      exact JsValue.isText_iff.mpr same
    refine ⟨_, validateVaultPasswordForSubmission_unenforced setting assessed,
      ?_⟩
    exact iff_of_true rfl (.inl enforced)

end DeclaredPasswordPolicy

/-- The setup forms and the submission accept the same, as the messages on the
enforcement say. -/
structure ChecksAgree (policy : DeclaredPasswordPolicy)
    (setup : VaultPasswordSetupValidationResult)
    (submission : SubmissionValidation) : Prop where
  same : setup.valid = true ↔ submission.valid = true
  off : policy.enforcement = .off →
    setup.valid = true ∧ submission.valid = true
  warn : policy.enforcement = .warn →
    setup.valid = true ∧ submission.valid = true
  enforce : policy.enforcement = .enforce →
    (setup.valid = true ↔ setup.password.failedRequirements = [])

/-- For every declared policy and every password that is not empty: the two
checks agree exactly when the policy is enforced or admits the password. -/
theorem password_checks_agree_iff (toLowerCase : JsString → JsString)
    (policy : DeclaredPasswordPolicy) (password : JsString)
    (nonempty : password ≠ []) :
    (∃ setup submission,
      validateVaultPasswordSetup toLowerCase
        { password
          policy := policy.settings
          requireConfirmation := some false } = some setup ∧
      validateVaultPasswordForSubmission toLowerCase password
        policy.settings = some submission ∧
      ChecksAgree policy setup submission) ↔
      policy.enforcement = .enforce ∨
        policy.Admits toLowerCase password := by
  obtain ⟨setup, validated, setupValid, noneFails⟩ :=
    DeclaredPasswordPolicy.validateVaultPasswordSetup_settings toLowerCase
      policy nonempty
  obtain ⟨submission, submitted, submissionValid⟩ :=
    DeclaredPasswordPolicy.validateVaultPasswordForSubmission_settings
      toLowerCase policy password
  constructor
  · rintro ⟨otherSetup, otherSubmission, again, submittedAgain, agree⟩
    obtain rfl := Option.some.inj (validated.symm.trans again)
    obtain rfl := Option.some.inj (submitted.symm.trans submittedAgain)
    by_cases enforced : policy.enforcement = .enforce
    · exact .inl enforced
    · exact .inr (setupValid.mp (agree.same.mpr
        (submissionValid.mpr (.inl enforced))))
  · intro condition
    refine ⟨setup, submission, validated, submitted, ?_⟩
    have admits : policy.enforcement ≠ .enforce →
        policy.Admits toLowerCase password :=
      fun unenforced => condition.resolve_left unenforced
    have bothPass (unenforced : policy.enforcement ≠ .enforce) :
        setup.valid = true ∧ submission.valid = true :=
      ⟨setupValid.mpr (admits unenforced),
        submissionValid.mpr (.inl unenforced)⟩
    constructor
    case same =>
      rw [setupValid, submissionValid]
      constructor
      · exact .inr
      · exact fun passes => passes.elim admits id
    case off =>
      intro isOff
      exact bothPass (by rw [isOff]; decide)
    case warn =>
      intro isWarn
      exact bothPass (by rw [isWarn]; decide)
    case enforce =>
      intro _
      rw [setupValid, noneFails]

namespace Reference

/-- The policy of the tests, with the given enforcement. -/
def passwordPolicy (enforcement : VaultPasswordEnforcement) :
    DeclaredPasswordPolicy :=
  { enforcement
    minLength := .finite 12
    positive := by decide +kernel
    requireUppercase := true
    requireLowercase := true
    requireNumber := true
    requireSymbol := true
    blockCommonPasswords := true
    minScore := .finite 2
    comparable := by decide
    strengthPosition := .string (js "below") }

end Reference

open Reference in
/-- Under an enforced policy the checks agree. -/
theorem password_checks_agree_iff_enforced :
    (∃ setup submission,
      validateVaultPasswordSetup id
        { password := js "short"
          policy := (passwordPolicy .enforce).settings
          requireConfirmation := some false } = some setup ∧
      validateVaultPasswordForSubmission id (js "short")
        (passwordPolicy .enforce).settings = some submission ∧
      ChecksAgree (passwordPolicy .enforce) setup submission) ↔
      (passwordPolicy .enforce).enforcement = .enforce ∨
        (passwordPolicy .enforce).Admits id (js "short") :=
  password_checks_agree_iff id (passwordPolicy .enforce) (js "short")
    (by decide)

open Reference in
/-- With a warning only, the setup form refuses what a submission accepts. -/
theorem weak_password_refused_by_setup :
    (validateVaultPasswordSetup id
        { password := js "short"
          policy := (passwordPolicy .warn).settings
          requireConfirmation := some false }).map
        VaultPasswordSetupValidationResult.valid = some false ∧
      (validateVaultPasswordForSubmission id (js "short")
        (passwordPolicy .warn).settings).map SubmissionValidation.valid =
          some true ∧
      getVaultPasswordEnforcementMessage (passwordPolicy .warn).settings =
        some (js ("Policy feedback is shown; weak passwords are allowed " ++
          "(enforcement: warn).")) := by
  refine ⟨by decide +kernel, by decide +kernel, by decide +kernel⟩

end VaultCore
