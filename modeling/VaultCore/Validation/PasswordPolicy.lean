import VaultCore.Admin.Config

/-!
# The password policy

The assessment compares with the settings as they are stored, so a setting of
the wrong type is converted the way the language converts it.
-/

namespace VaultCore

open Admin

inductive VaultPasswordStrengthLabel where
  | tooShort
  | common
  | weak
  | okay
  | strong
deriving DecidableEq

/-- The score of a password, with what to improve. -/
structure VaultPasswordAssessment where
  score : Nat
  label : VaultPasswordStrengthLabel
  messages : List JsString
  meetsPolicy : Bool

/-- `COMMON_PASSWORDS` -/
def commonPasswords : List JsString :=
  [js "password", js "password1", js "123456", js "12345678", js "123456789",
    js "qwerty", js "abc123", js "letmein", js "welcome", js "monkey",
    js "dragon", js "master", js "login", js "princess", js "football",
    js "shadow", js "sunshine", js "iloveyou", js "admin", js "passw0rd"]

/-- `/[a-z]/` -/
def isLowerUnit (unit : UInt16) : Bool := 97 ≤ unit.toNat && unit.toNat ≤ 122

/-- `/[A-Z]/` -/
def isUpperUnit (unit : UInt16) : Bool := 65 ≤ unit.toNat && unit.toNat ≤ 90

/-- `/[0-9]/` -/
def isDigitUnit (unit : UInt16) : Bool := 48 ≤ unit.toNat && unit.toNat ≤ 57

/-- `/[^A-Za-z0-9]/` -/
def isSymbolUnit (unit : UInt16) : Bool :=
  !(isUpperUnit unit || isLowerUnit unit || isDigitUnit unit)

/-- Which kinds of characters a password has. -/
structure Variety where
  lower : Bool
  upper : Bool
  number : Bool
  symbol : Bool

namespace Variety

/-- The kinds of characters in a password. -/
def ofPassword (password : JsString) : Variety :=
  { lower := password.any isLowerUnit
    upper := password.any isUpperUnit
    number := password.any isDigitUnit
    symbol := password.any isSymbolUnit }

def count (variety : Variety) : Nat :=
  [variety.lower, variety.upper, variety.number, variety.symbol].count true

/-- Every required kind is there. -/
def meetsRequirements (variety : Variety) (policy : VaultAdminPasswordPolicy) :
    Bool :=
  (!policy.requireLowercase.truthy || variety.lower) &&
    (!policy.requireUppercase.truthy || variety.upper) &&
    (!policy.requireNumber.truthy || variety.number) &&
    (!policy.requireSymbol.truthy || variety.symbol)

/-- The required kinds that the password lacks. -/
def requirementMessages (variety : Variety)
    (policy : VaultAdminPasswordPolicy) : List JsString :=
  (if policy.requireLowercase.truthy && !variety.lower then
    [js "Add a lowercase letter."] else []) ++
  (if policy.requireUppercase.truthy && !variety.upper then
    [js "Add an uppercase letter."] else []) ++
  (if policy.requireNumber.truthy && !variety.number then
    [js "Add a number."] else []) ++
  (if policy.requireSymbol.truthy && !variety.symbol then
    [js "Add a symbol."] else [])

end Variety

/-- The label of a password that is long enough and not common. -/
def labelOfScore (score : Nat) : VaultPasswordStrengthLabel :=
  if score ≤ 1 then .weak else if score = 2 then .okay else .strong

/-- The advice for a label. -/
def labelMessages : VaultPasswordStrengthLabel → List JsString
  | .weak => [js "Try a longer passphrase with mixed character types."]
  | .okay =>
      [js "This password is okay. A longer passphrase would be stronger."]
  | _ => []

def lengthNumber (password : JsString) : JsNumber := .finite password.length

/-- The score of a password that is long enough and not common. -/
def passwordScore (password : JsString) (policy : VaultAdminPasswordPolicy) :
    Option Nat := do
  let variety := (Variety.ofPassword password).count
  let longer ← policy.minLength.plus (.finite 4)
  let isLonger ← longer.reachedBy (lengthNumber password)
  pure (1 + isLonger.toNat + (decide (3 ≤ variety)).toNat +
    (decide (16 ≤ password.length ∧ 3 ≤ variety)).toNat)

/-- The rest of the assessment. -/
def assessStrength (password : JsString) (policy : VaultAdminPasswordPolicy) :
    Option VaultPasswordAssessment := do
  let variety := Variety.ofPassword password
  let score ← passwordScore password policy
  let label := labelOfScore score
  let meetsPolicy ←
    if policy.enforcement.isText (js "off") then some true
    else if variety.meetsRequirements policy then
      policy.minScore.reachedBy (.finite score)
    else some false
  pure
    { score := score
      label := label
      messages := variety.requirementMessages policy ++ labelMessages label
      meetsPolicy := meetsPolicy }

/-- No result is a type error of a conversion. -/
def assessVaultPassword (toLowerCase : JsString → JsString)
    (password : JsString) (policy : VaultAdminPasswordPolicy) :
    Option VaultPasswordAssessment := do
  let tooShort ← policy.minLength.exceeds (lengthNumber password)
  if tooShort then do
    let minLength ← policy.minLength.stringOf
    pure
      { score := 0
        label := .tooShort
        messages := [js "Use at least " ++ minLength ++ js " characters."]
        meetsPolicy := policy.enforcement.isText (js "off") }
  else if policy.blockCommonPasswords.truthy &&
      commonPasswords.contains (toLowerCase password) then
    pure
      { score := 0
        label := .common
        messages :=
          [js "This password is too common. Choose something more unique."]
        meetsPolicy := false }
  else assessStrength password policy

/-- Whether a password may be submitted, and why not. -/
structure SubmissionValidation where
  valid : Bool
  assessment : VaultPasswordAssessment

def validateVaultPasswordForSubmission (toLowerCase : JsString → JsString)
    (password : JsString) (policy : VaultAdminPasswordPolicy) :
    Option SubmissionValidation := do
  let assessment ← assessVaultPassword toLowerCase password policy
  if policy.enforcement.isText (js "enforce") then
    pure { valid := assessment.meetsPolicy, assessment := assessment }
  else pure { valid := true, assessment := assessment }

/-- Under a policy that is enforced, a submission is as valid as its
assessment says. -/
theorem validateVaultPasswordForSubmission_enforced
    {toLowerCase : JsString → JsString} {password : JsString}
    {policy : VaultAdminPasswordPolicy} {assessment : VaultPasswordAssessment}
    (enforced : policy.enforcement = .string (js "enforce"))
    (assessed : assessVaultPassword toLowerCase password policy =
      some assessment) :
    validateVaultPasswordForSubmission toLowerCase password policy =
      some { valid := assessment.meetsPolicy, assessment := assessment } := by
  have isEnforced := JsValue.isText_iff.mpr enforced
  simp only [validateVaultPasswordForSubmission, assessed, isEnforced,
    ↓reduceIte, Option.pure_def, Option.bind_eq_bind, Option.bind_some]

theorem validateVaultPasswordForSubmission_unenforced
    {toLowerCase : JsString → JsString} {password : JsString}
    {policy : VaultAdminPasswordPolicy} {assessment : VaultPasswordAssessment}
    (unenforced : policy.enforcement ≠ .string (js "enforce"))
    (assessed : assessVaultPassword toLowerCase password policy =
      some assessment) :
    validateVaultPasswordForSubmission toLowerCase password policy =
      some { valid := true, assessment := assessment } := by
  have notEnforced : policy.enforcement.isText (js "enforce") = false := by
    cases held : policy.enforcement.isText (js "enforce") with
    | false => rfl
    | true => exact absurd (JsValue.isText_iff.mp held) unenforced
  simp only [validateVaultPasswordForSubmission, assessed, notEnforced,
    Bool.false_eq_true, ↓reduceIte, Option.pure_def, Option.bind_eq_bind,
    Option.bind_some]

end VaultCore
