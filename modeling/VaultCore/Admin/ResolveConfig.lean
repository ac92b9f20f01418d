import VaultCore.Admin.EnvParse
import VaultCore.Data.OrderedMap

/-!
# Resolving the configuration

An override wins over the environment, and the environment over the default.
The values of overrides are stored as they were given, except for the length of
the recovery phrase.
-/

namespace VaultCore

namespace Admin

/-- The stored values by their keys. -/
abbrev Overrides := OrderedMap JsString JsValue

/-- One case of the switch over the keys. -/
def storeOverride (config : VaultAdminConfig) (rawValue : JsValue) :
    VaultOverridableConfigKey → Except ConfigError VaultAdminConfig
  | .enabled =>
      pure { config with
        enabled := rawValue
        features := { config.features with adminEnabled := rawValue } }
  | .basePath => pure { config with basePath := rawValue }
  | .prfSaltPrefix => pure { config with prfSaltPrefix := rawValue }
  | .defaultRecoveryWordCount =>
      match rawValue.numberOf with
      | none => throw .typeError
      | some count =>
          pure { config with
            defaultRecoveryWordCount := wordCountValue
              (if count = .finite 12 then .twelve else .twentyFour) }
  | .autoLockMinutes =>
      pure { config with
        session := { config.session with autoLockMinutes := rawValue } }
  | .passwordEnforcement =>
      pure { config with
        passwordPolicy := { config.passwordPolicy with enforcement := rawValue } }
  | .passwordMinLength =>
      pure { config with
        passwordPolicy := { config.passwordPolicy with minLength := rawValue } }
  | .passwordRequireUppercase =>
      pure { config with
        passwordPolicy :=
          { config.passwordPolicy with requireUppercase := rawValue } }
  | .passwordRequireLowercase =>
      pure { config with
        passwordPolicy :=
          { config.passwordPolicy with requireLowercase := rawValue } }
  | .passwordRequireNumber =>
      pure { config with
        passwordPolicy :=
          { config.passwordPolicy with requireNumber := rawValue } }
  | .passwordRequireSymbol =>
      pure { config with
        passwordPolicy :=
          { config.passwordPolicy with requireSymbol := rawValue } }
  | .passwordBlockCommonPasswords =>
      pure { config with
        passwordPolicy :=
          { config.passwordPolicy with blockCommonPasswords := rawValue } }
  | .passwordMinScore =>
      pure { config with
        passwordPolicy := { config.passwordPolicy with minScore := rawValue } }
  | .passwordStrengthPosition =>
      pure { config with
        passwordPolicy :=
          { config.passwordPolicy with strengthPosition := rawValue } }
  | .passkeyPrfUnlockEnabled =>
      pure { config with
        features := { config.features with passkeyPrfUnlockEnabled := rawValue } }
  | .emergencyModeEnabled =>
      pure { config with
        features := { config.features with emergencyModeEnabled := rawValue } }
  | .unlockMaxFailures =>
      pure { config with
        rateLimit := { config.rateLimit with unlockMaxFailures := rawValue } }
  | .unlockFailureWindowMinutes =>
      pure { config with
        rateLimit :=
          { config.rateLimit with unlockFailureWindowMinutes := rawValue } }
  | .unlockLockoutMinutes =>
      pure { config with
        rateLimit := { config.rateLimit with unlockLockoutMinutes := rawValue } }
  | .apiMaxRequests =>
      pure { config with
        rateLimit := { config.rateLimit with apiMaxRequests := rawValue } }
  | .apiWindowSeconds =>
      pure { config with
        rateLimit := { config.rateLimit with apiWindowSeconds := rawValue } }

/-- One override: validated, and written over the configuration. -/
def applyOverride (config : VaultAdminConfig) (entry : JsString × JsValue) :
    Except ConfigError VaultAdminConfig := do
  validateVaultAdminOverride entry.1 entry.2
  match overridableConfigKey entry.1 with
  | some key => storeOverride config entry.2 key
  | none => pure config

/-- The loop over the entries, in their order. -/
def applyEntries (config : VaultAdminConfig) :
    List (JsString × JsValue) → Except ConfigError VaultAdminConfig
  | [] => pure config
  | entry :: entries => do
      let next ← applyOverride config entry
      applyEntries next entries

/-- All overrides in their order, on a copy of the configuration. -/
def applyVaultAdminOverrides (config : VaultAdminConfig)
    (overrides : Overrides) : Except ConfigError VaultAdminConfig :=
  if overrides.size = 0 then pure config
  else applyEntries config overrides.entries

/-- What an application builds its configuration from; a member that is missing
has a default. -/
structure VaultAdminConfigInput where
  env : Option Env := none
  profile : Option VaultCryptoProfile := none
  prfSaltPrefix : Option JsString := none
  productName : Option JsString := none
  defaultRecoveryWordCount : Option RecoveryPhraseWordCount := none
  adminOverrides : Option Overrides := none

def defaultAutoLockMinutes : ℤ := 15

def autoLockMinutesBounds : IntBounds := { min := 1, max := 24 * 60 }

/-- The public variable, or the other one if that is not set. -/
def readAutoLockMinutes (env : Env) : Except ConfigError ℤ :=
  let raw := (env (js "NEXT_PUBLIC_VAULT_AUTO_LOCK_MINUTES")).orElse fun _ =>
    env (js "VAULT_AUTO_LOCK_MINUTES")
  match raw with
  | none => pure defaultAutoLockMinutes
  | some raw =>
      if trim raw = [] then pure defaultAutoLockMinutes
      else do
        let minutes ← readInteger raw
          (js "VAULT auto-lock minutes must be an integer")
        if (minutes : ℚ) < autoLockMinutesBounds.min ∨
            autoLockMinutesBounds.max < (minutes : ℚ) then
          throw (.error
            (js "VAULT auto-lock minutes must be between 1 and 1440"))
        else pure minutes

/-- The variable for the length of a phrase, or the fallback. -/
def readRecoveryWordCount (env : Env) (fallback : RecoveryPhraseWordCount) :
    Except ConfigError RecoveryPhraseWordCount :=
  match envValue env (js "VAULT_DEFAULT_RECOVERY_WORD_COUNT") with
  | none => pure fallback
  | some raw =>
      if numberOfText raw = .finite 12 then pure .twelve
      else if numberOfText raw = .finite 24 then pure .twentyFour
      else
        throw (.error (js "VAULT_DEFAULT_RECOVERY_WORD_COUNT must be 12 or 24"))

/-- The profile, from the input or the environment. -/
def resolveProfile (input : VaultAdminConfigInput) (env : Env) :
    VaultCryptoProfile :=
  input.profile.getD
    { aadContextVault := readStringEnv env (js "VAULT_AAD_CONTEXT_VAULT")
        (js "app:vault:v1")
      aadContextEnvelope := readStringEnv env (js "VAULT_AAD_CONTEXT_ENVELOPE")
        (js "app:vault-envelope:v1") }

/-- The length that the input gives wins over the variable. -/
def resolveRecoveryWordCount (input : VaultAdminConfigInput) (env : Env) :
    Except ConfigError RecoveryPhraseWordCount :=
  match input.defaultRecoveryWordCount with
  | some wordCount => pure wordCount
  | none => readRecoveryWordCount env .twentyFour

section Resolve

variable (toLowerCase : JsString → JsString)

def resolvePasswordPolicy (env : Env) :
    Except ConfigError VaultAdminPasswordPolicy := do
  let enforcement ← readEnumEnv env (js "VAULT_PASSWORD_ENFORCEMENT")
    [js "off", js "warn", js "enforce"] (js "enforce")
  let minLength ← readIntEnv env (js "VAULT_PASSWORD_MIN_LENGTH") 12
    { min := 1, max := 128 }
  let requireUppercase ← readBoolEnv toLowerCase env
    (js "VAULT_PASSWORD_REQUIRE_UPPERCASE") true
  let requireLowercase ← readBoolEnv toLowerCase env
    (js "VAULT_PASSWORD_REQUIRE_LOWERCASE") true
  let requireNumber ← readBoolEnv toLowerCase env
    (js "VAULT_PASSWORD_REQUIRE_NUMBER") true
  let requireSymbol ← readBoolEnv toLowerCase env
    (js "VAULT_PASSWORD_REQUIRE_SYMBOL") true
  let blockCommonPasswords ← readBoolEnv toLowerCase env
    (js "VAULT_PASSWORD_BLOCK_COMMON_PASSWORDS") true
  let minScore ← readIntEnv env (js "VAULT_PASSWORD_MIN_SCORE") 2
    { min := 0, max := 4 }
  let strengthPosition ← readEnumEnv env
    (js "VAULT_PASSWORD_STRENGTH_POSITION") [js "above", js "below"]
    (js "below")
  pure
    { enforcement := .string enforcement
      minLength := .number (.finite minLength)
      requireUppercase := .boolean requireUppercase
      requireLowercase := .boolean requireLowercase
      requireNumber := .boolean requireNumber
      requireSymbol := .boolean requireSymbol
      blockCommonPasswords := .boolean blockCommonPasswords
      minScore := .number (.finite minScore)
      strengthPosition := .string strengthPosition }

def resolveRateLimit (env : Env) :
    Except ConfigError VaultAdminRateLimitConfig := do
  let unlockMaxFailures ← readIntEnv env (js "VAULT_UNLOCK_MAX_FAILURES") 5
    { min := 1, max := 100 }
  let unlockFailureWindowMinutes ← readIntEnv env
    (js "VAULT_UNLOCK_FAILURE_WINDOW_MINUTES") 15 { min := 1, max := 24 * 60 }
  let unlockLockoutMinutes ← readIntEnv env
    (js "VAULT_UNLOCK_LOCKOUT_MINUTES") 30 { min := 1, max := 24 * 60 }
  let apiMaxRequests ← readIntEnv env (js "VAULT_API_RATE_LIMIT_MAX_REQUESTS")
    120 { min := 1, max := 10000 }
  let apiWindowSeconds ← readIntEnv env
    (js "VAULT_API_RATE_LIMIT_WINDOW_SECONDS") 60 { min := 1, max := 3600 }
  pure
    { unlockMaxFailures := .number (.finite unlockMaxFailures)
      unlockFailureWindowMinutes :=
        .number (.finite unlockFailureWindowMinutes)
      unlockLockoutMinutes := .number (.finite unlockLockoutMinutes)
      apiMaxRequests := .number (.finite apiMaxRequests)
      apiWindowSeconds := .number (.finite apiWindowSeconds) }

def resolveFeatures (env : Env) :
    Except ConfigError VaultAdminFeatureFlags := do
  let adminEnabled ← readBoolEnv toLowerCase env (js "VAULT_ADMIN_ENABLED")
    false
  let passkeyPrfUnlockEnabled ← readBoolEnv toLowerCase env
    (js "VAULT_PASSKEY_PRF_UNLOCK_ENABLED") true
  let emergencyModeEnabled ← readBoolEnv toLowerCase env
    (js "VAULT_EMERGENCY_MODE_ENABLED") false
  pure
    { adminEnabled := .boolean adminEnabled
      passkeyPrfUnlockEnabled := .boolean passkeyPrfUnlockEnabled
      emergencyModeEnabled := .boolean emergencyModeEnabled
      recoveryPhrase12WordSupported := .boolean true
      recoveryPhrase24WordSupported := .boolean true }

/-- The configuration before the overrides. -/
def resolveBaseConfig (input : VaultAdminConfigInput) :
    Except ConfigError VaultAdminConfig := do
  let env := input.env.getD fun _ => none
  let prfSaltPrefix := input.prfSaltPrefix.getD
    (readStringEnv env (js "VAULT_PRF_SALT_PREFIX") (js "app-passkey-prf-v1:"))
  let defaultRecoveryWordCount ← resolveRecoveryWordCount input env
  let enabled ← readBoolEnv toLowerCase env (js "VAULT_ADMIN_ENABLED") false
  let passwordPolicy ← resolvePasswordPolicy toLowerCase env
  let autoLockMinutes ← readAutoLockMinutes env
  let rateLimit ← resolveRateLimit env
  let features ← resolveFeatures toLowerCase env
  pure
    { enabled := .boolean enabled
      basePath := .string
        (readStringEnv env (js "VAULT_ADMIN_PATH") (js "/admin/vault"))
      productName := .string (input.productName.getD
        (readStringEnv env (js "APP_NAME") (js "Vault App")))
      profile := resolveProfile input env
      prfSaltPrefix := .string prfSaltPrefix
      defaultRecoveryWordCount := wordCountValue defaultRecoveryWordCount
      passwordPolicy := passwordPolicy
      session := { autoLockMinutes := .number (.finite autoLockMinutes) }
      rateLimit := rateLimit
      features := features }

/-- The variables first, and the overrides over them. -/
def buildVaultAdminConfigFromEnv (input : VaultAdminConfigInput) :
    Except ConfigError VaultAdminConfig := do
  let baseConfig ← resolveBaseConfig toLowerCase input
  applyVaultAdminOverrides baseConfig (input.adminOverrides.getD .empty)

end Resolve

end Admin

end VaultCore
