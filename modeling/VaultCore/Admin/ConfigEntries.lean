import VaultCore.Admin.ResolveConfig
import VaultCore.Crypto.AesGcm

/-!
# The entries of the configuration

An entry shows one setting with the place its value is said to come from.
-/

namespace VaultCore

namespace Admin

/-- Where the value of an entry comes from. -/
inductive VaultAdminEnvSource where
  | admin
  | env
  | default
  | profile
deriving DecidableEq

inductive VaultAdminConfigGroup where
  | admin
  | cryptoProfile
  | session
  | passwordPolicy
  | rateLimit
  | features
deriving DecidableEq

/-- The keys that are shown; four of them cannot be overridden. -/
inductive VaultConfigKey where
  | overridable (key : VaultOverridableConfigKey)
  | aadContextVault
  | aadContextEnvelope
  | recommendedKdfVersion
  | encryptionAlgorithm
deriving DecidableEq

/-- The key as the source spells it. -/
def VaultConfigKey.name : VaultConfigKey → JsString
  | .overridable key => key.name
  | .aadContextVault => js "aadContextVault"
  | .aadContextEnvelope => js "aadContextEnvelope"
  | .recommendedKdfVersion => js "recommendedKdfVersion"
  | .encryptionAlgorithm => js "encryptionAlgorithm"

/-- The fields of a key's definition that are shown. -/
structure VaultConfigKeyDisplay where
  key : VaultConfigKey
  envVar : Option JsString
  label : JsString
  description : JsString
  group : VaultAdminConfigGroup
  overridable : Bool

/-- The row of a key in the table of definitions: label, description, group and
variable. -/
def vaultConfigKeyDisplay : VaultConfigKey → VaultConfigKeyDisplay
  | .overridable .enabled =>
      { key := .overridable .enabled
        envVar := some (js "VAULT_ADMIN_ENABLED")
        label := js "Vault admin enabled"
        description :=
          js "Whether vault admin routes are enabled in the consuming " ++
            js "app."
        group := .admin
        overridable := true }
  | .overridable .basePath =>
      { key := .overridable .basePath
        envVar := some (js "VAULT_ADMIN_PATH")
        label := js "Admin base path"
        description := js "Mount path for vault admin pages."
        group := .admin
        overridable := true }
  | .aadContextVault =>
      { key := .aadContextVault
        envVar := some (js "VAULT_AAD_CONTEXT_VAULT")
        label := js "Vault AAD context"
        description :=
          js "Additional authenticated data context for vault payloads. " ++
            js "Set via env at deploy time — not overridable at runtime."
        group := .cryptoProfile
        overridable := false }
  | .aadContextEnvelope =>
      { key := .aadContextEnvelope
        envVar := some (js "VAULT_AAD_CONTEXT_ENVELOPE")
        label := js "Envelope AAD context"
        description :=
          js "Additional authenticated data context for key envelopes. " ++
            js "Set via env at deploy time — not overridable at runtime."
        group := .cryptoProfile
        overridable := false }
  | .overridable .prfSaltPrefix =>
      { key := .overridable .prfSaltPrefix
        envVar := some (js "VAULT_PRF_SALT_PREFIX")
        label := js "PRF salt prefix"
        description := js "Passkey PRF salt prefix for vault unlock."
        group := .cryptoProfile
        overridable := true }
  | .overridable .defaultRecoveryWordCount =>
      { key := .overridable .defaultRecoveryWordCount
        envVar := some (js "VAULT_DEFAULT_RECOVERY_WORD_COUNT")
        label := js "Default recovery word count"
        description := js "Default BIP39 phrase length for new vaults."
        group := .cryptoProfile
        overridable := true }
  | .overridable .autoLockMinutes =>
      { key := .overridable .autoLockMinutes
        envVar := some (js "NEXT_PUBLIC_VAULT_AUTO_LOCK_MINUTES")
        label := js "Auto-lock minutes"
        description := js "Inactivity duration before the vault locks."
        group := .session
        overridable := true }
  | .overridable .passwordEnforcement =>
      { key := .overridable .passwordEnforcement
        envVar := some (js "VAULT_PASSWORD_ENFORCEMENT")
        label := js "Password enforcement"
        description := js "Vault password policy enforcement mode."
        group := .passwordPolicy
        overridable := true }
  | .overridable .passwordMinLength =>
      { key := .overridable .passwordMinLength
        envVar := some (js "VAULT_PASSWORD_MIN_LENGTH")
        label := js "Password min length"
        description := js "Minimum vault password length."
        group := .passwordPolicy
        overridable := true }
  | .overridable .passwordRequireUppercase =>
      { key := .overridable .passwordRequireUppercase
        envVar := some (js "VAULT_PASSWORD_REQUIRE_UPPERCASE")
        label := js "Require uppercase"
        description :=
          js "Require at least one uppercase letter in the vault " ++
            js "password."
        group := .passwordPolicy
        overridable := true }
  | .overridable .passwordRequireLowercase =>
      { key := .overridable .passwordRequireLowercase
        envVar := some (js "VAULT_PASSWORD_REQUIRE_LOWERCASE")
        label := js "Require lowercase"
        description :=
          js "Require at least one lowercase letter in the vault " ++
            js "password."
        group := .passwordPolicy
        overridable := true }
  | .overridable .passwordRequireNumber =>
      { key := .overridable .passwordRequireNumber
        envVar := some (js "VAULT_PASSWORD_REQUIRE_NUMBER")
        label := js "Require number"
        description := js "Require at least one digit in the vault password."
        group := .passwordPolicy
        overridable := true }
  | .overridable .passwordRequireSymbol =>
      { key := .overridable .passwordRequireSymbol
        envVar := some (js "VAULT_PASSWORD_REQUIRE_SYMBOL")
        label := js "Require symbol"
        description := js "Require at least one symbol in the vault password."
        group := .passwordPolicy
        overridable := true }
  | .overridable .passwordBlockCommonPasswords =>
      { key := .overridable .passwordBlockCommonPasswords
        envVar := some (js "VAULT_PASSWORD_BLOCK_COMMON_PASSWORDS")
        label := js "Block common passwords"
        description :=
          js "Reject commonly used passwords for the vault password."
        group := .passwordPolicy
        overridable := true }
  | .overridable .passwordMinScore =>
      { key := .overridable .passwordMinScore
        envVar := some (js "VAULT_PASSWORD_MIN_SCORE")
        label := js "Password min score"
        description := js "Minimum vault password strength score."
        group := .passwordPolicy
        overridable := true }
  | .overridable .passwordStrengthPosition =>
      { key := .overridable .passwordStrengthPosition
        envVar := some (js "VAULT_PASSWORD_STRENGTH_POSITION")
        label := js "Strength meter position"
        description :=
          js "Where the vault password strength meter appears relative " ++
            js "to the input."
        group := .passwordPolicy
        overridable := true }
  | .overridable .passkeyPrfUnlockEnabled =>
      { key := .overridable .passkeyPrfUnlockEnabled
        envVar := some (js "VAULT_PASSKEY_PRF_UNLOCK_ENABLED")
        label := js "Passkey PRF unlock"
        description := js "Whether passkey PRF unlock is enabled."
        group := .features
        overridable := true }
  | .overridable .emergencyModeEnabled =>
      { key := .overridable .emergencyModeEnabled
        envVar := some (js "VAULT_EMERGENCY_MODE_ENABLED")
        label := js "Emergency mode"
        description :=
          js "Whether emergency/duress mode is enabled. Disabled by " ++
            js "default and hidden from consumer UI when off."
        group := .features
        overridable := true }
  | .overridable .unlockMaxFailures =>
      { key := .overridable .unlockMaxFailures
        envVar := some (js "VAULT_UNLOCK_MAX_FAILURES")
        label := js "Unlock max failures"
        description :=
          js "Failed unlock attempts allowed per scope before lockout."
        group := .rateLimit
        overridable := true }
  | .overridable .unlockFailureWindowMinutes =>
      { key := .overridable .unlockFailureWindowMinutes
        envVar := some (js "VAULT_UNLOCK_FAILURE_WINDOW_MINUTES")
        label := js "Unlock failure window (minutes)"
        description := js "Rolling window for counting failed unlock attempts."
        group := .rateLimit
        overridable := true }
  | .overridable .unlockLockoutMinutes =>
      { key := .overridable .unlockLockoutMinutes
        envVar := some (js "VAULT_UNLOCK_LOCKOUT_MINUTES")
        label := js "Unlock lockout (minutes)"
        description :=
          js "Lockout duration after exceeding failed unlock attempts."
        group := .rateLimit
        overridable := true }
  | .overridable .apiMaxRequests =>
      { key := .overridable .apiMaxRequests
        envVar := some (js "VAULT_API_RATE_LIMIT_MAX_REQUESTS")
        label := js "API max requests"
        description :=
          js "Maximum vault HTTP API requests per client key per window."
        group := .rateLimit
        overridable := true }
  | .overridable .apiWindowSeconds =>
      { key := .overridable .apiWindowSeconds
        envVar := some (js "VAULT_API_RATE_LIMIT_WINDOW_SECONDS")
        label := js "API rate limit window (seconds)"
        description :=
          js "Fixed window length for vault HTTP API rate limiting."
        group := .rateLimit
        overridable := true }
  | .recommendedKdfVersion =>
      { key := .recommendedKdfVersion
        envVar := none
        label := js "Recommended KDF version"
        description :=
          js "KDF version used for new envelopes and auto-upgrade " ++
            js "targets."
        group := .cryptoProfile
        overridable := false }
  | .encryptionAlgorithm =>
      { key := .encryptionAlgorithm
        envVar := none
        label := js "Encryption algorithm"
        description := js "Symmetric encryption algorithm for vault payloads."
        group := .cryptoProfile
        overridable := false }

/-- The keys of `VAULT_CONFIG_KEY_DEFINITIONS`, in their order. -/
def vaultConfigKeys : List VaultConfigKey :=
  [.overridable .enabled, .overridable .basePath, .aadContextVault,
    .aadContextEnvelope, .overridable .prfSaltPrefix,
    .overridable .defaultRecoveryWordCount, .overridable .autoLockMinutes,
    .overridable .passwordEnforcement, .overridable .passwordMinLength,
    .overridable .passwordRequireUppercase,
    .overridable .passwordRequireLowercase, .overridable .passwordRequireNumber,
    .overridable .passwordRequireSymbol,
    .overridable .passwordBlockCommonPasswords, .overridable .passwordMinScore,
    .overridable .passwordStrengthPosition,
    .overridable .passkeyPrfUnlockEnabled, .overridable .emergencyModeEnabled,
    .overridable .unlockMaxFailures, .overridable .unlockFailureWindowMinutes,
    .overridable .unlockLockoutMinutes, .overridable .apiMaxRequests,
    .overridable .apiWindowSeconds, .recommendedKdfVersion,
    .encryptionAlgorithm]

theorem vaultConfigKeys_names :
    vaultConfigKeys.map VaultConfigKey.name =
      vaultConfigKeyDefinitions.map VaultConfigKeyDefinition.key := by
  rfl

theorem mem_vaultConfigKeys (shown : VaultConfigKey) :
    shown ∈ vaultConfigKeys := by
  cases shown with
  | overridable key => cases key <;> decide
  | aadContextVault => decide
  | aadContextEnvelope => decide
  | recommendedKdfVersion => decide
  | encryptionAlgorithm => decide

/-- One line of the listing. -/
structure VaultAdminConfigEntry where
  key : VaultConfigKey
  envVar : Option JsString
  label : JsString
  description : JsString
  group : VaultAdminConfigGroup
  value : JsValue
  source : VaultAdminEnvSource
  overridable : Bool

/-- `VAULT_CRYPTO_POLICY.kdf.version` -/
def recommendedKdfVersion : JsString := js "kdf-v2"

def nextPublicAutoLockMinutes : JsString :=
  js "NEXT_PUBLIC_VAULT_AUTO_LOCK_MINUTES"

def vaultAutoLockMinutes : JsString := js "VAULT_AUTO_LOCK_MINUTES"

/-- A variable that is set to more than white space. -/
def hasEnvValue (env : Env) (key : JsString) : Bool :=
  match env key with
  | none => false
  | some raw => trim raw != []

/-- An override wins over a variable, and a variable over the default. -/
def sourceFor (env : Env) (adminOverrides : Overrides) (key : VaultConfigKey)
    (envVar : Option JsString) : VaultAdminEnvSource :=
  let envHasAutoLock := hasEnvValue env nextPublicAutoLockMinutes ||
    hasEnvValue env vaultAutoLockMinutes
  if (adminOverrides.get? key.name).isSome then .admin
  else if envVar = some nextPublicAutoLockMinutes ∧ envHasAutoLock then .env
  else if envVar.any (hasEnvValue env) then .env
  else if (key = .aadContextVault ∨ key = .aadContextEnvelope) ∧
      envVar.any (fun name => !hasEnvValue env name) then
    .profile
  else .default

/-- The switch over the keys. -/
def valueForKey (config : VaultAdminConfig) : VaultConfigKey → JsValue
  | .aadContextVault => .string config.profile.aadContextVault
  | .aadContextEnvelope => .string config.profile.aadContextEnvelope
  | .recommendedKdfVersion => .string recommendedKdfVersion
  | .encryptionAlgorithm => .string encryptionAlg
  -- `config.features.emergencyModeEnabled === true`
  | .overridable .emergencyModeEnabled =>
      match config.features.emergencyModeEnabled with
      | .boolean true => .boolean true
      | _ => .boolean false
  | .overridable key => config.setting key

def configEntry (config : VaultAdminConfig) (env : Env)
    (adminOverrides : Overrides) (definition : VaultConfigKeyDisplay) :
    VaultAdminConfigEntry :=
  { key := definition.key
    envVar := definition.envVar
    label := definition.label
    description := definition.description
    group := definition.group
    value := valueForKey config definition.key
    source := sourceFor env adminOverrides definition.key definition.envVar
    overridable := definition.overridable }

/-- The entries of all keys, in the order of the table. -/
def listVaultAdminConfigEntries (config : VaultAdminConfig) (env : Env)
    (adminOverrides : Overrides) : List VaultAdminConfigEntry :=
  (vaultConfigKeys.map vaultConfigKeyDisplay).map
    (configEntry config env adminOverrides)

end Admin

end VaultCore
