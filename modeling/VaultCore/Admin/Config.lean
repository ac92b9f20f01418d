import VaultCore.Profile
import VaultCore.Text.JsValue
import VaultCore.Validation.Schemas

/-!
# The admin configuration

Settings are kept as the values the program stores, whatever their declared
types say.  `VaultOverridableConfigKey` names those an administrator may
override; `setting` reads one of them, `declared` says what it has to be.
-/

namespace VaultCore

namespace Admin

/-- `new Error(message)`, or the type error of a conversion. -/
inductive ConfigError where
  | error (message : JsString)
  | typeError
deriving DecidableEq

/-- The members are values of any type: overrides are stored as they come. -/
structure VaultAdminPasswordPolicy where
  enforcement : JsValue
  minLength : JsValue
  requireUppercase : JsValue
  requireLowercase : JsValue
  requireNumber : JsValue
  requireSymbol : JsValue
  blockCommonPasswords : JsValue
  minScore : JsValue
  strengthPosition : JsValue

structure VaultAdminSessionConfig where
  autoLockMinutes : JsValue

structure VaultAdminRateLimitConfig where
  unlockMaxFailures : JsValue
  unlockFailureWindowMinutes : JsValue
  unlockLockoutMinutes : JsValue
  apiMaxRequests : JsValue
  apiWindowSeconds : JsValue

structure VaultAdminFeatureFlags where
  adminEnabled : JsValue
  passkeyPrfUnlockEnabled : JsValue
  emergencyModeEnabled : JsValue
  recoveryPhrase12WordSupported : JsValue
  recoveryPhrase24WordSupported : JsValue

/-- What the admin pages and the limiters read. -/
structure VaultAdminConfig where
  enabled : JsValue
  basePath : JsValue
  productName : JsValue
  profile : VaultCryptoProfile
  prfSaltPrefix : JsValue
  defaultRecoveryWordCount : JsValue
  passwordPolicy : VaultAdminPasswordPolicy
  session : VaultAdminSessionConfig
  rateLimit : VaultAdminRateLimitConfig
  features : VaultAdminFeatureFlags

/-- The number 12 or 24. -/
def wordCountValue (wordCount : RecoveryPhraseWordCount) : JsValue :=
  .number (.finite wordCount.toNat)

/-- The keys that an admin may override. -/
inductive VaultOverridableConfigKey where
  | enabled
  | basePath
  | prfSaltPrefix
  | defaultRecoveryWordCount
  | autoLockMinutes
  | passwordEnforcement
  | passwordMinLength
  | passwordRequireUppercase
  | passwordRequireLowercase
  | passwordRequireNumber
  | passwordRequireSymbol
  | passwordBlockCommonPasswords
  | passwordMinScore
  | passwordStrengthPosition
  | passkeyPrfUnlockEnabled
  | emergencyModeEnabled
  | unlockMaxFailures
  | unlockFailureWindowMinutes
  | unlockLockoutMinutes
  | apiMaxRequests
  | apiWindowSeconds
deriving DecidableEq

namespace VaultOverridableConfigKey

/-- The key as the source spells it. -/
def name : VaultOverridableConfigKey → JsString
  | enabled => js "enabled"
  | basePath => js "basePath"
  | prfSaltPrefix => js "prfSaltPrefix"
  | defaultRecoveryWordCount => js "defaultRecoveryWordCount"
  | autoLockMinutes => js "autoLockMinutes"
  | passwordEnforcement => js "passwordEnforcement"
  | passwordMinLength => js "passwordMinLength"
  | passwordRequireUppercase => js "passwordRequireUppercase"
  | passwordRequireLowercase => js "passwordRequireLowercase"
  | passwordRequireNumber => js "passwordRequireNumber"
  | passwordRequireSymbol => js "passwordRequireSymbol"
  | passwordBlockCommonPasswords => js "passwordBlockCommonPasswords"
  | passwordMinScore => js "passwordMinScore"
  | passwordStrengthPosition => js "passwordStrengthPosition"
  | passkeyPrfUnlockEnabled => js "passkeyPrfUnlockEnabled"
  | emergencyModeEnabled => js "emergencyModeEnabled"
  | unlockMaxFailures => js "unlockMaxFailures"
  | unlockFailureWindowMinutes => js "unlockFailureWindowMinutes"
  | unlockLockoutMinutes => js "unlockLockoutMinutes"
  | apiMaxRequests => js "apiMaxRequests"
  | apiWindowSeconds => js "apiWindowSeconds"

end VaultOverridableConfigKey

/-- `VAULT_OVERRIDABLE_CONFIG_KEYS` -/
def vaultOverridableConfigKeys : List VaultOverridableConfigKey :=
  [.enabled, .basePath, .prfSaltPrefix, .defaultRecoveryWordCount,
    .autoLockMinutes, .passwordEnforcement, .passwordMinLength,
    .passwordRequireUppercase, .passwordRequireLowercase, .passwordRequireNumber,
    .passwordRequireSymbol, .passwordBlockCommonPasswords, .passwordMinScore,
    .passwordStrengthPosition, .passkeyPrfUnlockEnabled, .emergencyModeEnabled,
    .unlockMaxFailures, .unlockFailureWindowMinutes, .unlockLockoutMinutes,
    .apiMaxRequests, .apiWindowSeconds]

/-- The key of that name, when it is overridable. -/
def overridableConfigKey (key : JsString) : Option VaultOverridableConfigKey :=
  vaultOverridableConfigKeys.find? fun known => known.name == key

namespace VaultAdminConfig

/-- The stored value of an overridable setting. -/
def setting (config : VaultAdminConfig) : VaultOverridableConfigKey → JsValue
  | .enabled => config.enabled
  | .basePath => config.basePath
  | .prfSaltPrefix => config.prfSaltPrefix
  | .defaultRecoveryWordCount => config.defaultRecoveryWordCount
  | .autoLockMinutes => config.session.autoLockMinutes
  | .passwordEnforcement => config.passwordPolicy.enforcement
  | .passwordMinLength => config.passwordPolicy.minLength
  | .passwordRequireUppercase => config.passwordPolicy.requireUppercase
  | .passwordRequireLowercase => config.passwordPolicy.requireLowercase
  | .passwordRequireNumber => config.passwordPolicy.requireNumber
  | .passwordRequireSymbol => config.passwordPolicy.requireSymbol
  | .passwordBlockCommonPasswords => config.passwordPolicy.blockCommonPasswords
  | .passwordMinScore => config.passwordPolicy.minScore
  | .passwordStrengthPosition => config.passwordPolicy.strengthPosition
  | .passkeyPrfUnlockEnabled => config.features.passkeyPrfUnlockEnabled
  | .emergencyModeEnabled => config.features.emergencyModeEnabled
  | .unlockMaxFailures => config.rateLimit.unlockMaxFailures
  | .unlockFailureWindowMinutes => config.rateLimit.unlockFailureWindowMinutes
  | .unlockLockoutMinutes => config.rateLimit.unlockLockoutMinutes
  | .apiMaxRequests => config.rateLimit.apiMaxRequests
  | .apiWindowSeconds => config.rateLimit.apiWindowSeconds

end VaultAdminConfig

end Admin

end VaultCore
