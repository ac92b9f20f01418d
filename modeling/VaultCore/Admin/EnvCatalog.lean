import VaultCore.Admin.ConfigEntries

/-!
# The catalog of variables

The catalog lists the variables of the vault.  Nothing else of the environment
is read but the name of the product, so the variables of the catalog say all
there is to say.
-/

namespace VaultCore

namespace Admin

/-- The variables of `VAULT_ADMIN_ENV_CATALOG`. -/
def vaultAdminEnvCatalog : List String :=
  ["VAULT_ADMIN_ENABLED", "VAULT_ADMIN_PATH", "VAULT_AAD_CONTEXT_VAULT",
    "VAULT_AAD_CONTEXT_ENVELOPE", "VAULT_PRF_SALT_PREFIX",
    "VAULT_DEFAULT_RECOVERY_WORD_COUNT",
    "NEXT_PUBLIC_VAULT_AUTO_LOCK_MINUTES", "VAULT_AUTO_LOCK_MINUTES",
    "VAULT_PASSWORD_ENFORCEMENT", "VAULT_PASSWORD_MIN_LENGTH",
    "VAULT_PASSWORD_REQUIRE_UPPERCASE", "VAULT_PASSWORD_REQUIRE_LOWERCASE",
    "VAULT_PASSWORD_REQUIRE_NUMBER", "VAULT_PASSWORD_REQUIRE_SYMBOL",
    "VAULT_PASSWORD_BLOCK_COMMON_PASSWORDS", "VAULT_PASSWORD_MIN_SCORE",
    "VAULT_PASSWORD_STRENGTH_POSITION", "VAULT_PASSKEY_PRF_UNLOCK_ENABLED",
    "VAULT_EMERGENCY_MODE_ENABLED", "VAULT_UNLOCK_MAX_FAILURES",
    "VAULT_UNLOCK_FAILURE_WINDOW_MINUTES", "VAULT_UNLOCK_LOCKOUT_MINUTES",
    "VAULT_API_RATE_LIMIT_MAX_REQUESTS",
    "VAULT_API_RATE_LIMIT_WINDOW_SECONDS"]

/-- The variables that a consuming application passes on. -/
def passedVariables : List String := "APP_NAME" :: vaultAdminEnvCatalog

/-- The environment cut down to the variables that the page passes on. -/
def getVaultAdminEnv (env : Env) : Env := fun name =>
  if name ∈ passedVariables.map js then env name else none

section Catalog

variable {toLowerCase : JsString → JsString} {env : Env} {name : String}

theorem getVaultAdminEnv_of_mem (passed : name ∈ passedVariables) :
    getVaultAdminEnv env (js name) = env (js name) :=
  if_pos (List.mem_map_of_mem passed)

theorem envValue_getVaultAdminEnv (passed : name ∈ passedVariables) :
    envValue (getVaultAdminEnv env) (js name) = envValue env (js name) := by
  rw [envValue, envValue, getVaultAdminEnv_of_mem passed]

theorem readStringEnv_getVaultAdminEnv (passed : name ∈ passedVariables)
    (defaultValue : JsString) :
    readStringEnv (getVaultAdminEnv env) (js name) defaultValue =
      readStringEnv env (js name) defaultValue := by
  rw [readStringEnv, readStringEnv, envValue_getVaultAdminEnv passed]

theorem readBoolEnv_getVaultAdminEnv (passed : name ∈ passedVariables)
    (defaultValue : Bool) :
    readBoolEnv toLowerCase (getVaultAdminEnv env) (js name) defaultValue =
      readBoolEnv toLowerCase env (js name) defaultValue := by
  rw [readBoolEnv, readBoolEnv, envValue_getVaultAdminEnv passed]

theorem readIntEnv_getVaultAdminEnv (passed : name ∈ passedVariables)
    (defaultValue : ℤ) (bounds : IntBounds) :
    readIntEnv (getVaultAdminEnv env) (js name) defaultValue bounds =
      readIntEnv env (js name) defaultValue bounds := by
  rw [readIntEnv, readIntEnv, envValue_getVaultAdminEnv passed]

theorem readEnumEnv_getVaultAdminEnv (passed : name ∈ passedVariables)
    (allowed : List JsString) (defaultValue : JsString) :
    readEnumEnv (getVaultAdminEnv env) (js name) allowed defaultValue =
      readEnumEnv env (js name) allowed defaultValue := by
  rw [readEnumEnv, readEnumEnv, envValue_getVaultAdminEnv passed]

theorem readRecoveryWordCount_getVaultAdminEnv
    (fallback : RecoveryPhraseWordCount) :
    readRecoveryWordCount (getVaultAdminEnv env) fallback =
      readRecoveryWordCount env fallback := by
  rw [readRecoveryWordCount, readRecoveryWordCount,
    envValue_getVaultAdminEnv (by decide)]

theorem readAutoLockMinutes_getVaultAdminEnv :
    readAutoLockMinutes (getVaultAdminEnv env) = readAutoLockMinutes env := by
  simp only [readAutoLockMinutes]
  rw [getVaultAdminEnv_of_mem (by decide), getVaultAdminEnv_of_mem (by decide)]

theorem resolvePasswordPolicy_getVaultAdminEnv :
    resolvePasswordPolicy toLowerCase (getVaultAdminEnv env) =
      resolvePasswordPolicy toLowerCase env := by
  simp (disch := decide) only [resolvePasswordPolicy,
    readBoolEnv_getVaultAdminEnv, readIntEnv_getVaultAdminEnv,
    readEnumEnv_getVaultAdminEnv]

theorem resolveRateLimit_getVaultAdminEnv :
    resolveRateLimit (getVaultAdminEnv env) = resolveRateLimit env := by
  simp (disch := decide) only [resolveRateLimit, readIntEnv_getVaultAdminEnv]

theorem resolveFeatures_getVaultAdminEnv :
    resolveFeatures toLowerCase (getVaultAdminEnv env) =
      resolveFeatures toLowerCase env := by
  simp (disch := decide) only [resolveFeatures, readBoolEnv_getVaultAdminEnv]

theorem resolveProfile_getVaultAdminEnv (input : VaultAdminConfigInput) :
    resolveProfile input (getVaultAdminEnv env) = resolveProfile input env := by
  simp (disch := decide) only [resolveProfile, readStringEnv_getVaultAdminEnv]

theorem resolveRecoveryWordCount_getVaultAdminEnv
    (input : VaultAdminConfigInput) :
    resolveRecoveryWordCount input (getVaultAdminEnv env) =
      resolveRecoveryWordCount input env := by
  simp only [resolveRecoveryWordCount, readRecoveryWordCount_getVaultAdminEnv]

/-- The passed variables build the configuration of the whole environment. -/
theorem build_getVaultAdminEnv (input : VaultAdminConfigInput) :
    buildVaultAdminConfigFromEnv toLowerCase
        { input with env := some (getVaultAdminEnv env) } =
      buildVaultAdminConfigFromEnv toLowerCase
        { input with env := some env } := by
  simp (disch := decide) only [buildVaultAdminConfigFromEnv,
    resolveBaseConfig, Option.getD_some, readBoolEnv_getVaultAdminEnv,
    readStringEnv_getVaultAdminEnv, readAutoLockMinutes_getVaultAdminEnv,
    resolvePasswordPolicy_getVaultAdminEnv, resolveRateLimit_getVaultAdminEnv,
    resolveFeatures_getVaultAdminEnv, resolveProfile_getVaultAdminEnv,
    resolveRecoveryWordCount_getVaultAdminEnv]
  rfl

theorem envVar_passed {shown : VaultConfigKey} {variableName : JsString}
    (named : (vaultConfigKeyDisplay shown).envVar = some variableName) :
    ∃ name ∈ passedVariables, variableName = js name := by
  cases shown with
  | overridable key =>
      cases key <;>
        exact ⟨_, by decide, (Option.some.inj named).symm⟩
  | aadContextVault => exact ⟨_, by decide, (Option.some.inj named).symm⟩
  | aadContextEnvelope => exact ⟨_, by decide, (Option.some.inj named).symm⟩
  | recommendedKdfVersion => cases named
  | encryptionAlgorithm => cases named

theorem hasEnvValue_getVaultAdminEnv (passed : name ∈ passedVariables) :
    hasEnvValue (getVaultAdminEnv env) (js name) =
      hasEnvValue env (js name) := by
  rw [hasEnvValue, hasEnvValue, getVaultAdminEnv_of_mem passed]

theorem any_getVaultAdminEnv (shown : VaultConfigKey) (wanted : Bool) :
    ((vaultConfigKeyDisplay shown).envVar.any fun variableName =>
        hasEnvValue (getVaultAdminEnv env) variableName == wanted) =
      (vaultConfigKeyDisplay shown).envVar.any fun variableName =>
        hasEnvValue env variableName == wanted := by
  cases named : (vaultConfigKeyDisplay shown).envVar with
  | none => rfl
  | some variableName =>
      obtain ⟨name, passed, rfl⟩ := envVar_passed named
      rw [Option.any_some, Option.any_some,
        hasEnvValue_getVaultAdminEnv passed]

theorem sourceFor_getVaultAdminEnv (overrides : Overrides)
    (key shown : VaultConfigKey) :
    sourceFor (getVaultAdminEnv env) overrides key
        (vaultConfigKeyDisplay shown).envVar =
      sourceFor env overrides key (vaultConfigKeyDisplay shown).envVar := by
  have set := @any_getVaultAdminEnv env shown true
  have unset := @any_getVaultAdminEnv env shown false
  simp only [beq_true, beq_false] at set unset
  have inBundle : hasEnvValue (getVaultAdminEnv env)
      nextPublicAutoLockMinutes = hasEnvValue env nextPublicAutoLockMinutes :=
    hasEnvValue_getVaultAdminEnv (by decide)
  have onServer : hasEnvValue (getVaultAdminEnv env) vaultAutoLockMinutes =
      hasEnvValue env vaultAutoLockMinutes :=
    hasEnvValue_getVaultAdminEnv (by decide)
  simp only [sourceFor, set, unset, inBundle, onServer]

theorem listVaultAdminConfigEntries_getVaultAdminEnv
    (config : VaultAdminConfig) (overrides : Overrides) :
    listVaultAdminConfigEntries config (getVaultAdminEnv env) overrides =
      listVaultAdminConfigEntries config env overrides := by
  rw [listVaultAdminConfigEntries, listVaultAdminConfigEntries, List.map_map,
    List.map_map]
  apply List.map_congr_left
  intro shown _
  simp only [Function.comp_apply, configEntry, sourceFor_getVaultAdminEnv]

end Catalog

end Admin

end VaultCore
