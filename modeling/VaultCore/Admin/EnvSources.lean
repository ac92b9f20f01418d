import VaultCore.Admin.ConfigEntries
import VaultCore.Admin.OverrideAction

/-!
# Where a setting comes from

A blank variable is meant to count as absent, and an entry is meant to name
the environment when its value was read there.  The minutes until the lock
have two variables: the first of them hides the second also when it is blank,
while the source of the entry looks at both.
-/

namespace VaultCore

namespace Admin

/-- The environment without the variables that are blank. -/
def withoutBlank (env : Env) : Env :=
  fun key => (env key).filter fun raw => trim raw != []

/-! ## Readers that keep the variable -/

/-- A value, and the variable it was taken from. -/
structure Sourced (α : Type) where
  value : α
  envVar : Option JsString

/-- Another form of the value, from the same source. -/
def Sourced.map {α β : Type} (wrap : α → β) (sourced : Sourced α) :
    Sourced β :=
  { value := wrap sourced.value, envVar := sourced.envVar }

section Readers

variable {α β : Type}

/-- What the readers do with a variable, given how its text is read. -/
def readOr (env : Env) (key : JsString) (defaultValue : α)
    (parse : JsString → Except ConfigError α) : Except ConfigError α :=
  match envValue env key with
  | none => pure defaultValue
  | some raw => parse raw

/-- The reading of a variable, or the default, with where it came from. -/
def readSourced (env : Env) (key : JsString) (defaultValue : α)
    (parse : JsString → Except ConfigError α) :
    Except ConfigError (Sourced α) :=
  match envValue env key with
  | none => pure { value := defaultValue, envVar := none }
  | some raw => do
      let value ← parse raw
      pure { value, envVar := some key }

def parseBool (toLowerCase : JsString → JsString) (key raw : JsString) :
    Except ConfigError Bool :=
  let normalized := toLowerCase (trim raw)
  if normalized = js "true" ∨ normalized = js "1" ∨
      normalized = js "yes" then
    pure true
  else if normalized = js "false" ∨ normalized = js "0" ∨
      normalized = js "no" then
    pure false
  else throw (.error (key ++ js " must be a boolean (true/false)"))

def parseInt (key : JsString) (bounds : IntBounds) (raw : JsString) :
    Except ConfigError ℤ := do
  let value ← readInteger raw (key ++ js " must be an integer")
  if (value : ℚ) < bounds.min then
    throw (.error (key ++ js " must be >= " ++
      numberText (.finite bounds.min)))
  else if bounds.max < (value : ℚ) then
    throw (.error (key ++ js " must be <= " ++
      numberText (.finite bounds.max)))
  else pure value

def parseEnum (key : JsString) (allowed : List JsString) (raw : JsString) :
    Except ConfigError JsString :=
  let normalized := trim raw
  if normalized ∈ allowed then pure normalized
  else
    throw (.error (key ++ js " must be one of: " ++
      (js ", ").intercalate allowed))

/-- Twelve or twenty-four words, and nothing else. -/
def parseRecoveryWordCount (raw : JsString) :
    Except ConfigError RecoveryPhraseWordCount :=
  if numberOfText raw = .finite 12 then pure .twelve
  else if numberOfText raw = .finite 24 then pure .twentyFour
  else
    throw (.error (js "VAULT_DEFAULT_RECOVERY_WORD_COUNT must be 12 or 24"))

/-- The minutes of either variable, between one and a day. -/
def parseAutoLockMinutes (raw : JsString) : Except ConfigError ℤ := do
  let minutes ← readInteger raw
    (js "VAULT auto-lock minutes must be an integer")
  if (minutes : ℚ) < autoLockMinutesBounds.min ∨
      autoLockMinutesBounds.max < (minutes : ℚ) then
    throw (.error (js "VAULT auto-lock minutes must be between 1 and 1440"))
  else pure minutes

/-- The variable of the two that is looked at, with its text. -/
def autoLockVariable (env : Env) : Option (JsString × JsString) :=
  match env nextPublicAutoLockMinutes with
  | some raw => some (nextPublicAutoLockMinutes, raw)
  | none => (env vaultAutoLockMinutes).map (vaultAutoLockMinutes, ·)

/-- The minutes with the variable that gave them. -/
def readAutoLockSourced (env : Env) : Except ConfigError (Sourced ℤ) :=
  match autoLockVariable env with
  | none => pure { value := defaultAutoLockMinutes, envVar := none }
  | some (key, raw) =>
      if trim raw = [] then
        pure { value := defaultAutoLockMinutes, envVar := none }
      else do
        let minutes ← parseAutoLockMinutes raw
        pure { value := minutes, envVar := some key }

variable {env : Env} {key : JsString}

theorem hasEnvValue_eq : hasEnvValue env key = (envValue env key).isSome := by
  rw [hasEnvValue, envValue]
  cases env key with
  | none => rfl
  | some raw =>
      simp only [Option.filter_some]
      cases trim raw != [] <;> rfl

/-- What a reader gives, with the variable it looked at. -/
theorem readSourced_of_readOr {defaultValue value : α}
    {parse : JsString → Except ConfigError α} (wrap : α → β)
    (read : readOr env key defaultValue parse = .ok value) :
    ∃ reading,
      (readSourced env key defaultValue parse).map (Sourced.map wrap) =
          .ok reading ∧
        reading.value = wrap value ∧
        reading.envVar.isSome = hasEnvValue env key := by
  rw [hasEnvValue_eq]
  rw [readOr] at read
  rw [readSourced]
  cases found : envValue env key with
  | none =>
      rw [found] at read
      obtain rfl := Except.ok.inj read
      exact ⟨_, rfl, rfl, rfl⟩
  | some raw =>
      simp only [found] at read
      simp only [read]
      exact ⟨_, rfl, rfl, rfl⟩

theorem readBoolEnv_eq {toLowerCase : JsString → JsString}
    {defaultValue : Bool} :
    readBoolEnv toLowerCase env key defaultValue =
      readOr env key defaultValue (parseBool toLowerCase key) := by
  rw [readBoolEnv, readOr]
  cases envValue env key <;> rfl

theorem readIntEnv_eq {defaultValue : ℤ} {bounds : IntBounds} :
    readIntEnv env key defaultValue bounds =
      readOr env key defaultValue (parseInt key bounds) := by
  rw [readIntEnv, readOr]
  cases envValue env key <;> rfl

theorem readEnumEnv_eq {allowed : List JsString} {defaultValue : JsString} :
    readEnumEnv env key allowed defaultValue =
      readOr env key defaultValue (parseEnum key allowed) := by
  rw [readEnumEnv, readOr]
  cases envValue env key <;> rfl

theorem readStringEnv_eq {defaultValue : JsString} :
    readOr env key defaultValue (fun raw => pure (trim raw)) =
      .ok (readStringEnv env key defaultValue) := by
  rw [readStringEnv, readOr]
  cases envValue env key <;> rfl

theorem readRecoveryWordCount_eq {fallback : RecoveryPhraseWordCount} :
    readRecoveryWordCount env fallback =
      readOr env (js "VAULT_DEFAULT_RECOVERY_WORD_COUNT") fallback
        parseRecoveryWordCount := by
  rw [readRecoveryWordCount, readOr]
  cases envValue env (js "VAULT_DEFAULT_RECOVERY_WORD_COUNT") <;> rfl

/-- The reader of the minutes without the variable. -/
theorem readAutoLockMinutes_eq :
    readAutoLockMinutes env =
      (readAutoLockSourced env).map Sourced.value := by
  rw [readAutoLockMinutes, readAutoLockSourced, autoLockVariable,
    nextPublicAutoLockMinutes, vaultAutoLockMinutes]
  have parsed (raw name : JsString) :
      parseAutoLockMinutes raw =
        Except.map Sourced.value (do
          let minutes ← parseAutoLockMinutes raw
          pure { value := minutes, envVar := some name }) := by
    cases parseAutoLockMinutes raw <;> rfl
  cases env (js "NEXT_PUBLIC_VAULT_AUTO_LOCK_MINUTES") with
  | some raw =>
      simp only [Option.orElse_some]
      by_cases blank : trim raw = []
      · simp only [if_pos blank]
        rfl
      · simp only [if_neg blank, ← parsed]
        rfl
  | none =>
      simp only [Option.orElse_none]
      cases env (js "VAULT_AUTO_LOCK_MINUTES") with
      | none => rfl
      | some raw =>
          simp only [Option.map_some]
          by_cases blank : trim raw = []
          · simp only [if_pos blank]
            rfl
          · simp only [if_neg blank, ← parsed]
            rfl

end Readers

/-! ## Every setting with its variable -/

/-- An integer as a value of the configuration. -/
def integerValue (value : ℤ) : JsValue := .number (.finite value)

section Settings

variable (toLowerCase : JsString → JsString) (env : Env)

def sourcedString (key defaultValue : JsString) :
    Except ConfigError (Sourced JsValue) :=
  (readSourced env key defaultValue fun raw => pure (trim raw)).map
    (Sourced.map .string)

def sourcedBool (key : JsString) (defaultValue : Bool) :
    Except ConfigError (Sourced JsValue) :=
  (readSourced env key defaultValue (parseBool toLowerCase key)).map
    (Sourced.map .boolean)

def sourcedInt (key : JsString) (defaultValue : ℤ) (bounds : IntBounds) :
    Except ConfigError (Sourced JsValue) :=
  (readSourced env key defaultValue (parseInt key bounds)).map
    (Sourced.map integerValue)

def sourcedEnum (key : JsString) (allowed : List JsString)
    (defaultValue : JsString) : Except ConfigError (Sourced JsValue) :=
  (readSourced env key defaultValue (parseEnum key allowed)).map
    (Sourced.map .string)

/-- The readers of the configuration without further arguments. -/
def sourcedSetting : VaultConfigKey → Except ConfigError (Sourced JsValue)
  | .aadContextVault =>
      sourcedString env (js "VAULT_AAD_CONTEXT_VAULT") (js "app:vault:v1")
  | .aadContextEnvelope =>
      sourcedString env (js "VAULT_AAD_CONTEXT_ENVELOPE")
        (js "app:vault-envelope:v1")
  | .recommendedKdfVersion =>
      pure { value := .string recommendedKdfVersion, envVar := none }
  | .encryptionAlgorithm =>
      pure { value := .string encryptionAlg, envVar := none }
  | .overridable .enabled =>
      sourcedBool toLowerCase env (js "VAULT_ADMIN_ENABLED") false
  | .overridable .basePath =>
      sourcedString env (js "VAULT_ADMIN_PATH") (js "/admin/vault")
  | .overridable .prfSaltPrefix =>
      sourcedString env (js "VAULT_PRF_SALT_PREFIX") (js "app-passkey-prf-v1:")
  | .overridable .defaultRecoveryWordCount =>
      (readSourced env (js "VAULT_DEFAULT_RECOVERY_WORD_COUNT") .twentyFour
        parseRecoveryWordCount).map (Sourced.map wordCountValue)
  | .overridable .autoLockMinutes =>
      (readAutoLockSourced env).map (Sourced.map integerValue)
  | .overridable .passwordEnforcement =>
      sourcedEnum env (js "VAULT_PASSWORD_ENFORCEMENT")
        [js "off", js "warn", js "enforce"] (js "enforce")
  | .overridable .passwordMinLength =>
      sourcedInt env (js "VAULT_PASSWORD_MIN_LENGTH") 12
        { min := 1, max := 128 }
  | .overridable .passwordRequireUppercase =>
      sourcedBool toLowerCase env (js "VAULT_PASSWORD_REQUIRE_UPPERCASE") true
  | .overridable .passwordRequireLowercase =>
      sourcedBool toLowerCase env (js "VAULT_PASSWORD_REQUIRE_LOWERCASE") true
  | .overridable .passwordRequireNumber =>
      sourcedBool toLowerCase env (js "VAULT_PASSWORD_REQUIRE_NUMBER") true
  | .overridable .passwordRequireSymbol =>
      sourcedBool toLowerCase env (js "VAULT_PASSWORD_REQUIRE_SYMBOL") true
  | .overridable .passwordBlockCommonPasswords =>
      sourcedBool toLowerCase env (js "VAULT_PASSWORD_BLOCK_COMMON_PASSWORDS")
        true
  | .overridable .passwordMinScore =>
      sourcedInt env (js "VAULT_PASSWORD_MIN_SCORE") 2 { min := 0, max := 4 }
  | .overridable .passwordStrengthPosition =>
      sourcedEnum env (js "VAULT_PASSWORD_STRENGTH_POSITION")
        [js "above", js "below"] (js "below")
  | .overridable .passkeyPrfUnlockEnabled =>
      sourcedBool toLowerCase env (js "VAULT_PASSKEY_PRF_UNLOCK_ENABLED") true
  | .overridable .emergencyModeEnabled =>
      sourcedBool toLowerCase env (js "VAULT_EMERGENCY_MODE_ENABLED") false
  | .overridable .unlockMaxFailures =>
      sourcedInt env (js "VAULT_UNLOCK_MAX_FAILURES") 5 { min := 1, max := 100 }
  | .overridable .unlockFailureWindowMinutes =>
      sourcedInt env (js "VAULT_UNLOCK_FAILURE_WINDOW_MINUTES") 15
        { min := 1, max := 24 * 60 }
  | .overridable .unlockLockoutMinutes =>
      sourcedInt env (js "VAULT_UNLOCK_LOCKOUT_MINUTES") 30
        { min := 1, max := 24 * 60 }
  | .overridable .apiMaxRequests =>
      sourcedInt env (js "VAULT_API_RATE_LIMIT_MAX_REQUESTS") 120
        { min := 1, max := 10000 }
  | .overridable .apiWindowSeconds =>
      sourcedInt env (js "VAULT_API_RATE_LIMIT_WINDOW_SECONDS") 60
        { min := 1, max := 3600 }

/-- The value of the entry was read from a variable. -/
def TakenFromEnv (entry : VaultAdminConfigEntry) : Prop :=
  ∃ reading, sourcedSetting toLowerCase env entry.key = .ok reading ∧
    reading.value = entry.value ∧ reading.envVar.isSome = true

end Settings

/-- The arguments that win over the environment are not given. -/
structure NoArguments (input : VaultAdminConfigInput) : Prop where
  profile : input.profile = none
  prfSaltPrefix : input.prfSaltPrefix = none
  defaultRecoveryWordCount : input.defaultRecoveryWordCount = none

/-- Whether the setting is read from a variable. -/
def takesEnv (env : Env) : VaultConfigKey → Bool
  | .overridable .autoLockMinutes =>
      (autoLockVariable env).any fun entry => trim entry.2 != []
  | key => (vaultConfigKeyDisplay key).envVar.any (hasEnvValue env)

section Resolved

variable {toLowerCase : JsString → JsString} {env : Env} {key : JsString}
  {input : VaultAdminConfigInput} {config : VaultAdminConfig}

/-- A reading of the value, from a variable or not. -/
def Gives (reads : Except ConfigError (Sourced JsValue)) (value : JsValue)
    (taken : Bool) : Prop :=
  ∃ reading, reads = .ok reading ∧ reading.value = value ∧
    reading.envVar.isSome = taken

theorem sourcedString_gives {defaultValue : JsString} :
    Gives (sourcedString env key defaultValue)
      (.string (readStringEnv env key defaultValue)) (hasEnvValue env key) :=
  readSourced_of_readOr _ readStringEnv_eq

theorem sourcedBool_gives {defaultValue value : Bool}
    (read : readBoolEnv toLowerCase env key defaultValue = .ok value) :
    Gives (sourcedBool toLowerCase env key defaultValue) (.boolean value)
      (hasEnvValue env key) :=
  readSourced_of_readOr _ (readBoolEnv_eq.symm.trans read)

theorem sourcedInt_gives {defaultValue value : ℤ} {bounds : IntBounds}
    (read : readIntEnv env key defaultValue bounds = .ok value) :
    Gives (sourcedInt env key defaultValue bounds) (integerValue value)
      (hasEnvValue env key) :=
  readSourced_of_readOr _ (readIntEnv_eq.symm.trans read)

theorem sourcedEnum_gives {allowed : List JsString}
    {defaultValue value : JsString}
    (read : readEnumEnv env key allowed defaultValue = .ok value) :
    Gives (sourcedEnum env key allowed defaultValue) (.string value)
      (hasEnvValue env key) :=
  readSourced_of_readOr _ (readEnumEnv_eq.symm.trans read)

theorem readAutoLockSourced_gives {minutes : ℤ}
    (read : readAutoLockMinutes env = .ok minutes) :
    Gives ((readAutoLockSourced env).map (Sourced.map integerValue))
      (integerValue minutes)
      (takesEnv env (.overridable .autoLockMinutes)) := by
  rw [readAutoLockMinutes_eq, readAutoLockSourced] at read
  rw [readAutoLockSourced, takesEnv]
  cases looked : autoLockVariable env with
  | none =>
      rw [looked] at read
      obtain rfl := Except.ok.inj read
      exact ⟨_, rfl, rfl, rfl⟩
  | some entry =>
      obtain ⟨name, raw⟩ := entry
      by_cases blank : trim raw = []
      · simp only [looked, if_pos blank] at read ⊢
        obtain rfl := Except.ok.inj read
        exact ⟨_, rfl, rfl, by simp [Sourced.map, blank]⟩
      · simp only [looked, if_neg blank] at read ⊢
        cases parsed : parseAutoLockMinutes raw with
        | error error =>
            rw [parsed] at read
            cases read
        | ok value =>
            rw [parsed] at read
            obtain rfl := Except.ok.inj read
            exact ⟨_, rfl, rfl, by simp [Sourced.map, blank]⟩

/-- The configuration before the overrides holds what the readers give. -/
theorem resolveBaseConfig_gives (noArguments : NoArguments input)
    (resolved : resolveBaseConfig toLowerCase { input with env := some env } =
      .ok config) (shown : VaultConfigKey) :
    Gives (sourcedSetting toLowerCase env shown) (valueForKey config shown)
      (takesEnv env shown) := by
  obtain ⟨_, profile, prfSaltPrefix, productName, givenCount, _⟩ := input
  obtain ⟨noProfile, noPrefix, noCount⟩ := noArguments
  dsimp only at noProfile noPrefix noCount
  subst noProfile noPrefix noCount
  obtain ⟨wordCount, readWordCount, rest⟩ :=
    Outcome.bind_eq_ok_iff.mp resolved
  obtain ⟨enabled, readEnabled, rest⟩ := Outcome.bind_eq_ok_iff.mp rest
  obtain ⟨policy, readPolicy, rest⟩ := Outcome.bind_eq_ok_iff.mp rest
  obtain ⟨minutes, readMinutes, rest⟩ := Outcome.bind_eq_ok_iff.mp rest
  obtain ⟨rateLimit, readRateLimit, rest⟩ := Outcome.bind_eq_ok_iff.mp rest
  obtain ⟨features, readFeatures, rest⟩ := Outcome.bind_eq_ok_iff.mp rest
  obtain rfl := Except.ok.inj rest
  -- the settings of the policy
  obtain ⟨_, enforcement, rest⟩ := Outcome.bind_eq_ok_iff.mp readPolicy
  obtain ⟨_, minLength, rest⟩ := Outcome.bind_eq_ok_iff.mp rest
  obtain ⟨_, requireUppercase, rest⟩ := Outcome.bind_eq_ok_iff.mp rest
  obtain ⟨_, requireLowercase, rest⟩ := Outcome.bind_eq_ok_iff.mp rest
  obtain ⟨_, requireNumber, rest⟩ := Outcome.bind_eq_ok_iff.mp rest
  obtain ⟨_, requireSymbol, rest⟩ := Outcome.bind_eq_ok_iff.mp rest
  obtain ⟨_, blockCommonPasswords, rest⟩ := Outcome.bind_eq_ok_iff.mp rest
  obtain ⟨_, minScore, rest⟩ := Outcome.bind_eq_ok_iff.mp rest
  obtain ⟨_, strengthPosition, rest⟩ := Outcome.bind_eq_ok_iff.mp rest
  obtain rfl := Except.ok.inj rest
  -- those of the limits and the features
  obtain ⟨_, maxFailures, rest⟩ := Outcome.bind_eq_ok_iff.mp readRateLimit
  obtain ⟨_, failureWindow, rest⟩ := Outcome.bind_eq_ok_iff.mp rest
  obtain ⟨_, lockout, rest⟩ := Outcome.bind_eq_ok_iff.mp rest
  obtain ⟨_, maxRequests, rest⟩ := Outcome.bind_eq_ok_iff.mp rest
  obtain ⟨_, window, rest⟩ := Outcome.bind_eq_ok_iff.mp rest
  obtain rfl := Except.ok.inj rest
  obtain ⟨_, -, rest⟩ := Outcome.bind_eq_ok_iff.mp readFeatures
  obtain ⟨_, passkeyEnabled, rest⟩ := Outcome.bind_eq_ok_iff.mp rest
  obtain ⟨emergency, emergencyEnabled, rest⟩ :=
    Outcome.bind_eq_ok_iff.mp rest
  obtain rfl := Except.ok.inj rest
  cases shown with
  | aadContextVault => exact sourcedString_gives
  | aadContextEnvelope => exact sourcedString_gives
  | recommendedKdfVersion => exact ⟨_, rfl, rfl, rfl⟩
  | encryptionAlgorithm => exact ⟨_, rfl, rfl, rfl⟩
  | overridable key =>
      cases key with
      | enabled => exact sourcedBool_gives readEnabled
      | basePath => exact sourcedString_gives
      | prfSaltPrefix => exact sourcedString_gives
      | defaultRecoveryWordCount =>
          exact readSourced_of_readOr _
            (readRecoveryWordCount_eq.symm.trans readWordCount)
      | autoLockMinutes => exact readAutoLockSourced_gives readMinutes
      | passwordEnforcement => exact sourcedEnum_gives enforcement
      | passwordMinLength => exact sourcedInt_gives minLength
      | passwordRequireUppercase => exact sourcedBool_gives requireUppercase
      | passwordRequireLowercase => exact sourcedBool_gives requireLowercase
      | passwordRequireNumber => exact sourcedBool_gives requireNumber
      | passwordRequireSymbol => exact sourcedBool_gives requireSymbol
      | passwordBlockCommonPasswords =>
          exact sourcedBool_gives blockCommonPasswords
      | passwordMinScore => exact sourcedInt_gives minScore
      | passwordStrengthPosition => exact sourcedEnum_gives strengthPosition
      | passkeyPrfUnlockEnabled => exact sourcedBool_gives passkeyEnabled
      | emergencyModeEnabled =>
          cases emergency with
          | true => exact sourcedBool_gives emergencyEnabled
          | false => exact sourcedBool_gives emergencyEnabled
      | unlockMaxFailures => exact sourcedInt_gives maxFailures
      | unlockFailureWindowMinutes => exact sourcedInt_gives failureWindow
      | unlockLockoutMinutes => exact sourcedInt_gives lockout
      | apiMaxRequests => exact sourcedInt_gives maxRequests
      | apiWindowSeconds => exact sourcedInt_gives window

end Resolved

end Admin

end VaultCore
