import VaultCore.Admin.Config

/-!
# Validating an override

A table says of every key which type it has and which values it allows.  The
table is consulted by key, so a key has to be found in it.
-/

namespace VaultCore

namespace Admin

/-- The declared type of a key's value. -/
inductive VaultConfigValueType where
  | boolean
  | string
  | number
  | enum
deriving DecidableEq

/-- What a key may be set to: its type with its values or bounds. -/
structure VaultConfigKeyDefinition where
  key : JsString
  type : VaultConfigValueType
  enumValues : Option (List JsString) := none
  min : Option ℚ := none
  max : Option ℚ := none

/-- `VAULT_CONFIG_KEY_DEFINITIONS` -/
def vaultConfigKeyDefinitions : List VaultConfigKeyDefinition :=
  [{ key := js "enabled", type := .boolean },
    { key := js "basePath", type := .string },
    { key := js "aadContextVault", type := .string },
    { key := js "aadContextEnvelope", type := .string },
    { key := js "prfSaltPrefix", type := .string },
    { key := js "defaultRecoveryWordCount"
      type := .enum
      enumValues := some [js "12", js "24"] },
    { key := js "autoLockMinutes"
      type := .number
      min := some 1
      max := some (24 * 60) },
    { key := js "passwordEnforcement"
      type := .enum
      enumValues := some [js "off", js "warn", js "enforce"] },
    { key := js "passwordMinLength"
      type := .number
      min := some 1
      max := some 128 },
    { key := js "passwordRequireUppercase", type := .boolean },
    { key := js "passwordRequireLowercase", type := .boolean },
    { key := js "passwordRequireNumber", type := .boolean },
    { key := js "passwordRequireSymbol", type := .boolean },
    { key := js "passwordBlockCommonPasswords", type := .boolean },
    { key := js "passwordMinScore"
      type := .number
      min := some 0
      max := some 4 },
    { key := js "passwordStrengthPosition"
      type := .enum
      enumValues := some [js "above", js "below"] },
    { key := js "passkeyPrfUnlockEnabled", type := .boolean },
    { key := js "emergencyModeEnabled", type := .boolean },
    { key := js "unlockMaxFailures"
      type := .number
      min := some 1
      max := some 100 },
    { key := js "unlockFailureWindowMinutes"
      type := .number
      min := some 1
      max := some (24 * 60) },
    { key := js "unlockLockoutMinutes"
      type := .number
      min := some 1
      max := some (24 * 60) },
    { key := js "apiMaxRequests"
      type := .number
      min := some 1
      max := some 10000 },
    { key := js "apiWindowSeconds"
      type := .number
      min := some 1
      max := some 3600 },
    { key := js "recommendedKdfVersion", type := .string },
    { key := js "encryptionAlgorithm", type := .string }]

/-- The definition of a key, if the key is known. -/
def getVaultConfigKeyDefinition (key : JsString) :
    Option VaultConfigKeyDefinition :=
  vaultConfigKeyDefinitions.find? fun definition => definition.key == key

/-- The head of the error texts. -/
def quotedKey (key : JsString) : JsString := js "Key \"" ++ key ++ js "\""

/-- The comparison of a value of type number with a bound. -/
def outside (bound : Option ℚ) (past : ℚ → Bool) : Bool :=
  match bound with
  | some limit => past limit
  | none => false

/-- A bound as the error text has it; one that is missing reads as zero. -/
def boundText (bound : Option ℚ) : JsString :=
  numberText (.finite (bound.getD 0))

/-- The check of a key whose type is boolean. -/
def checkBoolean (key : JsString) (value : JsValue) :
    Except ConfigError Unit :=
  match value with
  | .boolean _ => pure ()
  | _ => throw (.error (quotedKey key ++ js " must be a boolean"))

/-- The check of a key whose type is string: a text that is not blank. -/
def checkString (key : JsString) (value : JsValue) : Except ConfigError Unit :=
  let refusal : ConfigError :=
    .error (quotedKey key ++ js " must be a non-empty string")
  match value with
  | .string text => if trim text = [] then throw refusal else pure ()
  | _ => throw refusal

/-- The check of a key whose type is number, with its bounds. -/
def checkNumber (definition : VaultConfigKeyDefinition) (key : JsString)
    (value : JsValue) : Except ConfigError Unit :=
  match value with
  | .number (.finite held) =>
      if held.isInt = false then
        throw (.error (quotedKey key ++ js " must be an integer"))
      else if outside definition.min (held < ·) then
        throw (.error (quotedKey key ++ js " must be >= " ++
          boundText definition.min))
      else if outside definition.max (· < held) then
        throw (.error (quotedKey key ++ js " must be <= " ++
          boundText definition.max))
      else pure ()
  | _ => throw (.error (quotedKey key ++ js " must be an integer"))

/-- The check of a key whose type is enum: one of its values. -/
def checkEnum (definition : VaultConfigKeyDefinition) (key : JsString)
    (value : JsValue) : Except ConfigError Unit :=
  let allowed := definition.enumValues.getD []
  match value.stringOf with
  | none => throw .typeError
  | some normalized =>
      if normalized ∈ allowed then pure ()
      else
        throw (.error (quotedKey key ++ js " must be one of: " ++
          (js ", ").intercalate allowed))

/-- The check that the type of the key asks for. -/
def checkValue (definition : VaultConfigKeyDefinition) (key : JsString)
    (value : JsValue) : Except ConfigError Unit :=
  match definition.type with
  | .boolean => checkBoolean key value
  | .string => checkString key value
  | .number => checkNumber definition key value
  | .enum => checkEnum definition key value

/-- The key has to be known and overridable, and the value has to pass its
check. -/
def validateVaultAdminOverride (key : JsString) (value : JsValue) :
    Except ConfigError Unit :=
  match overridableConfigKey key with
  | none =>
      throw (.error (quotedKey key ++ js " is not overridable via admin panel"))
  | some _ =>
      match getVaultConfigKeyDefinition key with
      | none => throw (.error (js "Unknown config key \"" ++ key ++ js "\""))
      | some definition => checkValue definition key value

end Admin

end VaultCore
