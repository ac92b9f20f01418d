import VaultCore.Admin.BlankVariables
import VaultCore.Admin.EnvCatalog
import VaultCore.Async.Service
import VaultCore.RateLimit.ApiLimiter
import VaultCore.Validation.PublicMetadata
import Mathlib.Data.List.Infix

/-!
# The route of the overrides

Admins list, set and delete overrides over HTTP, and the overrides are rows of
a table.  A request awaits each of its statements, so any others may run in
between, and the overrides it lists and the configuration it shows are loaded
apart.  Every row was validated, so the configuration can always be built.
-/

namespace VaultCore

namespace Admin

open RateLimit (Buckets RateLimitDecision VaultRateLimitHttpResponse
  buildVaultRateLimitHttpResponse consumeVaultApiRateLimit
  createVaultApiRateLimiterFromAdminConfig)

/-! ## The table -/

/-- The database: what it makes of a key and a value it is given, and the
messages of its outages. -/
structure Database where
  /-- The text that a key is compared as, or why the statement fails. -/
  keyText : JsValue → Except JsString JsString
  /-- Why a value cannot be stored. -/
  refusal : JsValue → Option JsString
  outageMessage : Nat → JsString

/-- The table, the buckets of the limiter, the clock, and the outage while the
database is not reachable. -/
structure AdminState where
  rows : Overrides
  buckets : Buckets
  now : ℚ
  outage : Option Nat

/-- What happens between two segments: time passes, or the database goes
away. -/
inductive AdminEvent where
  | tick (now : ℚ)
  | database (outage : Option Nat)

/-- The event written into the state. -/
def AdminEvent.apply (event : AdminEvent) (state : AdminState) : AdminState :=
  match event with
  | .tick now => { state with now := now }
  | .database outage => { state with outage := outage }

/-- The error of a program is the message of what it throws. -/
abbrev AdminProgram (α : Type) := Async AdminState JsString α

section Route

variable (platform : Platform) (database : Database) (env : Env)

/-- What a statement does when the database can be reached. -/
def reached {α : Type} (code : Sync AdminState JsString α) :
    Sync AdminState JsString α := fun state =>
  match state.outage with
  | some outage => (.error (database.outageMessage outage), state)
  | none => code state

/-- A statement acts at some time between its start and its answer. -/
def statement {α : Type} (code : Sync AdminState JsString α) :
    AdminProgram α :=
  Async.await (.pause (Async.lift (reached database code)))

/-- Creates the table if it is not there; only an outage can be seen. -/
def ensureVaultAdminConfigSchema : AdminProgram Unit :=
  statement database (pure ())

/-- The rows of the table as overrides. -/
def loadVaultAdminOverrides : AdminProgram Overrides := do
  (ensureVaultAdminConfigSchema database).await
  statement database fun state => (.ok state.rows, state)

/-- Validates and stores one override, replacing the row of its key. -/
def setVaultAdminOverride (key : JsString) (value : JsValue) :
    AdminProgram Unit := do
  (ensureVaultAdminConfigSchema database).await
  statement database fun state =>
    match database.refusal value with
    | some message => (.error message, state)
    | none => (.ok (), { state with rows := state.rows.set key value })

/-- Removes the row of a key, if there is one. -/
def deleteVaultAdminOverride (key : JsValue) : AdminProgram Unit := do
  (ensureVaultAdminConfigSchema database).await
  statement database fun state =>
    match database.keyText key with
    | .error message => (.error message, state)
    | .ok name => (.ok (), { state with rows := state.rows.delete name })

/-! ## The routes -/

inductive AdminResponse where
  | limited (response : VaultRateLimitHttpResponse)
  | entries (entries : List VaultAdminConfigEntry)
  | failure (status : Nat) (error : JsString)

/-- The message of an error; a value without a text throws one of the
engine. -/
def ConfigError.message : ConfigError → JsString
  | .error message => message
  | .typeError => js "Cannot convert object to primitive value"

/-- What the demo application builds its configuration from. -/
def demoConfigInput (adminOverrides : Option Overrides) :
    VaultAdminConfigInput :=
  { env := some env
    profile := some
      { aadContextVault := (env (js "VAULT_AAD_CONTEXT_VAULT")).getD
          (js "vault-core-demo:vault:v1")
        aadContextEnvelope := (env (js "VAULT_AAD_CONTEXT_ENVELOPE")).getD
          (js "vault-core-demo:envelope:v1") }
    prfSaltPrefix := some ((env (js "VAULT_PRF_SALT_PREFIX")).getD
      (js "vault-core-demo-passkey-prf-v1:"))
    productName := some ((env (js "APP_NAME")).getD (js "Vault Core Demo"))
    adminOverrides := adminOverrides }

/-- The configuration, or the text of the error. -/
def buildDemoConfig (adminOverrides : Option Overrides) :
    Except JsString VaultAdminConfig :=
  (buildVaultAdminConfigFromEnv platform.toLowerCase
    (demoConfigInput env adminOverrides)).mapError ConfigError.message

/-- The limiter is built on first use, from an environment that stays. -/
def enforceDemoVaultApiRateLimit (clientKey : JsString) :
    Sync AdminState JsString (Option AdminResponse) := fun state =>
  match buildDemoConfig platform env none with
  | .error message => (.error message, state)
  | .ok config =>
      match createVaultApiRateLimiterFromAdminConfig config with
      | none => (.ok none, state)
      | some limiter =>
          let consumed := consumeVaultApiRateLimit limiter
            { now := state.now
              apiNamespace := js "vault-admin-config"
              clientKey := clientKey } state.buckets
          let response :=
            if consumed.1.allowed then none
            else some (.limited (buildVaultRateLimitHttpResponse consumed.1))
          (.ok response, { state with buckets := consumed.2 })

/-- The configuration with the overrides of the table. -/
def buildResolvedConfig : AdminProgram VaultAdminConfig := do
  let adminOverrides ← (loadVaultAdminOverrides database).await
  Async.lift (Sync.ofExcept
    (buildDemoConfig platform env (some adminOverrides)))

/-- The end of each route, which loads the overrides once for the entries and
once for the configuration. -/
def listedEntries : AdminProgram AdminResponse := do
  let adminOverrides ← (loadVaultAdminOverrides database).await
  let config ← (buildResolvedConfig platform database env).await
  return .entries (listVaultAdminConfigEntries config (getVaultAdminEnv env)
    adminOverrides)

/-- A unit with the case of an ASCII letter removed. -/
def asciiLower (unit : UInt16) : UInt16 :=
  if 65 ≤ unit ∧ unit ≤ 90 then unit + 32 else unit

/-- A regular expression of one text and the flag that ignores the case. -/
def mentions (phrase : String) (message : JsString) : Bool :=
  decide ((js phrase).map asciiLower <:+: message.map asciiLower)

/-- `/not overridable|must be|Plaintext field/i` -/
def isClientFault (message : JsString) : Bool :=
  mentions "not overridable" message || mentions "must be" message ||
    mentions "Plaintext field" message

/-- The status of a failed request: a fault of the client, or of the server. -/
def statusOf (message : JsString) : Nat :=
  if isClientFault message then 422 else 500

/-- `!value` -/
def isFalsy : JsValue → Bool
  | .null => true
  | .boolean value => !value
  | .number (.finite value) => value == 0
  | .number .nan => true
  | .string text => text.isEmpty
  | _ => false

def memberOf (name : JsString) : JsValue → Option JsValue
  | .object members =>
      (members.find? fun member => member.1 == name).map Prod.snd
  | _ => none

mutual

/-- A parsed body as a value to search. -/
def bodyValue : JsValue → MetadataValue
  | .null => .null
  | .boolean value => .boolean value
  | .number value => .number value
  | .string text => .string text
  | .array items => .array (bodyItems items)
  | .object members => .object (bodyMembers members)

def bodyItems : List JsValue → List MetadataValue
  | [] => []
  | item :: items => bodyValue item :: bodyItems items

def bodyMembers : JsMembers → MetadataMembers
  | [] => []
  | (key, value) :: members => (key, bodyValue value) :: bodyMembers members

end

/-- The key of a request: nothing in place of a key that is missing, empty or
not true of a condition. -/
def readBodyKey (body : JsValue) : Except JsString (Option JsValue) :=
  match rejectVaultPlaintextFields platform (bodyValue body) with
  | some message => .error message
  | none =>
      if body.isNull then
        .error (js "Cannot read properties of null (reading 'key')")
      else
        match memberOf (js "key") body with
        | none => .ok none
        | some key => .ok (if isFalsy key then none else some key)

/-- The validation of a request.  No key but a text is in the set of keys, and
a missing value is refused as `null` is. -/
def validateRequest (key : JsValue) (value : Option JsValue) :
    Except JsString JsString :=
  match key with
  | .string name =>
      match validateVaultAdminOverride name (value.getD .null) with
      | .ok () => .ok name
      | .error error => .error error.message
  | other =>
      match other.stringOf with
      | some text =>
          .error (quotedKey text ++ js " is not overridable via admin panel")
      | none => .error (ConfigError.message .typeError)

/-- What `request.json()` settles to. -/
abbrev RequestBody := Except JsString JsValue

/-- A request of an admin, with what its body parses to. -/
inductive AdminRequest where
  | get (clientKey : JsString)
  | post (clientKey : JsString) (body : RequestBody)
  | delete (clientKey : JsString) (body : RequestBody)

/-- The answer to a body without a key. -/
def keyRequired : AdminResponse := .failure 400 (js "key is required")

/-- The limiter and then the rest of a route, whose errors become answers. -/
def guarded (clientKey : JsString) (status : JsString → Nat)
    (route : AdminProgram AdminResponse) : AdminProgram AdminResponse :=
  Async.tryCatch
    (do
      let rateLimited ←
        Async.lift (enforceDemoVaultApiRateLimit platform env clientKey)
      match rateLimited with
      | some limited => return limited
      | none => route)
    (fun message => pure (.failure (status message) message))

/-- What setting an override does after the limiter. -/
def postBody (body : RequestBody) : AdminProgram AdminResponse := do
  let body ← Async.awaitOutcome body
  let key ← Async.lift (Sync.ofExcept (readBodyKey platform body))
  match key with
  | none => return keyRequired
  | some key =>
      let name ← Async.lift (Sync.ofExcept
        (validateRequest key (memberOf (js "value") body)))
      (setVaultAdminOverride database name
        ((memberOf (js "value") body).getD .null)).await
      listedEntries platform database env

/-- What deleting an override does after the limiter. -/
def deleteBody (body : RequestBody) : AdminProgram AdminResponse := do
  let body ← Async.awaitOutcome body
  let key ← Async.lift (Sync.ofExcept (readBodyKey platform body))
  match key with
  | none => return keyRequired
  | some key =>
      (deleteVaultAdminOverride database key).await
      listedEntries platform database env

/-- The program of a request. -/
def adminRoute : AdminRequest → AdminProgram AdminResponse
  | .get clientKey =>
      guarded platform env clientKey (fun _ => 500)
        (listedEntries platform database env)
  | .post clientKey body =>
      guarded platform env clientKey statusOf (postBody platform database env
        body)
  | .delete clientKey body =>
      guarded platform env clientKey statusOf (deleteBody platform database
        env body)

/-- Any requests over the one table. -/
def adminMachine :
    Machine AdminRequest AdminEvent AdminState JsString AdminResponse where
  program := adminRoute platform database env
  environment := AdminEvent.apply

end Route

end Admin

end VaultCore
