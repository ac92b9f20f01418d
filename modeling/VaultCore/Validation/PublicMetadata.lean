import VaultCore.Crypto.Encoding
import VaultCore.Crypto.Platform
import VaultCore.Data.OrderedMap
import VaultCore.Text.JsNumber
import VaultCore.Text.JsonText

/-!
# Public metadata of an envelope

What a caller attaches to a new envelope is visible to the server.  It may
hold JSON values only, within bounds on depth, size and length, and no member
under the name of a plaintext field.
-/

namespace VaultCore

/-- A value a caller may put into metadata: a JSON value, or one of the values
that metadata must not hold. -/
inductive MetadataValue where
  | undefined
  /-- a function, a symbol or a big integer -/
  | foreign
  | null
  | boolean (value : Bool)
  | number (value : JsNumber)
  | string (text : JsString)
  | array (items : List MetadataValue)
  | object (members : List (JsString × MetadataValue))
  /-- an object of a class, with its enumerable members -/
  | classObject (members : List (JsString × MetadataValue))

/-- The members of an object, in their order. -/
abbrev MetadataMembers := List (JsString × MetadataValue)

namespace MetadataValue

/-- `value === undefined` -/
def isUndefined : MetadataValue → Bool
  | undefined => true
  | _ => false

mutual

/-- `JSON.stringify(value)` of a JSON value. -/
def stringify : MetadataValue → JsString
  | undefined => js "null"
  | foreign => js "null"
  | null => js "null"
  | boolean value => js (if value then "true" else "false")
  | number value => numberText value
  | string text => Utf16.ofChars (JsonText.quote text)
  | array items =>
      js "[" ++ (js ",").intercalate (stringifyItems items) ++ js "]"
  | object members =>
      js "\x7b" ++ (js ",").intercalate (stringifyMembers members) ++ js "\x7d"
  | classObject members =>
      js "\x7b" ++ (js ",").intercalate (stringifyMembers members) ++ js "\x7d"

def stringifyItems : List MetadataValue → List JsString
  | [] => []
  | item :: items => stringify item :: stringifyItems items

def stringifyMembers : MetadataMembers → List JsString
  | [] => []
  | (key, value) :: members =>
      (Utf16.ofChars (JsonText.quote key) ++ js ":" ++ stringify value) ::
        stringifyMembers members

end

end MetadataValue

/-! ## Plaintext fields -/

def plaintextForbiddenVaultFields : List JsString :=
  ["vaultPassword", "confirmVaultPassword", "password", "recoveryPhrase",
    "recoveryWords", "mnemonic", "seed", "seedPhrase", "passphrase",
    "privateKey", "secret", "userVaultKey", "prfOutput", "puk",
    "portableUnlockKey", "decryptedPayload", "displayName", "walletLabel",
    "strategyNote", "subscriptionToken", "title", "body", "content",
    "message"].map js

section Validation

variable (platform : Platform)

/-- Whether the field is a plaintext one, in whatever letters. -/
def isVaultPlaintextForbiddenField (field : JsString) : Bool :=
  (plaintextForbiddenVaultFields.map platform.toLowerCase).contains
    (platform.toLowerCase field)

/-- The message about a plaintext field at its path. -/
def plaintextFieldMessage (field fieldPath : JsString) : JsString :=
  js "Plaintext field '" ++ field ++ js "' is not allowed at '" ++
    fieldPath ++ js "'"

def memberPath (path field : JsString) : JsString :=
  if path.isEmpty then field else path ++ js "." ++ field

mutual

/-- The message about the first plaintext field below a value. -/
def visitPlaintextFields (path : JsString) :
    MetadataValue → Option JsString
  | .undefined => none
  | .foreign => none
  | .null => none
  | .boolean _ => none
  | .number _ => none
  | .string _ => none
  | .array items => visitPlaintextItems path 0 items
  | .object members => visitPlaintextMembers path members
  | .classObject members => visitPlaintextMembers path members

/-- The entries of an array are named by their indices. -/
def visitPlaintextItems (path : JsString) (index : Nat) :
    List MetadataValue → Option JsString
  | [] => none
  | item :: items =>
      let field := JsNumber.digitsText index
      let fieldPath := memberPath path field
      if isVaultPlaintextForbiddenField platform field &&
          !item.isUndefined then
        some (plaintextFieldMessage field fieldPath)
      else
        (visitPlaintextFields fieldPath item).or
          (visitPlaintextItems path (index + 1) items)

/-- The message about the first plaintext field among the members. -/
def visitPlaintextMembers (path : JsString) :
    MetadataMembers → Option JsString
  | [] => none
  | (field, value) :: members =>
      let fieldPath := memberPath path field
      if isVaultPlaintextForbiddenField platform field &&
          !value.isUndefined then
        some (plaintextFieldMessage field fieldPath)
      else
        (visitPlaintextFields fieldPath value).or
          (visitPlaintextMembers path members)

end

/-- The message about the first plaintext field of a body. -/
def rejectVaultPlaintextFields (body : MetadataValue) : Option JsString :=
  visitPlaintextFields platform [] body

/-- Reject a body with a plaintext field. -/
def assertNoVaultPlaintextFields (body : MetadataValue) :
    Except VaultError Unit :=
  match rejectVaultPlaintextFields platform body with
  | some message => .error (.vaultPlaintextRejectionError message)
  | none => .ok ()

/-! ## JSON values within the bounds -/

def maxPublicMetadataBytes : Nat := 4096

def maxPublicMetadataDepth : Nat := 6

def maxPublicMetadataEntries : Nat := 64

def maxPublicMetadataKeyLength : Nat := 128

def notJsonMetadata : VaultError :=
  .typeError "Vault public metadata must contain JSON values only"

mutual

/-- A value is JSON, and its keys and depth are bounded. -/
def assertJsonMetadataValue (depth : Nat) :
    MetadataValue → Except VaultError Unit
  | .undefined => .error notJsonMetadata
  | .foreign => .error notJsonMetadata
  | .null => .ok ()
  | .boolean _ => .ok ()
  | .string _ => .ok ()
  | .number value => if value.isFinite then .ok () else .error notJsonMetadata
  | .array items =>
      if maxPublicMetadataDepth < depth then
        .error (.typeError "Vault public metadata exceeds the maximum depth")
      else if maxPublicMetadataEntries < items.length then
        .error (.typeError
          "Vault public metadata exceeds the maximum array length")
      else assertJsonMetadataItems (depth + 1) items
  | .object members =>
      if maxPublicMetadataDepth < depth then
        .error (.typeError "Vault public metadata exceeds the maximum depth")
      else if maxPublicMetadataEntries < members.length then
        .error (.typeError
          "Vault public metadata exceeds the maximum object size")
      else assertJsonMetadataMembers (depth + 1) members
  | .classObject _ =>
      if maxPublicMetadataDepth < depth then
        .error (.typeError "Vault public metadata exceeds the maximum depth")
      else
        .error (.typeError
          "Vault public metadata must contain plain objects only")

def assertJsonMetadataItems (depth : Nat) :
    List MetadataValue → Except VaultError Unit
  | [] => .ok ()
  | item :: items => do
      assertJsonMetadataValue depth item
      assertJsonMetadataItems depth items

/-- The check of every member, with its key. -/
def assertJsonMetadataMembers (depth : Nat) :
    MetadataMembers → Except VaultError Unit
  | [] => .ok ()
  | (key, value) :: members =>
      if key.length = 0 ∨ maxPublicMetadataKeyLength < key.length then
        .error (.typeError "Vault public metadata contains an invalid key")
      else do
        assertJsonMetadataValue depth value
        assertJsonMetadataMembers depth members

end

def isMetadataObject : MetadataValue → Bool
  | .object _ => true
  | .classObject _ => true
  | _ => false

/-- The checks of metadata that is published, in their order. -/
def assertSafeVaultPublicMetadata (metadata : MetadataValue) :
    Except VaultError Unit :=
  if !isMetadataObject metadata then
    .error (.typeError "Vault public metadata must be a plain object")
  else do
    assertNoVaultPlaintextFields platform metadata
    assertJsonMetadataValue 0 metadata
    if maxPublicMetadataBytes < (stringToBytes metadata.stringify).length then
      throw (.typeError "Vault public metadata exceeds 4096 bytes")
    else return ()

end Validation

/-! ## Members a caller cannot choose -/

/-- The members a spread copies. -/
def spreadMembers : Option MetadataValue → MetadataMembers
  | some (.object members) => members
  | some (.classObject members) => members
  | _ => []

/-- `{ ...publicMetadata, credentialId, prfRequired: true }` -/
def withFixedFields (publicMetadata : Option MetadataValue)
    (credentialId : JsString) : MetadataMembers :=
  OrderedMap.setEntry (js "prfRequired") (.boolean true)
    (OrderedMap.setEntry (js "credentialId") (.string credentialId)
      (spreadMembers publicMetadata))

theorem withFixedFields_lookup (publicMetadata : Option MetadataValue)
    (credentialId : JsString) :
    (withFixedFields publicMetadata credentialId).lookup (js "credentialId") =
        some (.string credentialId) ∧
      (withFixedFields publicMetadata credentialId).lookup
        (js "prfRequired") = some (.boolean true) := by
  have different : js "credentialId" ≠ js "prfRequired" := by decide
  constructor
  · rw [withFixedFields, OrderedMap.lookup_setEntry_of_ne different,
      OrderedMap.lookup_setEntry_self]
  · rw [withFixedFields, OrderedMap.lookup_setEntry_self]

end VaultCore
