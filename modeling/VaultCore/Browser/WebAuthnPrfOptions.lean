import VaultCore.Browser.BrowserValue
import VaultCore.Crypto.Encoding

/-!
# PRF inputs of a ceremony

The salts of a ceremony reach the browser as buffers.  What is a string, a
view or a list of numbers is converted, and an alignment step replaces the
inputs of single credentials by one input.  A single buffer passes both as it
is.
-/

namespace VaultCore

/-- A value of options, whose buffers are their bytes. -/
abbrev OptionsValue := BrowserValue Bytes

/-- The members of options, whose buffers are their bytes. -/
abbrev OptionsMembers := BrowserMembers Bytes

namespace OptionsValue

/-- `value[key]` -/
def get (value : OptionsValue) (key : String) : OptionsValue :=
  BrowserValue.get id value (js key)

/-- `{ ...value }` -/
def spread (value : OptionsValue) : OptionsMembers :=
  BrowserValue.entries id value

end OptionsValue

/-- A salt as a buffer: of a view, of a text in base64 and of a list of
numbers; any other value stays. -/
def coercePrfSaltToArrayBuffer : OptionsValue → OptionsValue
  | .arrayBuffer buffer => .arrayBuffer buffer
  | .view buffer byteOffset byteLength =>
      .arrayBuffer (BrowserValue.viewBytes id buffer byteOffset byteLength)
  | .string text =>
      match base64UrlToBytes text with
      | .ok bytes => .arrayBuffer bytes
      | .error _ => .string text
  | .array items =>
      match items.mapM BrowserValue.asNumber with
      | some numbers => .arrayBuffer (numbers.map JsNumber.toUint8)
      | none => .array items
  | value => value

def asArrayBuffer : OptionsValue → Option Bytes
  | .arrayBuffer buffer => some buffer
  | _ => none

/-- The member of a prepared input, if the given one can be converted. -/
def preparedSalt (evalInput : OptionsValue) (key : String) : OptionsMembers :=
  let value := evalInput.get key
  if value.isUndefined then []
  else
    match asArrayBuffer (coercePrfSaltToArrayBuffer value) with
    | some buffer => [(js key, .arrayBuffer buffer)]
    | none => []

/-- The inputs of an evaluation as buffers. -/
def preparePrfEval (evalInput : OptionsValue) : Option OptionsValue :=
  if !evalInput.truthy then none
  else
    let prepared := preparedSalt evalInput "first" ++
      preparedSalt evalInput "second"
    if prepared.isEmpty then none else some (.object prepared)

/-- The inputs of single credentials that can be converted. -/
def prepareEvalByCredential (evalByCredential : OptionsValue) :
    OptionsMembers :=
  evalByCredential.spread.filterMap fun entry =>
    (preparePrfEval entry.2).map fun prepared => (entry.1, prepared)

/-- The extensions with their PRF inputs as buffers. -/
def prepareWebAuthnPrfExtensions (extensions : OptionsValue) :
    OptionsValue :=
  let prf := extensions.get "prf"
  if !prf.truthy then extensions
  else
    let evalInput := prf.get "eval"
    let preparedEval :=
      if evalInput.truthy then preparePrfEval evalInput else none
    let byCredential := prf.get "evalByCredential"
    let evalByCredential :=
      if byCredential.truthy then prepareEvalByCredential byCredential else []
    let prfRest := withoutMember (withoutMember prf.spread (js "eval"))
      (js "evalByCredential")
    let withEval :=
      match preparedEval with
      | some prepared => withMember prfRest (js "eval") prepared
      | none => prfRest
    let prepared :=
      if evalByCredential.isEmpty then withEval
      else withMember withEval (js "evalByCredential")
        (.object evalByCredential)
    .object (withMember extensions.spread (js "prf") (.object prepared))

/-- The one credential of the ceremony, if there is one. -/
def resolveSingleCredentialId (options : OptionsMembers)
    (credentialId : Option JsString) : Option JsString :=
  let credentialId := credentialId.getD []
  if !credentialId.isEmpty then some credentialId
  else
    let allowCredentials := OptionsValue.get (.object options)
      "allowCredentials"
    if (allowCredentials.get "length").asNumber = some (.finite 1) then
      let found := (allowCredentials.get "0").get "id"
      if found.truthy then some (BrowserValue.keyText id found) else none
    else none

/-- `map[id] ?? (Object.keys(map).length === 1 ? Object.values(map)[0]
: undefined)` -/
def evalInputFor (evalByCredential : OptionsValue)
    (credentialId : JsString) : OptionsValue :=
  let found := BrowserValue.get id evalByCredential credentialId
  if !found.isNullish then found
  else
    match evalByCredential.spread with
    | [(_, only)] => only
    | _ => .undefined

/-- Of the inputs by credential, the one of the single credential becomes the
input. -/
def alignPrfExtensionsForCredential (options : OptionsMembers)
    (credentialId : Option JsString) : OptionsMembers :=
  let extensions := OptionsValue.get (.object options) "extensions"
  let prf := extensions.get "prf"
  let evalByCredential := prf.get "evalByCredential"
  if !evalByCredential.truthy then options
  else
    match resolveSingleCredentialId options credentialId with
    | none => options
    | some singleCredentialId =>
        let evalInput := evalInputFor evalByCredential singleCredentialId
        if !(evalInput.get "first").truthy then options
        else
          let prfWithoutMap := withoutMember prf.spread
            (js "evalByCredential")
          let aligned := withMember prfWithoutMap (js "eval")
            ((preparePrfEval evalInput).getD .undefined)
          withMember options (js "extensions") (.object
            (withMember extensions.spread (js "prf") (.object aligned)))

/-! ## One input -/

namespace OptionsValue

variable {members : OptionsMembers} {key other : String}
  {value : OptionsValue}

theorem get_of_lookup (found : members.lookup (js key) = some value) :
    OptionsValue.get (.object members) key = value :=
  BrowserValue.get_object found

theorem get_congr {others : OptionsMembers}
    (same : members.lookup (js key) = others.lookup (js key)) :
    OptionsValue.get (.object members) key =
      OptionsValue.get (.object others) key :=
  BrowserValue.get_congr same

@[simp] theorem get_withMember_self :
    OptionsValue.get (.object (withMember members (js key) value)) key =
      value :=
  get_of_lookup lookup_withMember_self

theorem get_withMember_of_ne (different : js other ≠ js key) :
    OptionsValue.get (.object (withMember members (js key) value)) other =
      OptionsValue.get (.object members) other :=
  get_congr (lookup_withMember_of_ne different)

theorem get_of_agreeOutside {keys : List JsString}
    {others : OptionsMembers} (agree : AgreeOutside keys members others)
    (outside : js key ∉ keys) :
    OptionsValue.get (.object others) key =
      OptionsValue.get (.object members) key :=
  get_congr (agree (js key) outside)

end OptionsValue

/-- `{ eval: { first: salt } }` -/
def canonicalPrf (salt : OptionsValue) : OptionsValue :=
  .object [(js "eval", .object [(js "first", salt)])]

section

variable {salt : OptionsValue} {bytes : Bytes}

theorem truthy_canonicalPrf : (canonicalPrf salt).truthy = true := rfl

theorem canonicalPrf_eval :
    (canonicalPrf salt).get "eval" = .object [(js "first", salt)] :=
  OptionsValue.get_of_lookup rfl

theorem canonicalPrf_evalFirst :
    ((canonicalPrf salt).get "eval").get "first" = salt := by
  rw [canonicalPrf_eval]
  exact OptionsValue.get_of_lookup rfl

theorem canonicalPrf_evalByCredential :
    (canonicalPrf salt).get "evalByCredential" = .undefined := by
  rfl

theorem preparePrfEval_canonical
    (first : coercePrfSaltToArrayBuffer salt = .arrayBuffer bytes) :
    preparePrfEval (.object [(js "first", salt)]) =
      some (.object [(js "first", .arrayBuffer bytes)]) := by
  have defined : salt.isUndefined = false := by
    cases salt <;> first | rfl | cases first
  have firstSalt : preparedSalt (.object [(js "first", salt)]) "first" =
      [(js "first", .arrayBuffer bytes)] := by
    have read : OptionsValue.get (.object [(js "first", salt)]) "first" =
        salt := OptionsValue.get_of_lookup rfl
    simp [preparedSalt, read, defined, first, asArrayBuffer]
  have secondSalt : preparedSalt (.object [(js "first", salt)]) "second" =
      [] := by
    rfl
  simp [preparePrfEval, firstSalt, secondSalt]

/-- The one input that can be converted is converted, and nothing is left
beside it. -/
theorem prepareWebAuthnPrfExtensions_canonical {extensions : OptionsValue}
    (prf : extensions.get "prf" = canonicalPrf salt)
    (first : coercePrfSaltToArrayBuffer salt = .arrayBuffer bytes) :
    prepareWebAuthnPrfExtensions extensions =
      .object (withMember extensions.spread (js "prf")
        (canonicalPrf (.arrayBuffer bytes))) := by
  have rest : withoutMember (withoutMember
      (OptionsValue.spread (canonicalPrf salt)) (js "eval"))
        (js "evalByCredential") = [] := by
    rfl
  have written : BrowserValue.object (withMember [] (js "eval")
      (.object [(js "first", .arrayBuffer bytes)])) =
        canonicalPrf (.arrayBuffer bytes) := rfl
  simp [prepareWebAuthnPrfExtensions, prf, rest, truthy_canonicalPrf,
    canonicalPrf_eval, canonicalPrf_evalByCredential,
    preparePrfEval_canonical first, written]

theorem alignPrfExtensionsForCredential_canonical
    {options : OptionsMembers} {credentialId : Option JsString}
    (prf : (OptionsValue.get (.object options) "extensions").get "prf" =
      canonicalPrf salt) :
    alignPrfExtensionsForCredential options credentialId = options := by
  simp [alignPrfExtensionsForCredential, prf, canonicalPrf_evalByCredential]

end

end VaultCore
