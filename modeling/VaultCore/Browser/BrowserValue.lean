import VaultCore.Data.OrderedMap
import VaultCore.Text.JsNumber
import VaultCore.Text.Utf8

/-!
# Values of the browser interface

What a page passes to the browser and gets back: JSON values, buffers and
views of buffers.  The buffers are of a type `β`, either their bytes or
references to them.
-/

namespace VaultCore

/-- A value of the browser, whose buffers are of a type of their own. -/
inductive BrowserValue (β : Type) where
  | undefined
  | null
  | boolean (value : Bool)
  | number (value : JsNumber)
  | string (text : JsString)
  /-- a function or another value that JSON does not have -/
  | foreign
  | arrayBuffer (buffer : β)
  | view (buffer : β) (byteOffset byteLength : Nat)
  | array (items : List (BrowserValue β))
  | object (members : List (JsString × BrowserValue β))

/-- The members of an object in their order. -/
abbrev BrowserMembers (β : Type) := List (JsString × BrowserValue β)

/-- The conversion of a number to a byte. -/
def JsNumber.toUint8 : JsNumber → UInt8
  | finite value =>
      let integer := if value < 0 then -⌊-value⌋ else ⌊value⌋
      UInt8.ofNat (integer % 256).toNat
  | _ => 0

namespace BrowserValue

variable {β : Type}

/-- `Boolean(value)` -/
def truthy : BrowserValue β → Bool
  | undefined => false
  | null => false
  | boolean value => value
  | number value => value != .finite 0 && value != .nan
  | string text => !text.isEmpty
  | _ => true

@[simp] theorem truthy_undefined :
    truthy (undefined : BrowserValue β) = false := rfl

@[simp] theorem truthy_object (members : List (JsString × BrowserValue β)) :
    truthy (object members) = true := rfl

/-- `value !== null && typeof value === "object"` -/
def isObject : BrowserValue β → Bool
  | arrayBuffer _ => true
  | view _ _ _ => true
  | array _ => true
  | object _ => true
  | _ => false

/-- `value == null` -/
def isNullish : BrowserValue β → Bool
  | undefined => true
  | null => true
  | _ => false

def isUndefined : BrowserValue β → Bool
  | undefined => true
  | _ => false

/-- A value that is a number. -/
def asNumber : BrowserValue β → Option JsNumber
  | number value => some value
  | _ => none

/-- Values under the names of their indices. -/
def indexed (index : Nat) : List (BrowserValue β) → BrowserMembers β
  | [] => []
  | item :: items =>
      (JsNumber.digitsText index, item) :: indexed (index + 1) items

/-- The names of the functions that every object inherits. -/
def objectPrototypeFunctions : List JsString :=
  ["constructor", "hasOwnProperty", "isPrototypeOf", "propertyIsEnumerable",
    "toLocaleString", "toString", "valueOf", "__defineGetter__",
    "__defineSetter__", "__lookupGetter__", "__lookupSetter__"].map js

/-- What an object has without owning it.  The prototype has no property that
is read through it. -/
def inherited (key : JsString) : BrowserValue β :=
  if key = js "__proto__" then object []
  else if objectPrototypeFunctions.contains key then foreign
  else undefined

section

variable (bytes : β → Bytes)

/-- The bytes that a view shows. -/
def viewBytes (buffer : β) (byteOffset byteLength : Nat) : Bytes :=
  ((bytes buffer).drop byteOffset).take byteLength

/-- `Object.entries(value)`, which is also what a spread copies. -/
def entries : BrowserValue β → BrowserMembers β
  | string text => indexed 0 (text.map fun unit => string [unit])
  | view buffer byteOffset byteLength =>
      indexed 0 ((viewBytes bytes buffer byteOffset byteLength).map
        fun byte => number (.finite byte.toNat))
  | array items => indexed 0 items
  | object members => members
  | _ => []

/-- The value of a property of the value's own. -/
def own (value : BrowserValue β) (key : JsString) : Option (BrowserValue β) :=
  match value with
  | string text =>
      if key = js "length" then some (number (.finite text.length))
      else (entries bytes value).lookup key
  | array items =>
      if key = js "length" then some (number (.finite items.length))
      else (entries bytes value).lookup key
  | _ => (entries bytes value).lookup key

/-- `value[key]` of a value that is neither null nor undefined, and
`value?.[key]` of any. -/
def get (value : BrowserValue β) (key : JsString) : BrowserValue β :=
  match value with
  | undefined => undefined
  | null => undefined
  | value => (own bytes value key).getD (inherited key)

mutual

/-- The text of a value as a property key. -/
def keyText : BrowserValue β → JsString
  | undefined => js "undefined"
  | null => js "null"
  | boolean value => js (if value then "true" else "false")
  | number value => numberText value
  | string text => text
  | foreign => js "[object Object]"
  | arrayBuffer _ => js "[object ArrayBuffer]"
  | view buffer byteOffset byteLength =>
      (js ",").intercalate ((viewBytes bytes buffer byteOffset
        byteLength).map fun byte => JsNumber.digitsText byte.toNat)
  | array items => (js ",").intercalate (keyTexts items)
  | object _ => js "[object Object]"

def keyTexts : List (BrowserValue β) → List JsString
  | [] => []
  | undefined :: items => [] :: keyTexts items
  | null :: items => [] :: keyTexts items
  | item :: items => keyText item :: keyTexts items

end

end

theorem get_object {bytes : β → Bytes} {members : BrowserMembers β}
    {key : JsString} {value : BrowserValue β}
    (found : members.lookup key = some value) :
    get bytes (object members) key = value := by
  simp only [get, own, entries, found, Option.getD_some]

theorem get_congr {bytes : β → Bytes} {members others : BrowserMembers β}
    {key : JsString} (same : members.lookup key = others.lookup key) :
    get bytes (object members) key = get bytes (object others) key := by
  simp only [get, own, entries, same]

/-- An object and its spread have the same properties.  Only the length of an
array is no entry. -/
theorem get_object_entries {bytes : β → Bytes} {value : BrowserValue β}
    {key : JsString} (shape : value.isObject = true)
    (property : key ≠ js "length") :
    get bytes (object (entries bytes value)) key = get bytes value key := by
  cases value with
  | array items => simp only [get, own, if_neg property, entries]
  | arrayBuffer buffer => rfl
  | view buffer byteOffset byteLength => rfl
  | object members => rfl
  | _ => cases shape

theorem get_of_isObject {bytes : β → Bytes} {value : BrowserValue β}
    (shape : value.isObject = true) (key : JsString) :
    get bytes value key = (own bytes value key).getD (inherited key) := by
  cases value with
  | undefined => cases shape
  | null => cases shape
  | _ => rfl

theorem inherited_cases (key : JsString) :
    (inherited key : BrowserValue β) = object [] ∨
      (inherited key : BrowserValue β) = foreign ∨
      (inherited key : BrowserValue β) = undefined := by
  unfold inherited
  split_ifs <;> simp

end BrowserValue

/-- `{ ...options, [key]: value }` -/
def withMember {β : Type} (members : BrowserMembers β) (key : JsString)
    (value : BrowserValue β) : BrowserMembers β :=
  OrderedMap.setEntry key value members

section

variable {β : Type} {members : BrowserMembers β} {key other : JsString}
  {value : BrowserValue β}

@[simp] theorem lookup_withMember_self :
    (withMember members key value).lookup key = some value :=
  OrderedMap.lookup_setEntry_self key value members

theorem lookup_withMember_of_ne (different : other ≠ key) :
    (withMember members key value).lookup other = members.lookup other :=
  OrderedMap.lookup_setEntry_of_ne different value members

/-- Two lists of members that differ only under the given keys. -/
def AgreeOutside (keys : List JsString)
    (members others : BrowserMembers β) : Prop :=
  ∀ key ∉ keys, others.lookup key = members.lookup key

theorem AgreeOutside.refl (keys : List JsString)
    (members : BrowserMembers β) : AgreeOutside keys members members := by
  intro key _
  rfl

theorem AgreeOutside.trans {keys : List JsString}
    {middle others : BrowserMembers β}
    (first : AgreeOutside keys members middle)
    (second : AgreeOutside keys middle others) :
    AgreeOutside keys members others := by
  intro key outside
  rw [second key outside, first key outside]

theorem AgreeOutside.mono {keys more : List JsString}
    {others : BrowserMembers β} (agree : AgreeOutside keys members others)
    (included : keys ⊆ more) : AgreeOutside more members others := by
  intro key outside
  exact agree key fun member => outside (included member)

theorem agreeOutside_withMember {keys : List JsString}
    (listed : key ∈ keys) :
    AgreeOutside keys members (withMember members key value) := by
  intro other outside
  apply lookup_withMember_of_ne
  rintro rfl
  exact outside listed

/-- `const { [key]: _, ...rest } = value` -/
def withoutMember (members : BrowserMembers β) (key : JsString) :
    BrowserMembers β :=
  members.filter fun member => member.1 != key

end

end VaultCore
