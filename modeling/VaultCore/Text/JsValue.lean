import VaultCore.Text.JsNumber

/-!
# Parsed values

The values a JSON text can denote, and how the language converts them where a
string, a number or a condition is expected.  A conversion of an object that
carries a member `toString` has no result: the language throws a type error.
-/

namespace VaultCore

/-- A value of the language, as `JSON.parse` or an environment gives it. -/
inductive JsValue where
  | null
  | boolean (value : Bool)
  | number (value : JsNumber)
  | string (text : JsString)
  | array (items : List JsValue)
  | object (members : List (JsString × JsValue))

/-- The members of an object, in the order of its keys. -/
abbrev JsMembers := List (JsString × JsValue)

namespace JsValue

/-- `value === null` -/
def isNull : JsValue → Bool
  | null => true
  | _ => false

/-- `value === text` -/
def isText (value : JsValue) (text : JsString) : Bool :=
  match value with
  | string held => held == text
  | _ => false

/-- `Boolean(value)` -/
def truthy : JsValue → Bool
  | null => false
  | boolean value => value
  | number value => value != .finite 0 && value != .nan
  | string text => text != []
  | array _ => true
  | object _ => true

mutual

/-- `String(value)` -/
def stringOf : JsValue → Option JsString
  | null => some (js "null")
  | boolean value => some (js (if value then "true" else "false"))
  | number value => some (numberText value)
  | string text => some text
  | array items => (itemTexts items).map (js ",").intercalate
  | object members =>
      if members.any fun member => member.1 == js "toString" then none
      else some (js "[object Object]")

/-- The items of an array as it joins them: nothing for `null`. -/
def itemTexts : List JsValue → Option (List JsString)
  | [] => some []
  | item :: items => do
      let text ← if item.isNull then some [] else stringOf item
      let texts ← itemTexts items
      pure (text :: texts)

end

/-- `Number(value)` -/
def numberOf : JsValue → Option JsNumber
  | null => some (.finite 0)
  | boolean value => some (.finite (if value then 1 else 0))
  | number value => some value
  | value => (stringOf value).map numberOfText

/-- `value + number` -/
def plus (value : JsValue) (added : JsNumber) : Option JsValue :=
  match value with
  | null => some (number (JsNumber.add (.finite 0) added))
  | boolean held =>
      some (number (JsNumber.add (.finite (if held then 1 else 0)) added))
  | number held => some (number (JsNumber.add held added))
  | other => (stringOf other).map fun text => string (text ++ numberText added)

/-- `left < value` -/
def exceeds (value : JsValue) (left : JsNumber) : Option Bool :=
  (numberOf value).map left.lessThan

/-- `left >= value` -/
def reachedBy (value : JsValue) (left : JsNumber) : Option Bool :=
  (numberOf value).map left.atLeast

/-! ## Types -/

def IsBoolean (value : JsValue) : Prop := ∃ held, value = boolean held

/-- The value is a text that is not empty. -/
def IsNonEmptyString (value : JsValue) : Prop :=
  ∃ text, value = string text ∧ text ≠ []

/-- The value is one of the texts. -/
def IsOneOf (value : JsValue) (texts : List JsString) : Prop :=
  ∃ text ∈ texts, value = string text

def IsArray (value : JsValue) : Prop := ∃ items, value = array items

theorem isText_iff {value : JsValue} {text : JsString} :
    value.isText text = true ↔ value = string text := by
  cases value <;> simp [isText]

end JsValue

end VaultCore
