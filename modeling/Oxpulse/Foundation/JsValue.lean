import Mathlib.Data.List.Defs
import Mathlib.Logic.Function.Basic

/-!
# Values out of JSON

What `JSON.parse` makes, and what JavaScript does with such a value: reading a
property of it, asking whether it is truthy, and making the text of it that a
property key is. The text of an object is that of `Object.prototype.toString`, unless
the object has a property of that name itself, which is no function then: the
conversion throws.
-/

namespace Oxpulse

/-- The code units of an ASCII text. -/
def units (text : String) : List UInt16 := text.toList.map fun c => UInt16.ofNat c.toNat

/-- A number is given by its text, which is `0` for both zeros; an object has each of
its keys once. -/
inductive Json : Type where
  | null
  | bool (b : Bool)
  | number (text : List UInt16)
  | string (text : List UInt16)
  | array (elements : List Json)
  | object (fields : List (List UInt16 × Json))

namespace Json

def truthy : Json → Bool
  | .null => false
  | .bool b => b
  | .number text => text ≠ units "0"
  | .string text => text ≠ []
  | .array _ => true
  | .object _ => true

/-- The property of a name that no prototype has. -/
def field? (name : List UInt16) : Json → Option Json
  | .object fields => fields.lookup name
  | _ => none

/-- `value[name]` for such a name; `null` has no properties to ask for. -/
def get? (name : List UInt16) : Json → Option (Option Json)
  | .null => none
  | value => some (value.field? name)

mutual

/-- `String(value)`, when it does not throw. -/
def toText : Json → Option (List UInt16)
  | .null => some (units "null")
  | .bool true => some (units "true")
  | .bool false => some (units "false")
  | .number text => some text
  | .string text => some text
  | .array elements => (toTexts elements).map fun texts => [44].intercalate texts
  | .object fields =>
      if units "toString" ∈ fields.map Prod.fst then none else some (units "[object Object]")

/-- The texts that `join` puts together. -/
def toTexts : List Json → Option (List (List UInt16))
  | [] => some []
  | .null :: elements => (toTexts elements).map fun texts => [] :: texts
  | element :: elements =>
      (toText element).bind fun text => (toTexts elements).map fun texts => text :: texts

end

theorem get?_of_ne_null {value : Json} (h : value ≠ .null) (name : List UInt16) :
    value.get? name = some (value.field? name) := by
  cases value with
  | null => exact absurd rfl h
  | bool b => rfl
  | number text => rfl
  | string text => rfl
  | array elements => rfl
  | object fields => rfl

end Json

end Oxpulse
