import DebugLens.Assoc
import DebugLens.Number.ShortestDecimal
import DebugLens.Text.Digit
import DebugLens.Text.Quoted

/-!
# JSON values

Integers are exact and of any size, other numbers are binary floating-point numbers. The members
of an object keep the order of their first occurrence and the value of their last one. A value has a
text unless it holds an integer with more digits than a decimal numeral may have.
-/
namespace DebugLens

/-- A JSON value. -/
inductive Json where
  /-- The null value. -/
  | null
  /-- A truth value. -/
  | boolean (value : Bool)
  /-- A number written without fraction and exponent. -/
  | integer (value : Int)
  /-- Any other number. -/
  | float (value : Binary64)
  /-- A string. -/
  | string (value : Text)
  /-- An array. -/
  | array (items : List Json)
  /-- An object, its members in order. -/
  | object (members : List (Text × Json))
deriving Repr, Inhabited

namespace Json

/-- The members of an object given by pairs in order. -/
def membersOf (pairs : List (Text × Json)) : List (Text × Json) :=
  pairs.foldl (fun members (name, value) => assign name value members) []

/-- The member with a name. -/
def member? (members : List (Text × Json)) (name : Text) : Option Json := members.lookup name

/-- The kind of a value, by the name that error messages use for it. -/
def kindName : Json → String
  | null => "NoneType"
  | boolean _ => "bool"
  | integer _ => "int"
  | float _ => "float"
  | string _ => "str"
  | array _ => "list"
  | object _ => "dict"

/-- The value counts as given: it is not null, false, zero or empty. -/
def isGiven : Json → Bool
  | null => false
  | boolean value => value
  | integer value => value ≠ 0
  | float value => !value.isZero
  | string value => value ≠ ""
  | array items => !items.isEmpty
  | object members => !members.isEmpty

mutual

/-- The text of a value inside another one, where strings are quoted. There is none if an integer in
the value has too many digits to be written. -/
def shown? : Json → Option String
  | null => some "None"
  | boolean value => some (if value then "True" else "False")
  | integer value => Text.decimalText? value
  | float value => some value.text
  | string value => some (Text.quoted value)
  | array items => do
    let texts ← shownItems? items
    return "[" ++ ", ".intercalate texts ++ "]"
  | object members => do
    let texts ← shownMembers? members
    return "\x7b" ++ ", ".intercalate texts ++ "\x7d"

/-- The texts of the items of an array. -/
def shownItems? : List Json → Option (List String)
  | [] => some []
  | item :: items => do
    let text ← shown? item
    let texts ← shownItems? items
    return text :: texts

/-- The texts of the members of an object. -/
def shownMembers? : List (Text × Json) → Option (List String)
  | [] => some []
  | (name, value) :: members => do
    let text ← shown? value
    let texts ← shownMembers? members
    return (Text.quoted name ++ ": " ++ text) :: texts

end

/-- The text of a value, where a string stands for itself. -/
def plainText? : Json → Option Text
  | string value => some value
  | value => value.shown?.map Text.ofString

end Json

end DebugLens
