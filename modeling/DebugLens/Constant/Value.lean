import DebugLens.Calendar
import DebugLens.Json.Basic
import DebugLens.Number.ExactDecimal

/-!
# Constant values

A constant is stored as a raw value, most often a number, and gets its meaning from its type. A
character constant may be half of a surrogate pair.
-/
namespace DebugLens

/-- A constant as it is stored. -/
inductive RawConstant where
  /-- Nothing. -/
  | missing
  /-- A truth value. -/
  | boolean (value : Bool)
  /-- An integer of any size. -/
  | integer (value : Int)
  /-- A binary floating-point number. -/
  | float (value : Binary64)
  /-- Text. -/
  | text (value : Text)
  /-- An exact decimal number. -/
  | decimal (value : ExactDecimal)
  /-- A date and time. -/
  | instant (value : DateTime)
  /-- An array or an object, which is never a constant. -/
  | composite
deriving DecidableEq, Repr

/-- The raw constant that a JSON value stands for. -/
def RawConstant.ofJson : Json → RawConstant
  | .null => .missing
  | .boolean value => .boolean value
  | .integer value => .integer value
  | .float value => .float value
  | .string value => .text value
  | .array _ => .composite
  | .object _ => .composite

/-- The value of a constant. -/
inductive ConstantValue where
  /-- The null reference. -/
  | null
  /-- A truth value. -/
  | boolean (value : Bool)
  /-- An integer. -/
  | integer (value : Int)
  /-- A character or half of a surrogate pair. -/
  | character (codePoint : CodePoint)
  /-- Text. -/
  | text (value : Text)
  /-- A binary floating-point number. -/
  | float (value : Binary64)
  /-- An exact decimal number. -/
  | decimal (value : ExactDecimal)
  /-- A date and time. -/
  | instant (value : DateTime)
deriving DecidableEq, Repr

/-- A value as it is shown. -/
def ConstantValue.shown : ConstantValue → String
  | .null => "null"
  | .boolean value => if value then "True" else "False"
  | .integer value => toString value
  | .character codePoint => Text.quoted [codePoint]
  | .text value => Text.quoted value
  | .float value => value.text
  | .decimal value => "Decimal('" ++ value.text ++ "')"
  | .instant value => value.text

end DebugLens
