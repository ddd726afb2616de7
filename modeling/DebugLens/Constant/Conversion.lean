import DebugLens.Constant.Value
import DebugLens.Number.Power
import DebugLens.Signature.TypeSymbol

/-!
# Typed constants

A raw constant is converted by its type, an enumeration by its underlying type. Integers are
taken modulo the width of the type as long as they fit into it as either a signed or an unsigned
number. Floating-point constants come from any number, decimal ones from integers and numerals,
instants from counts of 100 nanoseconds, and a zero is the null reference of a reference type.
-/
namespace DebugLens

/-- Why a raw value gives no constant. -/
inductive ConstantError where
  /-- The raw value is no constant of the type. -/
  | unacceptable
  /-- The integer is too large for a floating-point number. -/
  | tooLarge
deriving DecidableEq, Repr

/-- The wording of an error. -/
def ConstantError.message : ConstantError → String
  | .unacceptable => "bad constant value"
  | .tooLarge => "int too large to convert to float"

/-- An integral type by its width in bits and its signedness. -/
structure IntegralType where
  /-- The width in bits. -/
  bits : Nat
  /-- The type has negative numbers. -/
  signed : Bool
deriving DecidableEq, Repr

/-- The integral type that a special type is. -/
def SpecialType.integral? : SpecialType → Option IntegralType
  | .int8 => some ⟨8, true⟩
  | .uint8 => some ⟨8, false⟩
  | .int16 => some ⟨16, true⟩
  | .uint16 => some ⟨16, false⟩
  | .int32 => some ⟨32, true⟩
  | .uint32 => some ⟨32, false⟩
  | .int64 => some ⟨64, true⟩
  | .uint64 => some ⟨64, false⟩
  | _ => none

/-- How many numbers an integral type has. -/
def IntegralType.modulus (type : IntegralType) : Int := twoTo type.bits

/-- Half of that, where the numbers of a signed type end. -/
def IntegralType.half (type : IntegralType) : Int := twoTo (type.bits - 1)

/-- An integer as a number of an integral type, if it fits the width with either signedness. -/
def IntegralType.wrap? (type : IntegralType) (value : Int) : Option Int :=
  if -type.half ≤ value ∧ value < type.modulus then
    let residue := value % type.modulus
    if type.signed ∧ type.half ≤ residue then some (residue - type.modulus) else some residue
  else none

/-- An integral constant. -/
def integralConstant (type : IntegralType) : RawConstant → Except ConstantError ConstantValue
  | .integer value =>
    match type.wrap? value with
    | some value => .ok (.integer value)
    | none => .error .unacceptable
  | _ => .error .unacceptable

/-- A truth value, from an integer or itself. -/
def booleanConstant : RawConstant → Except ConstantError ConstantValue
  | .boolean value => .ok (.boolean value)
  | .integer value => .ok (.boolean (value ≠ 0))
  | _ => .error .unacceptable

/-- A character, from a text of one character or a code unit. -/
def characterConstant : RawConstant → Except ConstantError ConstantValue
  | .text [c] => .ok (.character c)
  | .integer value =>
    match IntegralType.wrap? ⟨16, false⟩ value with
    | some unit => .ok (.character (.ofUnit unit.toNat))
    | none => .error .unacceptable
  | _ => .error .unacceptable

/-- A floating-point number; integers are rounded to the nearest one. -/
def floatConstant : RawConstant → Except ConstantError ConstantValue
  | .float value => .ok (.float value)
  | .integer value =>
    match Binary64.ofInt? value with
    | some value => .ok (.float value)
    | none => .error .tooLarge
  | _ => .error .unacceptable

/-- An exact decimal number, from itself, an integer or a numeral. -/
def decimalConstant : RawConstant → Except ConstantError ConstantValue
  | .decimal value => .ok (.decimal value)
  | .integer value => .ok (.decimal (.ofInt value))
  | .text value =>
    match ExactDecimal.ofText? value with
    | some value => .ok (.decimal value)
    | none => .error .unacceptable
  | _ => .error .unacceptable

/-- The number of ticks in a microsecond. -/
def ticksPerMicrosecond : Nat := 10

/-- A date and time, from itself or a count of ticks. -/
def instantConstant : RawConstant → Except ConstantError ConstantValue
  | .instant value => .ok (.instant value)
  | .integer (.ofNat ticks) =>
    match DateTime.ofMicroseconds? (ticks / ticksPerMicrosecond) with
    | some value => .ok (.instant value)
    | none => .error .unacceptable
  | _ => .error .unacceptable

/-- Text; a zero is the null reference and nothing is the empty text. -/
def textConstant : RawConstant → Except ConstantError ConstantValue
  | .text value => .ok (.text value)
  | .missing => .ok (.text "")
  | .integer 0 => .ok .null
  | _ => .error .unacceptable

/-- The null reference, written as a zero. -/
def nullConstant : RawConstant → Except ConstantError ConstantValue
  | .integer 0 => .ok .null
  | _ => .error .unacceptable

/-- A constant of a special type; `isReference` tells whether null is a value of the type. -/
def constantOf (special : SpecialType) (isReference : Bool) (raw : RawConstant) :
    Except ConstantError ConstantValue :=
  match special.integral? with
  | some type => integralConstant type raw
  | none =>
    match special with
    | .boolean => booleanConstant raw
    | .character => characterConstant raw
    | .single => floatConstant raw
    | .double => floatConstant raw
    | .decimal => decimalConstant raw
    | .dateTime => instantConstant raw
    | .string => textConstant raw
    | .object => nullConstant raw
    | _ => if isReference then nullConstant raw else .error .unacceptable

/-- The type that decides how a constant is read. -/
def TypeSymbol.representation (type : TypeSymbol) : TypeSymbol := type.enumUnderlying?.getD type

/-- The value of a constant of a given type. -/
def TypeSymbol.constant (type : TypeSymbol) (raw : RawConstant) :
    Except ConstantError ConstantValue :=
  constantOf type.representation.special type.representation.isReference raw

end DebugLens
