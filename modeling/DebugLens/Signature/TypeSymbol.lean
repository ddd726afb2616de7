import DebugLens.Text.CodePoint

/-!
# Type symbols

A type symbol describes a type as far as constants and locals need it: its name, whether it is
one of the special types with values of their own, whether it is a reference type, the
underlying type of an enumeration, and the element type of an array.
-/
namespace DebugLens

/-- The types with a meaning of their own. -/
inductive SpecialType where
  /-- No special type. -/
  | ordinary
  /-- The root of all types. -/
  | object
  /-- Truth values. -/
  | boolean
  /-- UTF-16 code units. -/
  | character
  /-- Signed integers of 8 bits. -/
  | int8
  /-- Unsigned integers of 8 bits. -/
  | uint8
  /-- Signed integers of 16 bits. -/
  | int16
  /-- Unsigned integers of 16 bits. -/
  | uint16
  /-- Signed integers of 32 bits. -/
  | int32
  /-- Unsigned integers of 32 bits. -/
  | uint32
  /-- Signed integers of 64 bits. -/
  | int64
  /-- Unsigned integers of 64 bits. -/
  | uint64
  /-- Exact decimal numbers. -/
  | decimal
  /-- Binary floating-point numbers of 32 bits. -/
  | single
  /-- Binary floating-point numbers of 64 bits. -/
  | double
  /-- Text. -/
  | string
  /-- Signed integers of pointer size. -/
  | intPtr
  /-- Unsigned integers of pointer size. -/
  | uintPtr
  /-- Dates and times. -/
  | dateTime
deriving DecidableEq, Repr

/-- The special types with the names that output uses for them. -/
def SpecialType.labels : List (SpecialType × String) :=
  [(.ordinary, "NONE"), (.object, "OBJECT"), (.boolean, "BOOLEAN"), (.character, "CHAR"),
    (.int8, "SBYTE"), (.uint8, "BYTE"), (.int16, "INT16"), (.uint16, "UINT16"),
    (.int32, "INT32"), (.uint32, "UINT32"), (.int64, "INT64"), (.uint64, "UINT64"),
    (.decimal, "DECIMAL"), (.single, "SINGLE"), (.double, "DOUBLE"), (.string, "STRING"),
    (.intPtr, "INTPTR"), (.uintPtr, "UINTPTR"), (.dateTime, "DATETIME")]

/-- The name that output uses for a special type. -/
def SpecialType.label (special : SpecialType) : String :=
  (SpecialType.labels.lookup special).getD ""

/-- The kinds of type symbols. -/
inductive SymbolKind where
  /-- A type with a name. -/
  | named
  /-- An array type. -/
  | array
  /-- A type that could not be found. -/
  | error
deriving DecidableEq, Repr

/-- The name that output uses for a kind. -/
def SymbolKind.label : SymbolKind → String
  | .named => "NAMED_TYPE"
  | .array => "ARRAY_TYPE"
  | .error => "ERROR_TYPE"

/-- A type. -/
structure TypeSymbol where
  /-- The full name. -/
  name : Text
  /-- The special type. -/
  special : SpecialType := .ordinary
  /-- The kind. -/
  kind : SymbolKind := .named
  /-- The type is a reference type. -/
  isReference : Bool := false
  /-- The underlying type of an enumeration. -/
  enumUnderlying? : Option TypeSymbol := none
  /-- The element type of an array. -/
  element? : Option TypeSymbol := none
deriving Repr

namespace TypeSymbol

/-- The type of text. -/
def string : TypeSymbol :=
  { name := "System.String", special := .string, isReference := true }

/-- The root of all types. -/
def object : TypeSymbol :=
  { name := "System.Object", special := .object, isReference := true }

/-- A type that could not be found, under the name that stands for it. -/
def missing (name : Text) : TypeSymbol := { name, kind := .error }

/-- The type of arrays with elements of a given type. -/
def arrayOf (element : TypeSymbol) : TypeSymbol where
  name := element.name ++ "[]"
  kind := .array
  isReference := true
  element? := some element

end TypeSymbol

end DebugLens
