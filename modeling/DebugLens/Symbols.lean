import DebugLens.Constant.Conversion
import DebugLens.DynamicFlags
import DebugLens.Signature.TypeTable

/-!
# Symbols of locals and constants

Declarations become symbols once their types are decoded. A constant whose signature cannot be
decoded, whose type could not be found, or whose raw value is no constant of its type is left
out. Locals come from the signature of locals, which gives their number and types; declarations
only name them.
-/
namespace DebugLens

/-- A constant with its type and value. -/
structure ConstantSymbol where
  /-- The name. -/
  name : Text
  /-- The type. -/
  type : TypeSymbol
  /-- The value. -/
  value : ConstantValue
  /-- The dynamic flags. -/
  flags? : Option FlagList
deriving Repr

/-- A local with its type. -/
structure LocalSymbol where
  /-- The name. -/
  name? : Option Text
  /-- The slot. -/
  slot : Nat
  /-- The type, and how the local is kept. -/
  localType : Signature.LocalType
  /-- The dynamic flags. -/
  flags? : Option FlagList
deriving Repr

/-- The type of a declared constant, if it can be decoded and found. -/
def TypeTable.constantType? (table : TypeTable) (signature : Bytes) : Option TypeSymbol :=
  match Signature.decodeLocalType table.tokens signature with
  | .ok type => if type.kind = .error then none else some type
  | .error _ => none

/-- The symbol of a declared constant, unless it is left out. An integer that is too large for a
floating-point constant is no reason to leave it out, but an error. -/
def TypeTable.constantSymbol? (table : TypeTable) (flags : List (Text × FlagList))
    (declaration : ConstantDeclaration) : Except ConstantError (Option ConstantSymbol) :=
  match table.constantType? declaration.signature with
  | none => .ok none
  | some type =>
    match type.constant (.ofJson declaration.value) with
    | .ok value =>
      .ok (some { name := declaration.name, type, value, flags? := flags.lookup declaration.name })
    | .error .unacceptable => .ok none
    | .error .tooLarge => .error .tooLarge

/-- The symbols of declared constants, in order. -/
def TypeTable.constantSymbolsOf (table : TypeTable) (flags : List (Text × FlagList)) :
    List ConstantDeclaration → Except ConstantError (List ConstantSymbol)
  | [] => .ok []
  | declaration :: declarations => do
    let symbol? ← table.constantSymbol? flags declaration
    let symbols ← table.constantSymbolsOf flags declarations
    return symbol?.toList ++ symbols

/-- The symbols of the constants that scopes declare. -/
def TypeTable.constantSymbols (table : TypeTable) (scopes : List Scope)
    (flags : List (Text × FlagList)) : Except ConstantError (List ConstantSymbol) :=
  table.constantSymbolsOf flags (scopes.flatMap Scope.constants)

/-- The symbols of locals in slot order, given the names of the slots. -/
def localSymbols (names : List (Option Text)) (locals : List Signature.LocalType)
    (flags : List (Int × FlagList)) : List LocalSymbol :=
  locals.mapIdx fun slot localType => {
    name? := (names[slot]?).join
    slot, localType
    flags? := flags.lookup (slot : Int) }

end DebugLens
