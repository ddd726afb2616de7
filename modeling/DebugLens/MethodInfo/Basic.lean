import DebugLens.Assembly.Identity
import DebugLens.Import.Directive
import DebugLens.Scope.Span
import DebugLens.Symbols

/-!
# What is known about a method at an offset

Method info collects what an expression evaluator needs at an offset of a method: the imports by
nesting level, the extern aliases, the live ranges of hoisted locals, the dynamic flags, the
names of the slots, the constants in scope, and the span in which all of that stays true.
-/
namespace DebugLens

/-- What an import refers to. -/
inductive ImportTarget where
  /-- Nothing is named. -/
  | unnamed
  /-- A name. -/
  | text (name : Text)
  /-- A type. -/
  | type (symbol : TypeSymbol)
deriving Repr

/-- A resolved import directive. -/
structure ImportRecord where
  /-- What it imports. -/
  kind : Import.TargetKind
  /-- The name given to the target. -/
  alias? : Option Text := none
  /-- The target. -/
  target : ImportTarget := .unnamed
  /-- The extern alias of the assembly that holds the target. -/
  externAlias? : Option Text := none
deriving Repr

/-- The name of the target, if it is named by a text. -/
def ImportTarget.text? : ImportTarget → Option Text
  | .text name => some name
  | _ => none

/-- The target type, if it is a type. -/
def ImportTarget.type? : ImportTarget → Option TypeSymbol
  | .type symbol => some symbol
  | _ => none

/-- The target as it is shown. -/
def ImportTarget.shown? : ImportTarget → Option Text
  | .unnamed => none
  | .text name => some name
  | .type symbol => some symbol.name

/-- An alias for an assembly. -/
structure ExternAlias where
  /-- The alias. -/
  name : Text
  /-- The assembly. -/
  assembly : Assembly.Identity
deriving DecidableEq, Repr

/-- The live range of a hoisted local. -/
structure HoistedScope where
  /-- The first offset. -/
  start : Int
  /-- The number of offsets. -/
  length : Int
deriving DecidableEq, Repr

/-- The offset after the last one. -/
def HoistedScope.stop (scope : HoistedScope) : Int := scope.start + scope.length

/-- What is known about a method at an offset. -/
structure MethodInfo where
  /-- The live ranges of hoisted locals. -/
  hoisted : List HoistedScope := []
  /-- The imports by nesting level, or by reach. -/
  groups : List (List ImportRecord) := []
  /-- The extern aliases. -/
  externs : List ExternAlias := []
  /-- The dynamic flags. -/
  dynamic : DynamicMaps := {}
  /-- The root namespace of the project. -/
  defaultNamespace : Text := ""
  /-- The names of the slots. -/
  localNames : List (Option Text) := []
  /-- The constants in scope. -/
  constants : List ConstantSymbol := []
  /-- The span in which all of this stays true. -/
  reuseSpan : Span := .unbounded
deriving Repr

/-- Nothing is known. -/
def MethodInfo.unknown : MethodInfo := {}

end DebugLens
