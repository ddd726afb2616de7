import DebugLens.Scope.Basic

/-!
# Walking a tree of scopes

The walk keeps the scopes that are still to be visited on a stack, the next one first, and puts
the children of each visited scope on top, so that the last child comes first. The scopes that
contain an offset keep the order of the walk, from outer to inner, and inner declarations of a
slot replace outer ones.
-/
namespace DebugLens.Scope

/-- The scopes of a stack of trees in the order of the walk. -/
def walkFrom : List Scope → List Scope
  | [] => []
  | scope :: stack => scope :: walkFrom (scope.children.reverse ++ stack)
termination_by stack => totalSize stack
decreasing_by
  simp only [totalSize_append, totalSize_reverse, totalSize, size_eq scope]
  omega

/-- All scopes of a method in the order of the walk. -/
def walk (root? : Option Scope) : List Scope := walkFrom root?.toList

/-- The scopes that contain an offset; no scope contains a negative one. -/
def containing (scopes : List Scope) (inclusive : Bool) (offset : Int) : List Scope :=
  scopes.filter fun scope => 0 ≤ offset && scope.contains inclusive offset

/-- A table of slots with a name written into one slot, lengthened if it is too short. -/
def nameSlot (names : List (Option Text)) (slot : Nat) (name : Text) : List (Option Text) :=
  (names ++ List.replicate (slot + 1 - names.length) none).set slot (some name)

/-- The table of slots after a declaration. Hidden locals and negative slots do not count. -/
def declare (names : List (Option Text)) (declaration : LocalDeclaration) :
    List (Option Text) :=
  if declaration.isHidden || declaration.slot < 0 then names
  else nameSlot names declaration.slot.toNat declaration.name

/-- The names of the slots, as declared by the given scopes in order. -/
def localNames (scopes : List Scope) : List (Option Text) :=
  (scopes.flatMap locals).foldl declare []

end DebugLens.Scope
