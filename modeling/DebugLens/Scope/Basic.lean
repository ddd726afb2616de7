import DebugLens.Bytes
import DebugLens.Json.Basic

/-!
# Scopes

A method has a tree of scopes. Each covers a range of offsets and declares locals, which live in
slots, and constants, which carry a raw value and a type signature. Whether the end of the range
belongs to it depends on the language, so it is a parameter of every question about containment.
-/
namespace DebugLens

/-- A local variable as it is declared. -/
structure LocalDeclaration where
  /-- The name, empty when there is none. -/
  name : Text
  /-- The slot. -/
  slot : Int
  /-- The attribute bits. -/
  attributes : Int
deriving DecidableEq, Repr

/-- The lowest attribute bit hides a local from the debugger. -/
def LocalDeclaration.isHidden (declaration : LocalDeclaration) : Bool :=
  declaration.attributes % 2 = 1

/-- A constant as it is declared. -/
structure ConstantDeclaration where
  /-- The name, empty when there is none. -/
  name : Text
  /-- The raw value. -/
  value : Json
  /-- The signature of its type. -/
  signature : Bytes
deriving Repr

/-- A scope with the scopes inside it. -/
inductive Scope where
  /-- A scope from its parts. -/
  | node (start stop : Int) (locals : List LocalDeclaration)
      (constants : List ConstantDeclaration) (children : List Scope)
deriving Repr

namespace Scope

/-- The first offset. -/
def start : Scope → Int
  | node start _ _ _ _ => start

/-- The last offset, or the one after it. -/
def stop : Scope → Int
  | node _ stop _ _ _ => stop

/-- The locals declared in the scope itself. -/
def locals : Scope → List LocalDeclaration
  | node _ _ locals _ _ => locals

/-- The constants declared in the scope itself. -/
def constants : Scope → List ConstantDeclaration
  | node _ _ _ constants _ => constants

/-- The scopes directly inside. -/
def children : Scope → List Scope
  | node _ _ _ _ children => children

/-- The offset lies in the range of the scope. -/
def contains (scope : Scope) (inclusive : Bool) (offset : Int) : Bool :=
  scope.start ≤ offset && (if inclusive then offset ≤ scope.stop else offset < scope.stop)

mutual

/-- The number of scopes in a tree. -/
def size : Scope → Nat
  | node _ _ _ _ children => 1 + totalSize children

/-- The number of scopes in a list of trees. -/
def totalSize : List Scope → Nat
  | [] => 0
  | scope :: scopes => scope.size + totalSize scopes

end

/-- The size of a tree is one more than that of the trees below its root. -/
theorem size_eq (scope : Scope) : scope.size = 1 + totalSize scope.children := by
  cases scope; simp [size, children]

/-- The sizes of two lists add up. -/
theorem totalSize_append (left right : List Scope) :
    totalSize (left ++ right) = totalSize left + totalSize right := by
  induction left with
  | nil => simp [totalSize]
  | cons scope scopes hypothesis => simp [totalSize, hypothesis, Nat.add_assoc]

/-- The order of a list does not change its size. -/
theorem totalSize_reverse (scopes : List Scope) :
    totalSize scopes.reverse = totalSize scopes := by
  induction scopes with
  | nil => rfl
  | cons scope scopes hypothesis =>
    simp only [List.reverse_cons, totalSize_append, hypothesis, totalSize]
    omega

end Scope

end DebugLens
