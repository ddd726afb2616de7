import DebugLens.Dump.Basic
import DebugLens.Scope.Walk

/-!
# The scopes of a tree

A scope lies within another one if it is that scope or lies within one of its children. The walk
over a stack of trees visits exactly the scopes that lie within one of them, so a statement about
all visited scopes is one about all scopes of the tree.
-/
namespace DebugLens.Scope

/-- A scope is another one, or lies somewhere below it. -/
inductive Within : Scope → Scope → Prop where
  /-- A scope lies within itself. -/
  | self (scope : Scope) : Within scope scope
  /-- What lies within a child lies within the parent. -/
  | inChild {inner child outer : Scope} (direct : child ∈ outer.children)
    (deeper : Within inner child) : Within inner outer

/-- A scope lies within another one exactly if it is that one or lies within one of its
children. -/
theorem within_iff {inner outer : Scope} :
    Within inner outer ↔ inner = outer ∨ ∃ child ∈ outer.children, Within inner child := by
  constructor
  · intro within
    cases within with
    | self => exact .inl rfl
    | inChild direct deeper => exact .inr ⟨_, direct, deeper⟩
  · rintro (rfl | ⟨child, direct, deeper⟩)
    · exact .self inner
    · exact .inChild direct deeper

/-- A scope below another one has a smaller tree. -/
theorem size_lt_of_mem_children {child scope : Scope} (direct : child ∈ scope.children) :
    child.size < scope.size := by
  have parts (scopes : List Scope) (listed : child ∈ scopes) : child.size ≤ totalSize scopes := by
    obtain ⟨front, back, rfl⟩ := List.append_of_mem listed
    rw [totalSize_append, totalSize]
    omega
  have below := parts _ direct
  rw [size_eq scope]
  omega

/-- What passes from the children of a scope to the scope holds of every scope. -/
@[elab_as_elim]
theorem childInduction {motive : Scope → Prop}
    (scope : ∀ scope, (∀ child ∈ scope.children, motive child) → motive scope)
    (root : Scope) : motive root :=
  scope root fun child _ => childInduction scope child
termination_by root.size
decreasing_by exact size_lt_of_mem_children ‹_›

/-- The walk from a stack visits what lies within the trees on the stack. -/
theorem mem_walkFrom (inner : Scope) (stack : List Scope) :
    inner ∈ walkFrom stack ↔ ∃ root ∈ stack, Within inner root := by
  -- The next stack is longer, but its trees have one scope less in total.
  induction stack using walkFrom.induct with
  | case1 => simp [walkFrom]
  | case2 scope stack hypothesis =>
    rw [walkFrom, List.mem_cons, hypothesis]
    simp only [List.mem_append, List.mem_reverse, List.mem_cons, or_and_right, exists_or,
      exists_eq_left]
    rw [@within_iff inner scope, or_assoc]

/-- The walk of a method visits what lies within its outermost scope. -/
theorem mem_walk (inner : Scope) (root? : Option Scope) :
    inner ∈ walk root? ↔ ∃ root, root? = some root ∧ Within inner root := by
  simp [walk, mem_walkFrom]

end DebugLens.Scope

namespace DebugLens.Dump

/-- The scopes of a method in the order of the walk. -/
def scopes (dump : Dump) (token version : Int) : List Scope :=
  Scope.walk ((dump.method? token version).bind (·.root?))

/-- The scope lies in the tree of a method. -/
def HasScope (dump : Dump) (token version : Int) (scope : Scope) : Prop :=
  ∃ method root, dump.method? token version = some method ∧ method.root? = some root ∧
    Scope.Within scope root

/-- The walk of a method visits exactly the scopes of its tree. -/
theorem mem_scopes (dump : Dump) (token version : Int) (scope : Scope) :
    scope ∈ dump.scopes token version ↔ dump.HasScope token version scope := by
  rw [scopes, Scope.mem_walk]
  simp only [HasScope, Option.bind_eq_some_iff]
  constructor
  · rintro ⟨root, ⟨method, found, rooted⟩, within⟩
    exact ⟨method, root, found, rooted, within⟩
  · rintro ⟨method, root, found, rooted, within⟩
    exact ⟨root, ⟨method, found, rooted⟩, within⟩

end DebugLens.Dump
