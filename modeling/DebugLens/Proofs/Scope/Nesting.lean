import DebugLens.Proofs.Scope.Preorder
import Mathlib.Data.List.Chain

/-!
# The path to an offset

In a well-nested tree a scope contains only offsets that the scope around it contains, and no
offset lies in two scopes next to each other. Then the scopes that contain an offset are those on
the way from the root to one of them, the deepest, and the walk meets them in that order, although
it visits the last child first.
-/
namespace DebugLens.Scope

/-- The children of a scope lie in its range and apart from each other. -/
structure HasNestedChildren (inclusive : Bool) (scope : Scope) : Prop where
  /-- An offset in a child lies in the scope. -/
  inside : ∀ child ∈ scope.children, ∀ offset, child.contains inclusive offset →
    scope.contains inclusive offset
  /-- An offset in a child lies in no other one. -/
  apart : scope.children.Pairwise fun earlier later => ∀ offset,
    earlier.contains inclusive offset → ¬later.contains inclusive offset

/-- The children of every scope of a tree lie in its range and apart from each other. -/
def WellNested (inclusive : Bool) (root : Scope) : Prop :=
  ∀ scope, Within scope root → scope.HasNestedChildren inclusive

/-- The scopes on the way to a place, from the root on. -/
def along : Scope → List Nat → List Scope
  | scope, [] => [scope]
  | scope, index :: place =>
    scope :: scope.children[index]?.elim [] fun child => child.along place

/-- The way to a place begins at the root. -/
theorem head?_along (root : Scope) (place : List Nat) : (root.along place).head? = some root := by
  cases place <;> rfl

/-- Each next scope on the way to a place is a child of the one before. -/
theorem isChain_along (root : Scope) (place : List Nat) :
    (root.along place).IsChain fun outer inner => inner ∈ outer.children := by
  induction place generalizing root with
  | nil => exact .singleton root
  | cons index place hypothesis =>
    rw [along, List.isChain_cons]
    cases found : root.children[index]? with
    | none => exact ⟨nofun, .nil⟩
    | some child =>
      refine ⟨fun next first => ?_, hypothesis child⟩
      rw [Option.elim_some, head?_along] at first
      obtain rfl := Option.some.inj first
      exact List.mem_of_getElem? found

/-- The way to a place ends at the scope there. -/
theorem getLast?_along {root deepest : Scope} {place : List Nat}
    (found : root.at? place = some deepest) : (root.along place).getLast? = some deepest := by
  induction place generalizing root with
  | nil => exact found
  | cons index place hypothesis =>
    obtain ⟨child, direct, below⟩ := Option.bind_eq_some_iff.mp found
    have ended := hypothesis below
    rw [along, direct, Option.elim_some, List.getLast?_cons, ended]
    rfl

/-- The scope at a place lies within the root. -/
theorem within_of_at? {root scope : Scope} {place : List Nat} (found : root.at? place = some scope) :
    Within scope root := by
  induction place generalizing root with
  | nil =>
    obtain rfl := Option.some.inj found
    exact .self root
  | cons index place hypothesis =>
    obtain ⟨child, direct, below⟩ := Option.bind_eq_some_iff.mp found
    exact .inChild (List.mem_of_getElem? direct) (hypothesis below)

namespace WellNested

variable {inclusive : Bool} {offset : Int} {root : Scope}

/-- The tree of a child is well-nested. -/
theorem child (nested : root.WellNested inclusive) {child : Scope}
    (direct : child ∈ root.children) : child.WellNested inclusive :=
  fun scope within => nested scope (.inChild direct within)

/-- An offset in a scope of the tree lies in the root. -/
theorem contains_root {inner : Scope} (nested : root.WellNested inclusive)
    (within : Within inner root) (inside : inner.contains inclusive offset) :
    root.contains inclusive offset := by
  induction within with
  | self => exact inside
  | inChild direct deeper hypothesis =>
    have inChild := hypothesis (nested.child direct)
    exact (nested _ (.self _)).inside _ direct offset inChild

/-- An offset outside some children of the root lies in none of their scopes. -/
theorem filter_preorder_eq_nil (nested : root.WellNested inclusive) (scopes : List Scope)
    (listed : ∀ scope ∈ scopes, scope ∈ root.children)
    (outside : ∀ scope ∈ scopes, ¬scope.contains inclusive offset) :
    (scopes.flatMap preorder).filter (·.contains inclusive offset) = [] := by
  apply List.filter_eq_nil_iff.mpr
  intro inner visited inside
  obtain ⟨scope, member, visited⟩ := List.mem_flatMap.mp visited
  have within := mem_preorder.mp visited
  exact outside scope member ((nested.child (listed scope member)).contains_root within inside)

/-- If no child contains an offset, only the root can. -/
theorem filter_preorder_of_no_child (nested : root.WellNested inclusive)
    (inside : root.contains inclusive offset)
    (outside : ∀ child ∈ root.children, ¬child.contains inclusive offset) :
    root.preorder.filter (·.contains inclusive offset) = [root] := by
  have quiet := nested.filter_preorder_eq_nil root.children.reverse
    (fun child => List.mem_reverse.mp) fun child listed =>
      outside child (List.mem_reverse.mp listed)
  rw [preorder_eq, List.filter_cons, if_pos inside, quiet]

/-- If a child contains an offset, the root and scopes of that child's tree do. -/
theorem filter_preorder_of_child (nested : root.WellNested inclusive)
    (inside : root.contains inclusive offset) {child : Scope} (direct : child ∈ root.children)
    (inChild : child.contains inclusive offset) :
    root.preorder.filter (·.contains inclusive offset) =
      root :: child.preorder.filter (·.contains inclusive offset) := by
  have apart := (nested root (.self root)).apart
  obtain ⟨front, back, split⟩ := List.append_of_mem direct
  rw [split, List.pairwise_append, List.pairwise_cons] at apart
  -- The trees in front of the child and behind it contribute nothing.
  have inFront (other : Scope) (listed : other ∈ front.reverse) : other ∈ root.children := by
    rw [split]
    exact List.mem_append_left _ (List.mem_reverse.mp listed)
  have inBack (other : Scope) (listed : other ∈ back.reverse) : other ∈ root.children := by
    rw [split]
    exact List.mem_append_right _ (.tail _ (List.mem_reverse.mp listed))
  have quietFront := nested.filter_preorder_eq_nil front.reverse inFront
    fun other listed inOther =>
      apart.2.2 other (List.mem_reverse.mp listed) child (.head _) offset inOther inChild
  have quietBack := nested.filter_preorder_eq_nil back.reverse inBack
    fun other listed => apart.2.1.1 other (List.mem_reverse.mp listed) offset inChild
  rw [preorder_eq, List.filter_cons, if_pos inside, split]
  simp only [List.reverse_append, List.reverse_cons, List.flatMap_append, List.flatMap_singleton,
    List.filter_append, quietFront, quietBack, List.nil_append, List.append_nil]

/-- No offset lies in children at two indices. -/
theorem index_unique (nested : root.WellNested inclusive) {index other : Nat}
    {child sibling : Scope} (here : root.children[index]? = some child)
    (there : root.children[other]? = some sibling) (inChild : child.contains inclusive offset)
    (inSibling : sibling.contains inclusive offset) : index = other := by
  have apart := List.pairwise_iff_getElem.mp (nested root (.self root)).apart
  obtain ⟨hasIndex, rfl⟩ := List.getElem?_eq_some_iff.mp here
  obtain ⟨hasOther, rfl⟩ := List.getElem?_eq_some_iff.mp there
  rcases Nat.lt_trichotomy index other with before | same | behind
  · exact absurd inSibling (apart index other hasIndex hasOther before offset inChild)
  · exact same
  · exact absurd inChild (apart other index hasOther hasIndex behind offset inSibling)

/-- An offset in a scope below the root lies in the child on the way to it. -/
theorem exists_child_of_at? (nested : root.WellNested inclusive) {index : Nat} {below : List Nat}
    {scope : Scope} (found : root.at? (index :: below) = some scope)
    (inScope : scope.contains inclusive offset) :
    ∃ child, root.children[index]? = some child ∧ child.contains inclusive offset := by
  obtain ⟨child, here, deeper⟩ := Option.bind_eq_some_iff.mp found
  have direct : child ∈ root.children := List.mem_of_getElem? here
  exact ⟨child, here, (nested.child direct).contains_root (within_of_at? deeper) inScope⟩

/-- If the root contains an offset, the scopes that contain it are those on the way to one of
them. -/
theorem exists_place (nested : root.WellNested inclusive)
    (inside : root.contains inclusive offset) :
    ∃ place deepest, root.at? place = some deepest ∧
      root.preorder.filter (·.contains inclusive offset) = root.along place ∧
      ∀ other scope, root.at? other = some scope →
        (scope.contains inclusive offset ↔ other <+: place) := by
  induction root using childInduction with
  | scope root hypothesis =>
    by_cases deeper : ∃ child ∈ root.children, child.contains inclusive offset
    · obtain ⟨child, direct, inChild⟩ := deeper
      obtain ⟨place, deepest, found, onTheWay, exactly⟩ :=
        hypothesis child direct (nested.child direct) inChild
      obtain ⟨index, here⟩ := List.mem_iff_getElem?.mp direct
      refine ⟨index :: place, deepest, ?_, ?_, ?_⟩
      · rw [at?, here]
        exact found
      · rw [nested.filter_preorder_of_child inside direct inChild, onTheWay, along, here,
          Option.elim_some]
      · intro other scope foundOther
        cases other with
        | nil =>
          obtain rfl := Option.some.inj foundOther
          exact iff_of_true inside List.nil_prefix
        | cons otherIndex below =>
          rw [List.cons_prefix_cons]
          by_cases same : otherIndex = index
          · subst same
            rw [at?, here] at foundOther
            rw [exactly below scope foundOther]
            exact (and_iff_right rfl).symm
          · refine iff_of_false (fun inScope => same ?_) fun onTheWay => same onTheWay.1
            obtain ⟨sibling, there, inSibling⟩ := nested.exists_child_of_at? foundOther inScope
            exact nested.index_unique there here inSibling inChild
    · have outside : ∀ child ∈ root.children, ¬child.contains inclusive offset :=
        fun child direct inChild => deeper ⟨child, direct, inChild⟩
      refine ⟨[], root, rfl, nested.filter_preorder_of_no_child inside outside, ?_⟩
      intro other scope foundOther
      cases other with
      | nil =>
        obtain rfl := Option.some.inj foundOther
        exact iff_of_true inside List.nil_prefix
      | cons index below =>
        refine iff_of_false (fun inScope => ?_) fun front =>
          List.cons_ne_nil index below (List.prefix_nil.mp front)
        obtain ⟨child, here, inChild⟩ := nested.exists_child_of_at? foundOther inScope
        exact outside child (List.mem_of_getElem? here) inChild

/-- The scopes of a well-nested tree that contain an offset: none, or those on the way to one of
them. -/
theorem containing_cases (nested : root.WellNested inclusive) (nonnegative : 0 ≤ offset) :
    (containing (walk (some root)) inclusive offset = [] ∧
      ∀ scope, Within scope root → ¬scope.contains inclusive offset) ∨
    ∃ place deepest, root.at? place = some deepest ∧
      containing (walk (some root)) inclusive offset = root.along place ∧
      ∀ other scope, root.at? other = some scope →
        (scope.contains inclusive offset ↔ other <+: place) := by
  have found : containing (walk (some root)) inclusive offset =
      root.preorder.filter (·.contains inclusive offset) := by
    simp [containing, walk_eq_preorder, nonnegative]
  rw [found]
  by_cases inside : root.contains inclusive offset
  · exact .inr (nested.exists_place inside)
  · have outside (scope : Scope) (within : Within scope root) :
        ¬scope.contains inclusive offset := fun inScope =>
      inside (nested.contains_root within inScope)
    exact .inl ⟨List.filter_eq_nil_iff.mpr fun scope visited =>
      outside scope (mem_preorder.mp visited), outside⟩

end WellNested

end DebugLens.Scope
