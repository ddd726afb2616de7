import DebugLens.Proofs.Scope.Boundaries
import DebugLens.Proofs.Scope.Nesting

/-!
# The names of slots

Declarations are written into a table of slots one after the other, so each slot has the name that
was declared for it last. On the path to an offset, which leads from outer to inner scopes, that is
the last one in the deepest scope that declares any. The table ends at the largest slot with a
name, and hidden locals and those of negative slots leave no trace in it.
-/
namespace DebugLens

/-- A declaration counts if it is not hidden and its slot is not negative. -/
def LocalDeclaration.isVisible (declaration : LocalDeclaration) : Bool :=
  !declaration.isHidden && 0 ≤ declaration.slot

/-- A declaration counts for a slot. -/
def LocalDeclaration.isFor (declaration : LocalDeclaration) (slot : Nat) : Bool :=
  declaration.isVisible && declaration.slot = slot

namespace Scope

/-- Only declarations that count are written. -/
theorem declare_eq (names : List (Option Text)) (declaration : LocalDeclaration) :
    declare names declaration =
      if declaration.isVisible then nameSlot names declaration.slot.toNat declaration.name
      else names := by
  unfold declare LocalDeclaration.isVisible
  cases declaration.isHidden with
  | true => rfl
  | false =>
    by_cases negative : declaration.slot < 0
    · have invisible : ¬0 ≤ declaration.slot := Int.not_le.mpr negative
      simp [negative, invisible]
    · have visible : 0 ≤ declaration.slot := Int.not_lt.mp negative
      simp [negative, visible]

section Writing

variable (names : List (Option Text)) (slot : Nat) (name : Text)

/-- A table is as long as it was, unless it has to hold the slot. -/
theorem length_nameSlot : (nameSlot names slot name).length = max names.length (slot + 1) := by
  rw [nameSlot, List.length_set, List.length_append, List.length_replicate]
  omega

/-- Writing a name changes no other slot. -/
theorem join_nameSlot (other : Nat) :
    ((nameSlot names slot name)[other]?).join =
      if other = slot then some name else (names[other]?).join := by
  unfold nameSlot
  by_cases same : other = slot
  · subst same
    have inTable : other < (names ++ List.replicate (other + 1 - names.length) none).length := by
      rw [List.length_append, List.length_replicate]
      omega
    rw [List.getElem?_set_self inTable, if_pos rfl, Option.join_some]
  · rw [List.getElem?_set_ne (Ne.symm same), if_neg same]
    by_cases known : other < names.length
    · rw [List.getElem?_append_left known]
    · rw [List.getElem?_append_right (Nat.le_of_not_lt known), List.getElem?_replicate,
        List.getElem?_eq_none (Nat.le_of_not_lt known)]
      split
      · rfl
      · rfl

end Writing

/-- The table after a run of declarations ends at the last slot that it had or that one of them
names. -/
theorem length_foldl_declare_le_iff (declarations : List LocalDeclaration)
    (names : List (Option Text)) (bound : Nat) :
    (declarations.foldl declare names).length ≤ bound ↔
      names.length ≤ bound ∧
        ∀ declaration ∈ declarations, declaration.isVisible → declaration.slot.toNat < bound := by
  induction declarations generalizing names with
  | nil => simp
  | cons declaration declarations hypothesis =>
    rw [List.foldl_cons, hypothesis, declare_eq, List.forall_mem_cons]
    by_cases visible : declaration.isVisible
    · rw [if_pos visible, length_nameSlot, Nat.max_le]
      simp only [visible, true_implies, and_assoc, Nat.succ_le_iff]
    · rw [if_neg visible]
      simp only [visible, false_implies, true_and, Bool.false_eq_true]

/-- The name of a slot after a run of declarations is the last one declared for it. -/
theorem join_foldl_declare (declarations : List LocalDeclaration) (names : List (Option Text))
    (slot : Nat) :
    ((declarations.foldl declare names)[slot]?).join =
      ((declarations.filter (·.isFor slot)).getLast?.map (·.name)).or (names[slot]?).join := by
  induction declarations generalizing names with
  | nil => rfl
  | cons declaration declarations hypothesis =>
    have written : ((declare names declaration)[slot]?).join =
        if declaration.isFor slot then some declaration.name else (names[slot]?).join := by
      rw [declare_eq, LocalDeclaration.isFor]
      cases visible : declaration.isVisible with
      | false => rfl
      | true =>
        have nonnegative : 0 ≤ declaration.slot := by
          simp only [LocalDeclaration.isVisible, Bool.and_eq_true, decide_eq_true_eq] at visible
          exact visible.2
        have same : slot = declaration.slot.toNat ↔ declaration.slot = slot := by omega
        simp only [if_true, join_nameSlot, same, Bool.true_and, decide_eq_true_eq]
    rw [List.foldl_cons, hypothesis, written, List.filter_cons]
    split
    · rw [List.getLast?_cons]
      cases (declarations.filter (·.isFor slot)).getLast? with
      | none => rfl
      | some last => rfl
    · rfl

/-- The name that a scope declares for a slot: the last one, if there are several. -/
def nameAt? (scope : Scope) (slot : Nat) : Option Text :=
  (scope.locals.filter (·.isFor slot)).getLast?.map (·.name)

/-- The slots that scopes name, in the order of the declarations. -/
def namedSlots (scopes : List Scope) : List Nat :=
  ((scopes.flatMap locals).filter (·.isVisible)).map (·.slot.toNat)

/-- A slot has the name that the last scope with one for it declares. -/
theorem join_localNames (scopes : List Scope) (slot : Nat) :
    ((localNames scopes)[slot]?).join = scopes.reverse.findSome? (·.nameAt? slot) := by
  rw [localNames, join_foldl_declare, List.filter_flatMap, List.getLast?_flatMap,
    List.map_findSome?]
  exact Option.or_none

/-- A slot has a name exactly if a scope declares that name and no later scope has one for the
slot. -/
theorem localNames_eq_name_iff {scopes : List Scope} {slot : Nat} {name : Text} :
    (localNames scopes)[slot]? = some (some name) ↔
      ∃ outer scope inner, scopes = outer ++ scope :: inner ∧ scope.nameAt? slot = some name ∧
        ∀ deeper ∈ inner, deeper.nameAt? slot = none := by
  rw [← Option.join_eq_some_iff, join_localNames, List.findSome?_eq_some_iff]
  constructor
  · rintro ⟨later, scope, earlier, split, named, unnamed⟩
    refine ⟨earlier.reverse, scope, later.reverse, ?_, named, fun deeper listed =>
      unnamed deeper (List.mem_reverse.mp listed)⟩
    rw [← List.reverse_reverse scopes, split]
    simp
  · rintro ⟨outer, scope, inner, rfl, named, unnamed⟩
    exact ⟨inner.reverse, scope, outer.reverse, by simp, named, fun deeper listed =>
      unnamed deeper (List.mem_reverse.mp listed)⟩

/-- A slot of the table has no name exactly if no scope declares one for it. -/
theorem localNames_eq_none_iff {scopes : List Scope} {slot : Nat} :
    (localNames scopes)[slot]? = some none ↔
      slot < (localNames scopes).length ∧ ∀ scope ∈ scopes, scope.nameAt? slot = none := by
  have unnamed : ((localNames scopes)[slot]?).join = none ↔
      ∀ scope ∈ scopes, scope.nameAt? slot = none := by
    rw [join_localNames, List.findSome?_eq_none_iff]
    simp only [List.mem_reverse]
  rw [← unnamed]
  by_cases inTable : slot < (localNames scopes).length
  · rw [List.getElem?_eq_getElem inTable]
    simp [inTable]
  · rw [List.getElem?_eq_none (Nat.le_of_not_lt inTable)]
    simp [inTable]

/-- The table is one slot longer than the largest slot with a name, or empty. -/
theorem length_localNames (scopes : List Scope) :
    (localNames scopes).length = (namedSlots scopes).max?.elim 0 (· + 1) := by
  have bounded (bound : Nat) :
      (localNames scopes).length ≤ bound ↔ ∀ slot ∈ namedSlots scopes, slot < bound := by
    rw [localNames, length_foldl_declare_le_iff, namedSlots, List.forall_mem_map]
    simp only [List.mem_filter, and_imp, List.length_nil, Nat.zero_le, true_and]
  cases greatest : (namedSlots scopes).max? with
  | none =>
    rw [List.max?_eq_none_iff] at greatest
    have empty := (bounded 0).mpr (by simp [greatest])
    exact Nat.le_zero.mp empty
  | some slot =>
    obtain ⟨listed, largest⟩ := List.max?_eq_some_iff.mp greatest
    apply Nat.le_antisymm
    · exact (bounded (slot + 1)).mpr fun other named => Nat.lt_succ_of_le (largest other named)
    · exact (bounded _).mp (Nat.le_refl _) slot listed

/-! ### What leaves no trace -/

mutual

/-- The visible part of a tree: it without the declarations that do not count. -/
def visiblePart : Scope → Scope
  | node start stop locals constants children =>
    node start stop (locals.filter (·.isVisible)) constants (visiblePartOfAll children)

/-- The visible parts of trees. -/
def visiblePartOfAll : List Scope → List Scope
  | [] => []
  | scope :: scopes => scope.visiblePart :: visiblePartOfAll scopes

end

/-- The visible parts of scopes are taken one by one. -/
theorem visiblePartOfAll_eq (scopes : List Scope) :
    visiblePartOfAll scopes = scopes.map visiblePart := by
  induction scopes with
  | nil => rfl
  | cons scope scopes hypothesis => rw [visiblePartOfAll, hypothesis, List.map_cons]

/-- The visible part of a scope has its visible locals. -/
@[simp]
theorem locals_visiblePart (scope : Scope) :
    scope.visiblePart.locals = scope.locals.filter (·.isVisible) := by
  cases scope
  rw [visiblePart, locals, locals]

/-- The scopes inside the visible part are the visible parts of those inside. -/
@[simp]
theorem children_visiblePart (scope : Scope) :
    scope.visiblePart.children = scope.children.map visiblePart := by
  cases scope
  rw [visiblePart, children, children, visiblePartOfAll_eq]

/-- The visible part of a scope contains the same offsets. -/
@[simp]
theorem contains_visiblePart (scope : Scope) (inclusive : Bool) (offset : Int) :
    scope.visiblePart.contains inclusive offset = scope.contains inclusive offset := by
  cases scope
  rw [visiblePart]
  rfl

/-- The walk meets the same scopes without the declarations that do not count. -/
theorem preorder_visiblePart (root : Scope) :
    root.visiblePart.preorder = root.preorder.map visiblePart := by
  induction root using childInduction with
  | scope root hypothesis =>
    rw [preorder_eq, preorder_eq root, children_visiblePart, List.map_cons, List.map_flatMap,
      ← List.map_reverse, List.flatMap_map]
    congr 1
    exact List.flatMap_congr fun child listed => hypothesis child (List.mem_reverse.mp listed)

/-- So do the scopes that contain an offset. -/
theorem containing_visiblePart (root : Scope) (inclusive : Bool) (offset : Int) :
    containing (walk (some root.visiblePart)) inclusive offset =
      (containing (walk (some root)) inclusive offset).map visiblePart := by
  rw [walk_eq_preorder, walk_eq_preorder, preorder_visiblePart, containing, containing,
    List.filter_map]
  simp only [Function.comp_def, contains_visiblePart]

/-- The names of the slots do not depend on the declarations that do not count. -/
theorem localNames_map_visiblePart (scopes : List Scope) :
    localNames (scopes.map visiblePart) = localNames scopes := by
  have written : (scopes.map visiblePart).flatMap locals =
      (scopes.flatMap locals).filter (·.isVisible) := by
    rw [List.flatMap_map, List.filter_flatMap]
    exact List.flatMap_congr fun scope _ => locals_visiblePart scope
  have skipped : (fun names declaration =>
      if declaration.isVisible then declare names declaration else names) = declare := by
    funext names declaration
    rw [declare_eq]
    split
    · rfl
    · rfl
  rw [localNames, localNames, written, List.foldl_filter, skipped]

/-- The scopes of a well-nested tree that contain an offset are none, or a path that begins at the
root, goes on from parent to child and ends at the deepest of them. Each slot has the last name
that the deepest scope with one for it declares, the table ends at the largest slot with a name,
and declarations that do not count change nothing. -/
theorem innermost_names (root : Scope) (inclusive : Bool) (offset : Int)
    (nested : root.WellNested inclusive) (nonnegative : 0 ≤ offset) :
    ∃ path, containing (walk (some root)) inclusive offset = path ∧
      ((path = [] ∧ ∀ scope, Within scope root → ¬scope.contains inclusive offset) ∨
        ∃ place deepest, root.at? place = some deepest ∧ path = root.along place ∧
          path.head? = some root ∧ (path.IsChain fun outer inner => inner ∈ outer.children) ∧
          path.getLast? = some deepest ∧
          ∀ other scope, root.at? other = some scope →
            (scope.contains inclusive offset ↔ other <+: place)) ∧
      (∀ slot name, (localNames path)[slot]? = some (some name) ↔
        ∃ outer scope inner, path = outer ++ scope :: inner ∧ scope.nameAt? slot = some name ∧
          ∀ deeper ∈ inner, deeper.nameAt? slot = none) ∧
      (∀ slot, (localNames path)[slot]? = some none ↔
        slot < (localNames path).length ∧ ∀ scope ∈ path, scope.nameAt? slot = none) ∧
      (localNames path).length = (namedSlots path).max?.elim 0 (· + 1) ∧
      ∀ other : Scope, other.visiblePart = root.visiblePart →
        localNames (containing (walk (some other)) inclusive offset) = localNames path := by
  refine ⟨_, rfl, ?_, fun slot name => localNames_eq_name_iff,
    fun slot => localNames_eq_none_iff, length_localNames _, ?_⟩
  · obtain blank | ⟨place, deepest, found, onTheWay, exactly⟩ := nested.containing_cases nonnegative
    · exact .inl blank
    · refine .inr ⟨place, deepest, found, onTheWay, ?_⟩
      rw [onTheWay]
      exact ⟨head?_along root place, isChain_along root place, getLast?_along found, exactly⟩
  · intro other same
    rw [← localNames_map_visiblePart, ← containing_visiblePart, same, containing_visiblePart,
      localNames_map_visiblePart]

/-- A scope that names slot 0 twice. In the scope at its last offset only a hidden local is
declared. -/
def renamingScope : Scope :=
  .node 10 19 [⟨"x", 0, 0⟩, ⟨"y", 0, 0⟩, ⟨"z", 2, 0⟩] [] [.node 19 19 [⟨"v", 2, 3⟩] [] []]

/-- A tree in which an inner scope names slot 0 again, and so does the scope behind it. -/
def renamedSlots : Scope :=
  .node 0 100 [⟨"a", 0, 0⟩, ⟨"h", 9, 1⟩, ⟨"n", -1, 0⟩] [] [
    renamingScope, .node 20 40 [⟨"w", 0, 0⟩] [] []]

/-- Its scopes are well-nested if their ends belong to them. -/
theorem renamedSlots_wellNested : renamedSlots.WellNested true := by
  intro scope within
  have visited := mem_preorder.mpr within
  simp only [renamedSlots, renamingScope, preorder, preorderOfAll, List.nil_append,
    List.cons_append, List.mem_cons, List.not_mem_nil, or_false] at visited
  rcases visited with rfl | rfl | rfl | rfl
  · refine ⟨fun child listed offset inChild => ?_, ?_⟩
    · simp only [children, List.mem_cons, List.not_mem_nil, or_false] at listed
      rcases listed with rfl | rfl
      · simp only [contains_iff, start, stopExclusive, stop] at inChild ⊢
        omega
      · simp only [contains_iff, start, stopExclusive, stop] at inChild ⊢
        omega
    · refine List.pairwise_pair.mpr fun offset inFirst inSecond => ?_
      simp only [contains_iff, start, stopExclusive, stop] at inFirst inSecond
      omega
  · exact ⟨fun _ listed => absurd listed List.not_mem_nil, .nil⟩
  · refine ⟨fun child listed offset inChild => ?_, List.pairwise_singleton _ _⟩
    obtain rfl := List.mem_singleton.mp listed
    simp only [contains_iff, start, stopExclusive, stop] at inChild ⊢
    omega
  · exact ⟨fun _ listed => absurd listed List.not_mem_nil, .nil⟩

/-- At the last offset of the first inner scope, slot 0 has the last name declared there and the
slot behind it has none. The hidden locals neither rename slot 2 nor lengthen the table. -/
theorem innermost_names_renamed :
    renamedSlots.WellNested true ∧ (0 : Int) ≤ 19 ∧
      ∃ path, containing (walk (some renamedSlots)) true 19 = path ∧
        path.length = 3 ∧ (localNames path)[0]? = some (some ("y" : Text)) ∧
        (localNames path)[1]? = some none ∧ (localNames path)[2]? = some (some ("z" : Text)) ∧
        (localNames path).length = 3 ∧
        localNames (containing (walk (some renamedSlots.visiblePart)) true 19) =
          localNames path := by
  obtain ⟨path, found, -, named, unnamed, sized, unseen⟩ :=
    innermost_names renamedSlots true 19 renamedSlots_wellNested (by decide)
  have onTheWay : path = [renamedSlots, renamingScope, .node 19 19 [⟨"v", 2, 3⟩] [] []] := by
    rw [← found]
    cbv
  subst onTheWay
  have three : (localNames _).length = 3 := sized
  have hidden (slot : Nat) :
      ∀ deeper ∈ [node 19 19 [⟨"v", 2, 3⟩] [] []], deeper.nameAt? slot = none := by
    intro deeper listed
    obtain rfl := List.mem_singleton.mp listed
    rfl
  refine ⟨renamedSlots_wellNested, by decide, _, found, rfl, ?_, ?_, ?_, three, unseen _ rfl⟩
  · exact (named 0 "y").mpr ⟨[renamedSlots], renamingScope, _, rfl, rfl, hidden 0⟩
  · refine (unnamed 1).mpr ⟨by rw [three]; decide, ?_⟩
    exact List.forall_mem_cons.mpr ⟨rfl, List.forall_mem_cons.mpr ⟨rfl, hidden 1⟩⟩
  · exact (named 2 "z").mpr ⟨[renamedSlots], renamingScope, _, rfl, rfl, hidden 2⟩

end Scope

end DebugLens
