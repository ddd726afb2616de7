import DebugLens.Proofs.Scope.Tree
import Mathlib.Data.List.Lex
import Mathlib.Logic.Function.Iterate

/-!
# The order of the walk

The recursive walk of a tree visits its root and then the trees of the children, the last child
first. A place in a tree tells which child to go to at each level. The walk with a stack visits
the same scopes in the same order, one at each place of the tree: a place before those below it,
and where two places part, the one at the later child before the other.
-/
namespace DebugLens.Scope

mutual

/-- The scopes of a tree, the root first and then those of the last child's tree. -/
def preorder : Scope → List Scope
  | node start stop locals constants children =>
    node start stop locals constants children :: preorderOfAll children

/-- The scopes of a list of trees, those of the last tree first. -/
def preorderOfAll : List Scope → List Scope
  | [] => []
  | scope :: scopes => preorderOfAll scopes ++ scope.preorder

end

/-- The scopes of a list of trees are those of each tree, from the last one on. -/
theorem preorderOfAll_eq (scopes : List Scope) :
    preorderOfAll scopes = scopes.reverse.flatMap preorder := by
  induction scopes with
  | nil => rfl
  | cons scope scopes hypothesis =>
    rw [preorderOfAll, hypothesis, List.reverse_cons, List.flatMap_append, List.flatMap_singleton]

/-- A tree is visited from its root on, and then the trees of its children. -/
theorem preorder_eq (scope : Scope) :
    scope.preorder = scope :: scope.children.reverse.flatMap preorder := by
  cases scope
  rw [preorder, preorderOfAll_eq, children]

/-- The walk from a stack visits each tree on the stack by itself. -/
theorem walkFrom_eq (stack : List Scope) : walkFrom stack = stack.flatMap preorder := by
  induction stack using walkFrom.induct with
  | case1 => rw [walkFrom, List.flatMap_nil]
  | case2 scope stack hypothesis =>
    rw [walkFrom, hypothesis, List.flatMap_append, List.flatMap_cons, preorder_eq scope,
      List.cons_append]

/-- The walk of a tree is the recursive walk. -/
theorem walk_eq_preorder (root : Scope) : walk (some root) = root.preorder := by
  rw [walk, walkFrom_eq, Option.toList_some, List.flatMap_singleton]

/-- The recursive walk visits what lies within the tree. -/
theorem mem_preorder {inner root : Scope} : inner ∈ root.preorder ↔ Within inner root := by
  simp [← walk_eq_preorder, mem_walk]

/-! ### The walk round by round -/

/-- A walk on its way. -/
structure Round where
  /-- The scopes still to be visited, the next one first. -/
  stack : List Scope
  /-- The scopes visited so far, in order. -/
  visited : List Scope := []
  /-- Those of them that contain the offset. -/
  found : List Scope := []

namespace Round

/-- The walk after one more scope: its children are put on the stack, and it is kept if it
contains an offset that is not negative. -/
def next (inclusive : Bool) (offset : Int) : Round → Round
  | ⟨[], visited, found⟩ => ⟨[], visited, found⟩
  | ⟨scope :: stack, visited, found⟩ => {
      stack := scope.children.reverse ++ stack
      visited := visited ++ [scope]
      found :=
        if 0 ≤ offset ∧ scope.contains inclusive offset then found ++ [scope] else found }

/-- What every round of the walk of a tree keeps. -/
structure Keeps (root : Scope) (inclusive : Bool) (offset : Int) (round : Round) : Prop where
  /-- What was visited and what the stack leads to is the whole walk. -/
  walk_eq : round.visited ++ walkFrom round.stack = walk (some root)
  /-- The scopes that are kept are those visited that contain the offset. -/
  found_eq : round.found = containing round.visited inclusive offset

variable {root : Scope} {inclusive : Bool} {offset : Int}

/-- At the start nothing was visited. -/
theorem keeps_start : Keeps root inclusive offset { stack := [root] } where
  walk_eq := rfl
  found_eq := rfl

/-- One more scope keeps the walk. -/
theorem Keeps.next {round : Round} (keeps : Keeps root inclusive offset round) :
    Keeps root inclusive offset (round.next inclusive offset) := by
  obtain ⟨stack, visited, found⟩ := round
  obtain ⟨walk_eq, found_eq⟩ := keeps
  cases stack with
  | nil => exact ⟨walk_eq, found_eq⟩
  | cons scope stack =>
    dsimp only at walk_eq found_eq
    refine ⟨?_, ?_⟩
    · rw [← walk_eq, walkFrom]
      exact List.append_assoc visited [scope] _
    · subst found_eq
      simp only [Round.next, containing, List.filter_append, List.filter_singleton, cond_eq_ite,
        Bool.and_eq_true, decide_eq_true_eq]
      split
      · rfl
      · rw [List.append_nil]

/-- As long as the stack is not empty, a round takes one scope off what is to be visited. -/
theorem totalSize_next (round : Round) :
    totalSize (round.next inclusive offset).stack = totalSize round.stack - 1 := by
  obtain ⟨stack, visited, found⟩ := round
  cases stack with
  | nil => rfl
  | cons scope stack =>
    simp only [Round.next, totalSize_append, totalSize_reverse, totalSize, size_eq scope]
    omega

/-- The rounds of the walk of a tree. -/
def after (root : Scope) (inclusive : Bool) (offset : Int) (rounds : Nat) : Round :=
  (next inclusive offset)^[rounds] { stack := [root] }

variable (root inclusive offset)

/-- Every round of the walk of a tree keeps it, and leaves one scope less to be visited. -/
theorem after_keeps (rounds : Nat) :
    Keeps root inclusive offset (after root inclusive offset rounds) ∧
      totalSize (after root inclusive offset rounds).stack = root.size - rounds := by
  induction rounds with
  | zero => exact ⟨keeps_start, by simp [after, totalSize]⟩
  | succ rounds hypothesis =>
    rw [after, Function.iterate_succ_apply', ← after]
    refine ⟨hypothesis.1.next, ?_⟩
    rw [totalSize_next, hypothesis.2]
    omega

/-- Nothing is left to be visited exactly if the stack is empty. -/
theorem totalSize_eq_zero_iff {stack : List Scope} : totalSize stack = 0 ↔ stack = [] := by
  cases stack with
  | nil => simp [totalSize]
  | cons scope stack =>
    rw [totalSize, size_eq scope]
    simp

/-- The stack runs empty after as many rounds as the tree has scopes. -/
theorem stack_after_eq_nil_iff (rounds : Nat) :
    (after root inclusive offset rounds).stack = [] ↔ root.size ≤ rounds := by
  rw [← totalSize_eq_zero_iff, (after_keeps root inclusive offset rounds).2]
  omega

/-- Then it has visited the whole tree and kept the scopes that contain the offset. -/
theorem after_size :
    after root inclusive offset root.size =
      ⟨[], walk (some root), containing (walk (some root)) inclusive offset⟩ := by
  have ended := (stack_after_eq_nil_iff root inclusive offset root.size).mpr (Nat.le_refl _)
  have keeps := (after_keeps root inclusive offset root.size).1
  cases round : after root inclusive offset root.size with
  | mk stack visited found =>
    rw [round] at ended keeps
    obtain ⟨walk_eq, found_eq⟩ := keeps
    dsimp only at ended walk_eq found_eq
    subst ended found_eq
    rw [walkFrom, List.append_nil] at walk_eq
    rw [walk_eq]

end Round

/-! ### Places in a tree -/

/-- The scope at a place, found by going to one child after the other. -/
def at? : Scope → List Nat → Option Scope
  | scope, [] => some scope
  | scope, index :: place => scope.children[index]?.bind fun child => child.at? place

mutual

/-- The places of a tree in the order of the recursive walk. -/
def places : Scope → List (List Nat)
  | node _ _ _ _ children => [] :: placesOfAll 0 children

/-- The places below a scope in the trees of its children from an index on, those of the last tree
first. -/
def placesOfAll : Nat → List Scope → List (List Nat)
  | _, [] => []
  | index, scope :: scopes =>
    placesOfAll (index + 1) scopes ++ scope.places.map fun place => index :: place

end

/-- The first place of a tree is its root, and the others are below it. -/
theorem places_eq (scope : Scope) : scope.places = [] :: placesOfAll 0 scope.children := by
  cases scope
  rw [places, children]

/-- The places in the trees of children lead to one of the children. -/
theorem mem_placesOfAll {first : Nat} {scopes : List Scope} {place : List Nat} :
    place ∈ placesOfAll first scopes ↔
      ∃ index child below, place = (first + index) :: below ∧ scopes[index]? = some child ∧
        below ∈ child.places := by
  induction scopes generalizing first with
  | nil => simp [placesOfAll]
  | cons scope scopes hypothesis =>
    rw [placesOfAll, List.mem_append, hypothesis, List.mem_map]
    constructor
    · rintro (⟨index, child, below, rfl, found, listed⟩ | ⟨below, listed, rfl⟩)
      · exact ⟨index + 1, child, below, by rw [Nat.add_right_comm, Nat.add_assoc], found, listed⟩
      · exact ⟨0, scope, below, rfl, rfl, listed⟩
    · rintro ⟨index, child, below, rfl, found, listed⟩
      cases index with
      | zero =>
        obtain rfl := Option.some.inj found
        exact .inr ⟨below, listed, rfl⟩
      | succ index =>
        exact .inl ⟨index, child, below, by rw [Nat.add_right_comm, Nat.add_assoc], found, listed⟩

/-- The places of a tree are those at which there is a scope. -/
theorem mem_places {scope : Scope} {place : List Nat} :
    place ∈ scope.places ↔ (scope.at? place).isSome := by
  induction place generalizing scope with
  | nil => simp [places_eq, at?]
  | cons index place hypothesis =>
    rw [places_eq, List.mem_cons, mem_placesOfAll, at?]
    cases found : scope.children[index]? with
    | none => simp [found]
    | some child => simp [found, hypothesis]

/-- Of two places in the order of the walk, either the first lies above the second, or it goes to
the later child where they part. -/
theorem places_pairwise (scope : Scope) :
    scope.places.Pairwise (List.Lex (· > ·)) := by
  induction scope using childInduction with
  | scope scope hypothesis =>
    have ofAll (scopes : List Scope) (first : Nat)
        (each : ∀ child ∈ scopes, child.places.Pairwise (List.Lex (· > ·))) :
        (placesOfAll first scopes).Pairwise (List.Lex (· > ·)) := by
      induction scopes generalizing first with
      | nil => exact .nil
      | cons child scopes later =>
        rw [placesOfAll, List.pairwise_append]
        refine ⟨later _ fun other listed => each other (.tail _ listed), ?_, ?_⟩
        · rw [List.pairwise_map]
          exact (each child (.head _)).imp .cons
        · intro place listed other otherListed
          obtain ⟨index, _, below, rfl, -, -⟩ := mem_placesOfAll.mp listed
          obtain ⟨below, -, rfl⟩ := List.mem_map.mp otherListed
          exact .rel (by omega)
    rw [places_eq, List.pairwise_cons]
    refine ⟨fun place below => ?_, ofAll _ _ hypothesis⟩
    obtain ⟨index, child, rest, rfl, -, -⟩ := mem_placesOfAll.mp below
    exact .nil

/-- The recursive walk of the trees of the last children, place by place. -/
theorem map_placesOfAll (scope : Scope) (front scopes : List Scope)
    (split : scope.children = front ++ scopes)
    (each : ∀ child ∈ scopes, child.preorder.map some = child.places.map child.at?) :
    (preorderOfAll scopes).map some = (placesOfAll front.length scopes).map scope.at? := by
  induction scopes generalizing front with
  | nil => rfl
  | cons child scopes hypothesis =>
    have later := hypothesis (front ++ [child]) (by simp [split]) fun other listed =>
      each other (.tail _ listed)
    rw [List.length_append, List.length_singleton] at later
    have found : scope.children[front.length]? = some child := by simp [split]
    rw [preorderOfAll, placesOfAll, List.map_append, List.map_append, later, List.map_map,
      each child (.head _)]
    congr 1
    apply List.map_congr_left
    intro place _
    simp [at?, found]

/-- The recursive walk visits the scope at each place, place by place. -/
theorem map_places (scope : Scope) : scope.preorder.map some = scope.places.map scope.at? := by
  induction scope using childInduction with
  | scope scope hypothesis =>
    have below := map_placesOfAll scope [] scope.children rfl hypothesis
    rw [preorder_eq, ← preorderOfAll_eq, places_eq, List.map_cons, List.map_cons, below]
    rfl

/-- The scope behind two parts of a place is found by one part after the other. -/
theorem at?_append (scope : Scope) (outer rest : List Nat) :
    scope.at? (outer ++ rest) = (scope.at? outer).bind fun found => found.at? rest := by
  induction outer generalizing scope with
  | nil => rfl
  | cons index outer hypothesis =>
    rw [List.cons_append, at?, at?]
    cases scope.children[index]? with
    | none => rfl
    | some child => exact hypothesis child

/-- No place comes twice in the walk of a tree. -/
theorem places_nodup (scope : Scope) : scope.places.Nodup := by
  apply scope.places_pairwise.imp
  rintro place _ before rfl
  have irreflexive (index : Nat) : ¬index > index := Nat.lt_irrefl index
  exact List.lex_irrefl irreflexive place before

/-- A place comes before every place below it in the walk of a tree. -/
theorem above_before_below {scope : Scope} {outer inner : List Nat}
    (inTree : (scope.at? inner).isSome) (above : outer <+: inner) (differs : outer ≠ inner) :
    [outer, inner].Sublist scope.places := by
  obtain ⟨rest, rfl⟩ := above
  have inTreeToo : (scope.at? outer).isSome := by
    rw [at?_append] at inTree
    exact Option.isSome_of_isSome_bind inTree
  have ordered : List.Lex (· > ·) outer (outer ++ rest) := by
    cases rest with
    | nil => exact absurd (List.append_nil outer).symm differs
    | cons index rest =>
      have below : List.Lex (· > ·) [] (index :: rest) := .nil
      simpa using below.append_left (· > ·) outer
  obtain ⟨front, back, split⟩ := List.append_of_mem (mem_places.mpr inTreeToo)
  have pairwise := scope.places_pairwise
  have listed := mem_places.mpr inTree
  rw [split, List.pairwise_append] at pairwise
  rw [split, List.mem_append, List.mem_cons] at listed
  rw [split]
  rcases listed with early | same | late
  · -- In front it would come before the place above it.
    have reversed := pairwise.2.2 _ early outer (.head _)
    exact absurd reversed (List.lex_asymm (fun before after => Nat.lt_asymm before after) ordered)
  · exact absurd same.symm differs
  · exact .trans (.cons_cons outer (List.singleton_sublist.mpr late)) (List.sublist_append_right ..)

/-- The loop with a stack ends after one round for each scope of the tree. By then it has visited
the scopes in the order of the recursive walk, which is the scope at each place of the tree once: a
place before those below it, and the later child's before the earlier child's. It has kept those
that contain the offset, in the same order, and none for a negative offset. -/
theorem walk_exact (root : Scope) (inclusive : Bool) (offset : Int) :
    (∀ rounds, (Round.after root inclusive offset rounds).stack = [] ↔ root.size ≤ rounds) ∧
    Round.after root inclusive offset root.size =
      ⟨[], walk (some root), containing (walk (some root)) inclusive offset⟩ ∧
    walk (some root) = root.preorder ∧
    (walk (some root)).map some = root.places.map root.at? ∧
    (∀ place, place ∈ root.places ↔ (root.at? place).isSome) ∧
    root.places.Nodup ∧
    root.places.Pairwise (List.Lex (· > ·)) ∧
    (∀ outer inner, (root.at? inner).isSome → outer <+: inner → outer ≠ inner →
      [outer, inner].Sublist root.places) ∧
    containing (walk (some root)) inclusive offset =
      if offset < 0 then [] else root.preorder.filter (·.contains inclusive offset) := by
  refine ⟨Round.stack_after_eq_nil_iff root inclusive offset,
    Round.after_size root inclusive offset, walk_eq_preorder root, ?_,
    fun place => mem_places, places_nodup root, places_pairwise root,
    fun outer inner => above_before_below, ?_⟩
  · rw [walk_eq_preorder, map_places]
  · rw [walk_eq_preorder, containing]
    split
    · next negative =>
      have blind : ¬0 ≤ offset := Int.not_le.mpr negative
      simp [blind]
    · next nonnegative =>
      have seen : 0 ≤ offset := Int.not_lt.mp nonnegative
      simp [seen]

/-- Of two children the last one is visited first, with all that is below it. -/
example :
    (walk (some (node 0 100 [] [] [
      node 10 20 [] [] [], node 30 60 [] [] [node 40 50 [] [] []]]))).map start = [0, 30, 40, 10] := by
  cbv

end DebugLens.Scope
