import DebugLens.Proofs.Text.Trim
import DebugLens.Signature.TypeTable
import Mathlib.Data.List.Infix

/-!
# Assembly qualification

A serialized type name ends at the first comma outside brackets; behind it stands the name of an
assembly. So a comma and the name of an assembly may be put behind a name without changing which
type it denotes exactly if something is left of the name without its own qualification, and it is
either qualified already or closes all brackets that it opens. In particular this holds for a name
that is well bracketed and has no comma outside brackets.
-/
namespace DebugLens.TypeTable

/-! ## Brackets -/

/-- How many more brackets a text opens than it closes. -/
def openBrackets (text : Text) : Int := text.count (.char '[') - text.count (.char ']')

/-- Brackets are counted character by character. -/
theorem openBrackets_cons (c : CodePoint) (text : Text) :
    openBrackets (c :: text) = openBrackets [c] + openBrackets text := by
  simp only [openBrackets, List.count_cons, List.count_nil]
  omega

/-- An opening bracket counts as one, a closing one takes one back. -/
theorem openBrackets_singleton (c : CodePoint) :
    openBrackets [c] = if c = .char '[' then 1 else if c = .char ']' then -1 else 0 := by
  by_cases opens : c = .char '['
  · subst opens
    rfl
  · by_cases closes : c = .char ']'
    · subst closes
      rfl
    · simp [openBrackets, opens, closes]

/-- A comma of the text stands outside brackets. -/
def IsQualified (name : Text) : Prop :=
  ∃ type assembly, name = type ++ .char ',' :: assembly ∧ openBrackets type = 0

/-- A name without a comma outside brackets stands in front of any such comma. -/
theorem exists_first_comma {name : Text} (qualified : IsQualified name) :
    ∃ type assembly, name = type ++ .char ',' :: assembly ∧ openBrackets type = 0 ∧
      ¬IsQualified type := by
  induction length : name.length using Nat.strongRecOn generalizing name with
  | ind size hypothesis =>
    obtain ⟨type, assembly, rfl, closed⟩ := qualified
    by_cases further : IsQualified type
    · -- A comma further to the front is the first one of a shorter name.
      have shorter : type.length < size := by
        rw [← length, List.length_append, List.length_cons]
        omega
      obtain ⟨first, between, rfl, closedFirst, unqualified⟩ := hypothesis _ shorter further rfl
      exact ⟨first, between ++ .char ',' :: assembly, by simp, closedFirst, unqualified⟩
    · exact ⟨type, assembly, rfl, closed, further⟩

/-! ## The scan for the first comma -/

/-- The scan passes what is no comma outside brackets. -/
theorem unqualified_cons {depth : Int} {c : CodePoint} (passed : c = .char ',' → depth ≠ 0)
    (rest : Text) :
    unqualified depth (c :: rest) = c :: unqualified (depth + openBrackets [c]) rest := by
  rw [unqualified, openBrackets_singleton]
  by_cases opens : c = .char '['
  · simp [opens]
  · by_cases closes : c = .char ']'
    · simp [closes, Int.sub_eq_add_neg]
    · have kept : (decide (c = .char ',') && decide (depth = 0)) = false := by
        simpa using passed
      simp [opens, closes, kept]

/-- The depth of the scan is the number of brackets that are open, so it passes a text whose commas
all stand inside brackets. -/
theorem unqualified_append {depth : Int} {front : Text}
    (inside : ∀ before behind, front = before ++ .char ',' :: behind →
      depth + openBrackets before ≠ 0) (rest : Text) :
    unqualified depth (front ++ rest) = front ++ unqualified (depth + openBrackets front) rest := by
  induction front generalizing depth with
  | nil => simp [openBrackets]
  | cons c front hypothesis =>
    have passed : c = .char ',' → depth ≠ 0 := by
      rintro rfl
      simpa [openBrackets] using inside [] front rfl
    have insideRest : ∀ before behind, front = before ++ .char ',' :: behind →
        depth + openBrackets [c] + openBrackets before ≠ 0 := by
      intro before behind divided
      rw [Int.add_assoc, ← openBrackets_cons]
      exact inside (c :: before) behind (by rw [divided, List.cons_append])
    rw [List.cons_append, unqualified_cons passed, hypothesis insideRest,
      openBrackets_cons c front, Int.add_assoc, List.cons_append]

/-- A name without a comma outside brackets is passed as a whole. -/
theorem unqualified_append_of_not_qualified {name : Text} (whole : ¬IsQualified name)
    (rest : Text) :
    unqualified 0 (name ++ rest) = name ++ unqualified (openBrackets name) rest := by
  rw [unqualified_append, Int.zero_add]
  intro before behind divided closed
  rw [Int.zero_add] at closed
  exact whole ⟨before, behind, divided, closed⟩

/-- A name without a comma outside brackets is whole. -/
theorem unqualified_eq_self {name : Text} (whole : ¬IsQualified name) :
    unqualified 0 name = name := by
  have scanned := unqualified_append_of_not_qualified whole []
  rwa [List.append_nil, unqualified, List.append_nil] at scanned

/-- The scan stops at the first comma outside brackets. -/
theorem unqualified_comma {name : Text} (whole : ¬IsQualified name) (closed : openBrackets name = 0)
    (assembly : Text) : unqualified 0 (name ++ .char ',' :: assembly) = name := by
  rw [unqualified_append_of_not_qualified whole, closed]
  simp [unqualified]

/-- The scan does not look behind the first comma outside brackets. -/
theorem unqualified_of_qualified {name : Text} (qualified : IsQualified name) (more : Text) :
    unqualified 0 (name ++ more) = unqualified 0 name := by
  obtain ⟨type, assembly, rfl, closed, whole⟩ := exists_first_comma qualified
  rw [List.append_assoc, List.cons_append, unqualified_comma whole closed,
    unqualified_comma whole closed]

/-- Behind a name that is qualified already, or that closes all its brackets, a comma starts what is
no part of the name. -/
theorem bareName_append_comma {name : Text} (ends : IsQualified name ∨ openBrackets name = 0)
    (assembly : Text) : bareName (name ++ .char ',' :: assembly) = bareName name := by
  unfold bareName
  by_cases qualified : IsQualified name
  · rw [unqualified_of_qualified qualified]
  · rw [unqualified_comma qualified (ends.resolve_left qualified), unqualified_eq_self qualified]

/-- Behind a name that leaves a bracket open, a comma is a part of the name. -/
theorem bareName_append_comma_ne {name : Text} (filled : bareName name ≠ "")
    (whole : ¬IsQualified name) (unclosed : openBrackets name ≠ 0) :
    bareName (name ++ [.char ',']) ≠ bareName name := by
  have scanned : unqualified 0 (name ++ [.char ',']) = name ++ [.char ','] := by
    rw [unqualified_append_of_not_qualified whole, unqualified_cons fun _ => unclosed]
    rfl
  unfold bareName at filled ⊢
  rw [scanned]
  rw [unqualified_eq_self whole] at filled ⊢
  have front : name.dropWhile Text.isBlank ≠ [] := by
    intro blank
    apply filled
    rw [Text.trim, Text.trimBoth, blank]
    rfl
  have drops : (name ++ [CodePoint.char ',']).dropWhile Text.isBlank =
      name.dropWhile Text.isBlank ++ [CodePoint.char ','] := by
    rw [List.dropWhile_append, if_neg (by simpa using front)]
  have shorter : (Text.trim name).length ≤ (name.dropWhile Text.isBlank).length :=
    (List.rdropWhile_prefix Text.isBlank _).length_le
  intro same
  have lengths := congrArg List.length same
  rw [Text.trim, Text.trimBoth, drops, Text.dropEndWhile_eq,
    List.rdropWhile_concat_neg _ _ _ (by decide), List.length_append] at lengths
  change _ + 1 = _ at lengths
  omega

/-! ## Types of qualified names -/

/-- A type that is not in a table has the name that it was looked up by. -/
theorem typeOfName_name (name : Text) : (typeOfName name).name = name := by
  unfold typeOfName
  split <;> rfl

/-- A type that is not in a table is still one with a name. -/
theorem typeOfName_kind (name : Text) : (typeOfName name).kind = .named := by
  unfold typeOfName
  split <;> rfl

/-- Names with the same part in front of their qualification denote the same type. -/
theorem resolve_congr {name other : Text} (filled : bareName name ≠ "")
    (same : bareName other = bareName name) (table : TypeTable) :
    table.resolve other = table.resolve name := by
  simp only [resolve, same, if_neg filled]

/-- Without a table, a name tells its bare form by the type that it denotes. -/
theorem bareName_eq_of_resolve {name other : Text}
    (same : ({} : TypeTable).resolve other = ({} : TypeTable).resolve name)
    (differs : other ≠ name) :
    bareName name ≠ "" ∧ bareName other = bareName name := by
  have named := congrArg TypeSymbol.name same
  have kinds := congrArg TypeSymbol.kind same
  by_cases blank : bareName name = "" <;> by_cases otherBlank : bareName other = ""
  · simp only [resolve, blank, otherBlank, if_pos] at named
    exact absurd named differs
  · simp only [resolve, blank, otherBlank, if_pos, if_neg, not_false_eq_true, List.lookup_nil,
      Option.getD_none, typeOfName_kind, TypeSymbol.missing] at kinds
    contradiction
  · simp only [resolve, blank, otherBlank, if_pos, if_neg, not_false_eq_true, List.lookup_nil,
      Option.getD_none, typeOfName_kind, TypeSymbol.missing] at kinds
    contradiction
  · simp only [resolve, if_neg blank, if_neg otherBlank, List.lookup_nil, Option.getD_none,
      typeOfName_name] at named
    exact ⟨blank, named⟩

/-- A comma and the name of an assembly behind a name make no difference to its type exactly if
something is left of the name without its qualification, and it is qualified already or closes all
brackets that it opens. -/
theorem resolve_append_comma_iff (name : Text) :
    (∀ (table : TypeTable) (assembly : Text),
        table.resolve (name ++ .char ',' :: assembly) = table.resolve name) ↔
      bareName name ≠ "" ∧ (IsQualified name ∨ openBrackets name = 0) := by
  constructor
  · intro same
    obtain ⟨filled, bare⟩ := bareName_eq_of_resolve (same {} []) (by simp)
    refine ⟨filled, ?_⟩
    by_contra neither
    obtain ⟨whole, unclosed⟩ := not_or.mp neither
    exact bareName_append_comma_ne filled whole unclosed bare
  · rintro ⟨filled, ends⟩ table assembly
    exact resolve_congr filled (bareName_append_comma ends assembly) table

/-- The brackets of a name are balanced, none of them is closed before it is opened, and all commas
stand inside brackets. -/
structure WellBracketed (name : Text) : Prop where
  /-- As many brackets are closed as opened. -/
  closed : openBrackets name = 0
  /-- No front of the name closes more brackets than it opens. -/
  ordered : ∀ front, front <+: name → 0 ≤ openBrackets front
  /-- At each comma a bracket is open. -/
  inside : ∀ front behind, name = front ++ .char ',' :: behind → 0 < openBrackets front

instance : DecidablePred WellBracketed := fun name =>
  decidable_of_iff (openBrackets name = 0 ∧ ∀ front ∈ name.inits,
      0 ≤ openBrackets front ∧
        ((name.drop front.length).head? = some (.char ',') → 0 < openBrackets front)) <| by
    constructor
    · rintro ⟨closed, each⟩
      refine ⟨closed, fun front initial => (each front ((List.mem_inits _ _).mpr initial)).1, ?_⟩
      rintro front behind rfl
      exact (each front (by simp)).2 (by simp)
    · rintro ⟨closed, ordered, inside⟩
      refine ⟨closed, fun front initial => ?_⟩
      obtain ⟨rest, rfl⟩ := (List.mem_inits _ _).mp initial
      refine ⟨ordered front (List.prefix_append front rest), fun comma => ?_⟩
      rw [List.drop_left] at comma
      obtain ⟨behind, rfl⟩ := List.head?_eq_some_iff.mp comma
      exact inside front behind rfl

/-- All commas of a well-bracketed name stand inside brackets. -/
theorem WellBracketed.not_isQualified {name : Text} (bracketed : WellBracketed name) :
    ¬IsQualified name := by
  rintro ⟨front, behind, divided, closed⟩
  have opened := bracketed.inside front behind divided
  omega

/-- A well bracketed name that is not blank denotes the same type with the name of an assembly
behind it, whatever that name is: all of the name, but for white space at its ends, is looked up. -/
theorem qualification_immaterial (table : TypeTable) (name : Text)
    (filled : ∃ c ∈ name, Text.isBlank c = false) (bracketed : WellBracketed name)
    (assembly : Text) :
    table.resolve (name ++ .char ',' :: assembly) = table.resolve name ∧
      bareName (name ++ .char ',' :: assembly) = Text.trim name ∧
      bareName name = Text.trim name := by
  have bare : bareName name = Text.trim name := by
    rw [bareName, unqualified_eq_self bracketed.not_isQualified]
  have left : bareName name ≠ "" := by
    obtain ⟨c, listed, solid⟩ := filled
    rw [bare]
    exact List.isEmpty_eq_false_iff.mp (Text.trim_isEmpty_of_mem listed solid)
  have ends : IsQualified name ∨ openBrackets name = 0 := .inr bracketed.closed
  refine ⟨(resolve_append_comma_iff name).mpr ⟨left, ends⟩ table assembly, ?_, bare⟩
  rw [bareName_append_comma ends, bare]

/-- Commas within brackets and white space at the ends, and a table in which the name is found. -/
theorem qualification_immaterial_nested :
    let type : TypeSymbol := { name := "Map[[Key, a],[Item[,], b]]" }
    let table : TypeTable := { byName := [(type.name, type)] }
    (∃ c ∈ (" Map[[Key, a],[Item[,], b]] " : Text), Text.isBlank c = false) ∧
      WellBracketed " Map[[Key, a],[Item[,], b]] " ∧
      table.resolve (Text.ofString " Map[[Key, a],[Item[,], b]] " ++
          .char ',' :: Text.ofString " c, Version=1]") =
        table.resolve " Map[[Key, a],[Item[,], b]] " := by
  intro type table
  have filled : ∃ c ∈ (" Map[[Key, a],[Item[,], b]] " : Text), Text.isBlank c = false := by decide
  have bracketed : WellBracketed " Map[[Key, a],[Item[,], b]] " := by decide
  exact ⟨filled, bracketed, (qualification_immaterial table _ filled bracketed _).1⟩

end DebugLens.TypeTable
