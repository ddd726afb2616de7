import DebugLens.Import.Grouping
import DebugLens.Proofs.Text.Numeral
import Mathlib.Data.List.Basic

/-!
# Strings of another method

The strings that apply to a Visual Basic method are its own ones, or, if the first of them names a
method by its number, those of that method as they stand. There is one way to fail: the first string
names a method by a numeral with too many digits.
-/
namespace DebugLens.Import

/-- The string is `@` and a numeral with these digits. -/
def IsNumbered (text : Text) (digits : List Char) : Prop :=
  text = .char '@' :: digits.map CodePoint.char ∧ digits ≠ [] ∧ ∀ c ∈ digits, Text.isAsciiDigit c

/-- The strings that apply to a method with given strings of its own. -/
inductive Applies (importStrings? : Int → Option (List Text)) :
    List Text → List Text → Prop where
  /-- The first string names no method, so the own strings apply. -/
  | own {strings : List Text}
    (plain : ∀ first ∈ strings.head?, ¬∃ digits, IsNumbered first digits) :
    Applies importStrings? strings strings
  /-- The first string names a method whose strings apply, whatever they are. -/
  | forwarded {first : Text} {rest : List Text} {digits : List Char}
    (numbered : IsNumbered first digits) (bounded : digits.length ≤ Text.greatestNumeral)
    {strings : List Text} (found : importStrings? (Text.asciiNumeral digits) = some strings) :
    Applies importStrings? (first :: rest) strings

/-- Among given strings, the first one names a method by a numeral that has too many digits. -/
def Overlong (strings : List Text) (length : Nat) : Prop :=
  ∃ first rest digits, strings = first :: rest ∧ IsNumbered first digits ∧
    Text.greatestNumeral < digits.length ∧ digits.length = length

/-! ## The numeral of a method -/

/-- A string has the digits of one numeral at most. -/
theorem IsNumbered.unique {text : Text} {digits others : List Char}
    (numbered : IsNumbered text digits) (other : IsNumbered text others) : digits = others := by
  have same := (List.cons.inj (numbered.1.symm.trans other.1)).2
  exact List.map_injective_iff.mpr (fun _ _ => CodePoint.char.inj) same

/-- A text consists of characters exactly if it is the text of these characters. -/
theorem mapM_char?_eq_some_iff {text : Text} {characters : List Char} :
    text.mapM CodePoint.char? = some characters ↔ text = characters.map CodePoint.char := by
  induction text generalizing characters with
  | nil => cases characters <;> simp
  | cons first text hypothesis =>
    cases first with
    | char c =>
      cases characters <;> simp [CodePoint.char?, Option.bind_eq_some_iff, hypothesis, and_comm]
    | surrogate index => cases characters <;> simp [CodePoint.char?]

/-- A string that is `@` and a numeral names the method of that number, if the numeral is not too
long. -/
theorem forwardedToken?_of_numbered {text : Text} {digits : List Char}
    (numbered : IsNumbered text digits) :
    forwardedToken? text = (Text.asciiValue digits).map fun token => some (token : Int) := by
  obtain ⟨rfl, filled, all⟩ := numbered
  obtain ⟨first, rest, rfl⟩ := List.exists_cons_of_ne_nil filled
  have read := mapM_char?_eq_some_iff.mpr (Eq.refl ((first :: rest).map CodePoint.char))
  rw [List.map_cons] at read
  rw [List.map_cons, forwardedToken?, read]
  dsimp only
  rw [if_pos (List.all_eq_true.mpr all)]
  cases Text.asciiValue (first :: rest) <;> rfl

/-- Any other string names no method. -/
theorem forwardedToken?_of_plain {text : Text} (plain : ¬∃ digits, IsNumbered text digits) :
    forwardedToken? text = .ok none := by
  unfold forwardedToken?
  split
  · next c rest =>
    split
    · rfl
    · next digits read =>
      refine if_neg fun all => plain ⟨digits, ?_, ?_, List.all_eq_true.mp all⟩
      · exact congrArg (_ :: ·) (mapM_char?_eq_some_iff.mp read)
      · rintro rfl
        exact List.cons_ne_nil _ _ (mapM_char?_eq_some_iff.mp read)
  · rfl

/-! ## The strings that apply -/

section Strings

variable {importStrings? : Int → Option (List Text)} {token : Int} {first : Text}
  {rest : List Text} {digits : List Char}

/-- The strings of a method whose first string names no method are its own. -/
theorem visualBasicStrings_of_plain (found : importStrings? token = some (first :: rest))
    (plain : ¬∃ digits, IsNumbered first digits) :
    visualBasicStrings importStrings? token = .ok (some (first :: rest)) := by
  unfold visualBasicStrings
  rw [found]
  dsimp only
  rw [forwardedToken?_of_plain plain]
  rfl

/-- The strings of a method whose first string names a method are those of that method. -/
theorem visualBasicStrings_of_numbered (found : importStrings? token = some (first :: rest))
    (numbered : IsNumbered first digits) :
    visualBasicStrings importStrings? token =
      (Text.asciiValue digits).map fun target => importStrings? target := by
  unfold visualBasicStrings
  rw [found]
  dsimp only
  rw [forwardedToken?_of_numbered numbered]
  cases Text.asciiValue digits <;> rfl

/-- The strings that apply to a method are those that are taken for it. -/
theorem visualBasicStrings_of_applies {own strings : List Text}
    (found : importStrings? token = some own) (applies : Applies importStrings? own strings) :
    visualBasicStrings importStrings? token = .ok (some strings) := by
  cases applies with
  | own plain =>
    cases own with
    | nil =>
      rw [visualBasicStrings, found]
    | cons first rest => exact visualBasicStrings_of_plain found (plain first rfl)
  | @forwarded first rest digits numbered bounded _ target =>
    rw [visualBasicStrings_of_numbered found numbered, Text.asciiValue_of_short bounded, ← target]
    rfl

/-- There are strings that apply, or none, unless the first own string names a method by a numeral
that is too long. -/
theorem visualBasicStrings_eq_error_iff {error : Text.LongNumeral} :
    visualBasicStrings importStrings? token = .error error ↔
      ∃ own, importStrings? token = some own ∧ Overlong own error.length := by
  cases found : importStrings? token with
  | none =>
    rw [visualBasicStrings, found]
    exact iff_of_false nofun nofun
  | some own =>
    cases own with
    | nil =>
      rw [visualBasicStrings, found]
      refine iff_of_false nofun ?_
      rintro ⟨_, ⟨⟩, first, rest, digits, ⟨⟩, -⟩
    | cons first rest =>
      by_cases named : ∃ digits, IsNumbered first digits
      · obtain ⟨digits, numbered⟩ := named
        rw [visualBasicStrings_of_numbered found numbered]
        by_cases short : digits.length ≤ Text.greatestNumeral
        · rw [Text.asciiValue_of_short short]
          refine iff_of_false nofun ?_
          rintro ⟨_, ⟨⟩, _, _, others, ⟨⟩, other, long, -⟩
          rw [IsNumbered.unique numbered other] at short
          omega
        · rw [Text.asciiValue_of_long (Nat.not_le.mp short)]
          constructor
          · rintro ⟨⟩
            exact ⟨_, rfl, first, rest, digits, rfl, numbered, Nat.not_le.mp short, rfl⟩
          · rintro ⟨_, ⟨⟩, _, _, others, ⟨⟩, other, -, length⟩
            rw [IsNumbered.unique numbered other, length]
            rfl
      · rw [visualBasicStrings_of_plain found named]
        refine iff_of_false nofun ?_
        rintro ⟨_, ⟨⟩, _, _, digits, ⟨⟩, numbered, -⟩
        exact named ⟨digits, numbered⟩

end Strings

end DebugLens.Import
