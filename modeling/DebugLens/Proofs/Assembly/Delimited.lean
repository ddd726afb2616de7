import DebugLens.Proofs.Assembly.Components

/-!
# Delimited texts

A text is delimited if its quotes are closed, its escapes are complete and its commas are escaped
or stand inside quotes. Exactly these texts are one component of a display name, which is the text
without the backslashes of its escapes, and they are read back one by one when they are joined by
commas.
-/
namespace DebugLens.Assembly

/-- The text ends a component in which the given quote, if any, is open. -/
inductive Delimited : Option CodePoint → Text → Prop where
  /-- A component ends outside quotes. -/
  | done : Delimited none []
  /-- A backslash takes any character with it. -/
  | escaped {quote? : Option CodePoint} (c : CodePoint) {rest : Text}
    (delimited : Delimited quote? rest) : Delimited quote? (.char '\\' :: c :: rest)
  /-- Outside quotes, a character is no quote and no comma, -/
  | literal {c : CodePoint} (literal : isLiteral c) {rest : Text}
    (delimited : Delimited none rest) : Delimited none (c :: rest)
  /-- or it is a quote, which is open from then on. -/
  | opening {quote : CodePoint} (quoted : isQuote quote) {rest : Text}
    (delimited : Delimited (some quote) rest) : Delimited none (quote :: rest)
  /-- Inside quotes, a character is any other one than the open quote, -/
  | inside {quote c : CodePoint} (other : c ≠ quote) (unescaped : c ≠ .char '\\') {rest : Text}
    (delimited : Delimited (some quote) rest) : Delimited (some quote) (c :: rest)
  /-- or it is the open quote and closes it. -/
  | closing {quote : CodePoint} (quoted : isQuote quote) {rest : Text}
    (delimited : Delimited none rest) : Delimited (some quote) (quote :: rest)

/-- The text without the backslashes of its escapes. -/
def unescape : Text → Text
  | [] => []
  | .char '\\' :: c :: rest => c :: unescape rest
  | c :: rest => c :: unescape rest

/-- A character that escapes nothing stays as it is. -/
theorem unescape_cons {c : CodePoint} (unescaped : c ≠ .char '\\') (rest : Text) :
    unescape (c :: rest) = c :: unescape rest := by
  rw [unescape.eq_def]
  split
  · contradiction
  · next same => exact absurd (List.cons.inj same).1 unescaped
  · next same =>
    obtain ⟨rfl, rfl⟩ := List.cons.inj same
    rfl

/-- Only backslashes are lost when escapes are resolved. -/
theorem unescape_sublist (text : Text) : (unescape text).Sublist text := by
  induction text using unescape.induct with
  | case1 => exact .slnil
  | case2 c rest hypothesis =>
    rw [unescape]
    exact (hypothesis.cons_cons c).cons _
  | case3 c rest uncut hypothesis =>
    rw [unescape]
    · exact hypothesis.cons_cons c
    · exact uncut

/-- A quote differs from every character that is none. -/
theorem ne_of_isQuote {quote c : CodePoint} (quoted : isQuote quote)
    (unquoted : isQuote c = false) : quote ≠ c := by
  rintro rfl
  rw [quoted] at unquoted
  contradiction

/-- A delimited text is one component, which is the text without the backslashes. -/
theorem componentsFrom_of_delimited {quote? : Option CodePoint} {text : Text}
    (delimited : Delimited quote? text) (component : Text) :
    componentsFrom quote? component text = some [component ++ unescape text] := by
  have within (quote : CodePoint) {c : CodePoint} (opened : some quote = none) : c ≠ .char ',' :=
    absurd opened (Option.some_ne_none quote)
  induction delimited generalizing component with
  | done =>
    rw [unescape, List.append_nil]
    rfl
  | escaped c _ hypothesis =>
    rw [componentsFrom_escape, hypothesis, unescape, List.append_assoc, List.singleton_append]
  | literal literal _ hypothesis =>
    rw [componentsFrom_literal literal, hypothesis, unescape_cons (isLiteral_iff.mp literal).2.2,
      List.append_assoc, List.singleton_append]
  | opening quoted _ hypothesis =>
    have unescaped : _ ≠ CodePoint.char '\\' := ne_of_isQuote quoted (by decide)
    have uncut : _ ≠ CodePoint.char ',' := ne_of_isQuote quoted (by decide)
    rw [componentsFrom_step _ _ _ unescaped fun _ => uncut, quoteAfter, if_pos quoted, hypothesis,
      unescape_cons unescaped, List.append_assoc, List.singleton_append]
  | inside other unescaped _ hypothesis =>
    rw [componentsFrom_step (some _) _ _ unescaped (within _), quoteAfter, if_neg other, hypothesis,
      unescape_cons unescaped, List.append_assoc, List.singleton_append]
  | closing quoted _ hypothesis =>
    have unescaped : _ ≠ CodePoint.char '\\' := ne_of_isQuote quoted (by decide)
    rw [componentsFrom_step (some _) _ _ unescaped (within _), quoteAfter, if_pos rfl, hypothesis,
      unescape_cons unescaped, List.append_assoc, List.singleton_append]

/-- Only a delimited text is one component. -/
theorem delimited_of_componentsFrom {quote? : Option CodePoint} {component text whole : Text}
    (opened : ∀ quote, quote? = some quote → isQuote quote)
    (read : componentsFrom quote? component text = some [whole]) : Delimited quote? text := by
  induction quote?, component, text using reading_induction with
  | done quote? component =>
    cases quote? with
    | none => exact .done
    | some quote => contradiction
  | cut quote? component =>
    rw [componentsFrom_cut_escape] at read
    contradiction
  | escape quote? component c text hypothesis =>
    rw [componentsFrom_escape] at read
    exact .escaped c (hypothesis opened read)
  | comma component text hypothesis =>
    -- What follows a comma is at least one more component.
    rw [componentsFrom_comma, Option.map_eq_some_iff] at read
    obtain ⟨others, read, same⟩ := read
    obtain ⟨rest, further, rfl⟩ := componentsFrom_eq_some read
    exact absurd (List.cons.inj same).2 (List.cons_ne_nil _ _)
  | step quote? component c text unescaped uncut hypothesis =>
    rw [componentsFrom_step _ _ _ unescaped uncut] at read
    have delimited := hypothesis (quoteAfter_isQuote opened) read
    cases quote? with
    | none =>
      rw [quoteAfter] at delimited
      split at delimited
      · next quoted => exact .opening quoted delimited
      · next unquoted =>
        exact .literal (isLiteral_iff.mpr ⟨Bool.eq_false_iff.mpr unquoted, uncut rfl, unescaped⟩)
          delimited
    | some quote =>
      rw [quoteAfter] at delimited
      split at delimited
      · next same =>
        rw [same]
        exact .closing (opened quote rfl) delimited
      · next other => exact .inside other unescaped delimited

/-- The delimited texts are those that are one component. -/
theorem delimited_iff {text : Text} :
    Delimited none text ↔ ∃ component, componentsFrom none [] text = some [component] :=
  ⟨fun delimited => ⟨_, componentsFrom_of_delimited delimited []⟩,
    fun ⟨_, read⟩ => delimited_of_componentsFrom (fun _ opened => nomatch opened) read⟩

/-- Delimited texts are read back one by one when commas join them. -/
theorem componentsFrom_delimited {first : Text} {texts : List Text} (leading : Delimited none first)
    (delimited : ∀ text ∈ texts, Delimited none text) :
    componentsFrom none [] (Text.join "," (first :: texts)) =
      some (unescape first :: texts.map unescape) := by
  refine componentsFrom_joinComma (componentsFrom_of_delimited leading []) ?_
  rw [List.forall₂_map_right_iff, List.forall₂_same]
  exact fun text listed => componentsFrom_of_delimited (delimited text listed) []

end DebugLens.Assembly
