import DebugLens.Assembly.DisplayName
import Mathlib.Data.List.Forall2

/-!
# Components of a display name

A text is one component if all its quotes are closed, all its escapes are complete and no comma
stands outside quotes. Texts that are one component each are read back one by one when they are
joined by commas. A text that is not one component does not become one by what follows: in front
of a comma and a text without quotes and backslashes it is cut short, or it swallows that comma.
-/
namespace DebugLens.Assembly

/-- The quote that is open after a character that is neither escaped nor a separator. -/
def quoteAfter (quote? : Option CodePoint) (c : CodePoint) : Option CodePoint :=
  match quote? with
  | some quote => if c = quote then none else some quote
  | none => if isQuote c then some c else none

/-- Only quotes are ever open. -/
theorem quoteAfter_isQuote {quote? : Option CodePoint}
    (opened : ∀ quote, quote? = some quote → isQuote quote) {c : CodePoint} :
    ∀ quote, quoteAfter quote? c = some quote → isQuote quote := by
  intro quote next
  cases quote? with
  | none =>
    rw [quoteAfter] at next
    split at next
    · next quoted =>
      obtain rfl := Option.some.inj next
      exact quoted
    · contradiction
  | some former =>
    rw [quoteAfter] at next
    split at next
    · contradiction
    · exact opened quote next

section Steps

variable (quote? : Option CodePoint) (component rest : Text)

/-- A backslash at the end of a text escapes nothing, so there are no components. -/
theorem componentsFrom_cut_escape : componentsFrom quote? component [.char '\\'] = none := by
  cases quote? <;> rfl

/-- A backslash takes the next character into the component, whatever it is. -/
theorem componentsFrom_escape (c : CodePoint) :
    componentsFrom quote? component (.char '\\' :: c :: rest) =
      componentsFrom quote? (component ++ [c]) rest := by
  cases quote? <;> rfl

/-- Outside quotes a comma ends the component. -/
theorem componentsFrom_comma :
    componentsFrom none component (.char ',' :: rest) =
      (componentsFrom none [] rest).map (component :: ·) := by
  rw [componentsFrom.eq_def]
  rfl

/-- Any other character belongs to the component, and may open or close a quote. -/
theorem componentsFrom_step {c : CodePoint} (unescaped : c ≠ .char '\\')
    (uncut : quote? = none → c ≠ .char ',') :
    componentsFrom quote? component (c :: rest) =
      componentsFrom (quoteAfter quote? c) (component ++ [c]) rest := by
  rw [componentsFrom.eq_def]
  split
  · contradiction
  · contradiction
  · next same => exact absurd (List.cons.inj same).1 unescaped
  · next same => exact absurd (List.cons.inj same).1 unescaped
  · next same =>
    obtain ⟨rfl, rfl⟩ := List.cons.inj same
    rfl
  · next same =>
    obtain ⟨rfl, rfl⟩ := List.cons.inj same
    rw [if_neg (uncut rfl), quoteAfter]
    split <;> rfl

end Steps

/-- To show something of a text that is read with a quote open or not and a part of a component
before it, follow the characters: a text is empty, a cut escape, or begins with an escaped
character, with a separator or with another character. -/
@[elab_as_elim]
theorem reading_induction {motive : Option CodePoint → Text → Text → Prop}
    (done : ∀ quote? component, motive quote? component [])
    (cut : ∀ quote? component, motive quote? component [.char '\\'])
    (escape : ∀ quote? component c rest, motive quote? (component ++ [c]) rest →
      motive quote? component (.char '\\' :: c :: rest))
    (comma : ∀ component rest, motive none [] rest → motive none component (.char ',' :: rest))
    (step : ∀ quote? component c rest, c ≠ .char '\\' → (quote? = none → c ≠ .char ',') →
      motive (quoteAfter quote? c) (component ++ [c]) rest → motive quote? component (c :: rest))
    (quote? : Option CodePoint) (component text : Text) : motive quote? component text := by
  have unescaped {c : CodePoint} {rest : Text} (uncut : c = .char '\\' → rest = [] → False)
      (whole : ∀ d others, c = .char '\\' → rest = d :: others → False) : c ≠ .char '\\' := by
    intro same
    cases rest with
    | nil => exact uncut same rfl
    | cons d others => exact whole d others same rfl
  induction quote?, component, text using componentsFrom.induct with
  | case1 component => exact done none component
  | case2 quote component => exact done (some quote) component
  | case3 quote? component => exact cut quote? component
  | case4 quote? component c rest hypothesis => exact escape quote? component c rest hypothesis
  | case5 quote component c rest uncut whole hypothesis =>
    exact step (some quote) component c rest (unescaped uncut whole) nofun hypothesis
  | case6 component c rest uncut whole quoted hypothesis =>
    refine step none component c rest (unescaped uncut whole) (fun _ same => ?_) ?_
    · rw [same] at quoted
      contradiction
    · rw [quoteAfter, if_pos quoted]
      exact hypothesis
  | case7 component rest uncut whole unquoted hypothesis => exact comma component rest hypothesis
  | case8 component c rest uncut whole unquoted unseparated hypothesis =>
    refine step none component c rest (unescaped uncut whole) (fun _ => unseparated) ?_
    rw [quoteAfter, if_neg unquoted]
    exact hypothesis

/-- What follows a comma is read on its own. -/
theorem componentsFrom_append_comma {quote? : Option CodePoint} {component text : Text}
    {components : List Text} (read : componentsFrom quote? component text = some components)
    (rest : Text) :
    componentsFrom quote? component (text ++ .char ',' :: rest) =
      (componentsFrom none [] rest).map (components ++ ·) := by
  induction quote?, component, text using reading_induction generalizing components with
  | done quote? component =>
    cases quote? with
    | none =>
      obtain rfl := Option.some.inj read
      exact componentsFrom_comma component rest
    | some quote => contradiction
  | cut quote? component =>
    rw [componentsFrom_cut_escape] at read
    contradiction
  | escape quote? component c text hypothesis =>
    rw [componentsFrom_escape] at read
    rw [List.cons_append, List.cons_append, componentsFrom_escape, hypothesis read]
  | comma component text hypothesis =>
    rw [componentsFrom_comma, Option.map_eq_some_iff] at read
    obtain ⟨others, read, rfl⟩ := read
    rw [List.cons_append, componentsFrom_comma, hypothesis read, Option.map_map]
    rfl
  | step quote? component c text unescaped uncut hypothesis =>
    rw [componentsFrom_step _ _ _ unescaped uncut] at read
    rw [List.cons_append, componentsFrom_step _ _ _ unescaped uncut, hypothesis read]

/-- What stands in front of a text belongs to its first component. -/
theorem componentsFrom_prepend (front : Text) (quote? : Option CodePoint)
    (component text : Text) :
    componentsFrom quote? (front ++ component) text =
      (componentsFrom quote? component text).map (·.modifyHead (front ++ ·)) := by
  induction quote?, component, text using reading_induction with
  | done quote? component => cases quote? <;> rfl
  | cut quote? component =>
    rw [componentsFrom_cut_escape, componentsFrom_cut_escape]
    rfl
  | escape quote? component c text hypothesis =>
    rw [componentsFrom_escape, componentsFrom_escape, List.append_assoc, hypothesis]
  | comma component text hypothesis =>
    rw [componentsFrom_comma, componentsFrom_comma, Option.map_map]
    rfl
  | step quote? component c text unescaped uncut hypothesis =>
    rw [componentsFrom_step _ _ _ unescaped uncut, componentsFrom_step _ _ _ unescaped uncut,
      List.append_assoc, hypothesis]

/-- A text with a part of a component in front has a component that begins with this part. -/
theorem componentsFrom_eq_some {quote? : Option CodePoint} {component text : Text}
    {components : List Text} (read : componentsFrom quote? component text = some components) :
    ∃ rest others, components = (component ++ rest) :: others := by
  induction quote?, component, text using reading_induction generalizing components with
  | done quote? component =>
    cases quote? with
    | none =>
      obtain rfl := Option.some.inj read
      exact ⟨[], [], by rw [List.append_nil]⟩
    | some quote => contradiction
  | cut quote? component =>
    rw [componentsFrom_cut_escape] at read
    contradiction
  | escape quote? component c text hypothesis =>
    rw [componentsFrom_escape] at read
    obtain ⟨rest, others, rfl⟩ := hypothesis read
    exact ⟨c :: rest, others, by rw [List.append_assoc, List.singleton_append]⟩
  | comma component text hypothesis =>
    rw [componentsFrom_comma, Option.map_eq_some_iff] at read
    obtain ⟨others, -, rfl⟩ := read
    exact ⟨[], others, by rw [List.append_nil]⟩
  | step quote? component c text unescaped uncut hypothesis =>
    rw [componentsFrom_step _ _ _ unescaped uncut] at read
    obtain ⟨rest, others, rfl⟩ := hypothesis read
    exact ⟨c :: rest, others, by rw [List.append_assoc, List.singleton_append]⟩

section Texts

/-- A character that stands for itself outside quotes. -/
def isLiteral (c : CodePoint) : Bool := !isQuote c && c ≠ .char ',' && c ≠ .char '\\'

/-- Literal characters are those that are neither quotes nor commas nor backslashes. -/
theorem isLiteral_iff {c : CodePoint} :
    isLiteral c ↔ isQuote c = false ∧ c ≠ .char ',' ∧ c ≠ .char '\\' := by
  simp only [isLiteral, Bool.and_eq_true, Bool.not_eq_true', decide_eq_true_eq, and_assoc]

/-- A literal character outside quotes goes into the component. -/
theorem componentsFrom_literal {c : CodePoint} (literal : isLiteral c) (component rest : Text) :
    componentsFrom none component (c :: rest) = componentsFrom none (component ++ [c]) rest := by
  obtain ⟨unquoted, uncut, unescaped⟩ := isLiteral_iff.mp literal
  rw [componentsFrom_step _ _ _ unescaped fun _ => uncut, quoteAfter, unquoted,
    if_neg Bool.false_ne_true]

/-- A text of literals belongs to one component. -/
theorem componentsFrom_literals {text : Text} (literal : ∀ c ∈ text, isLiteral c)
    (component rest : Text) :
    componentsFrom none component (text ++ rest) =
      componentsFrom none (component ++ text) rest := by
  induction text generalizing component with
  | nil => rw [List.nil_append, List.append_nil]
  | cons c text hypothesis =>
    rw [List.forall_mem_cons] at literal
    rw [List.cons_append, componentsFrom_literal literal.1, hypothesis literal.2, List.append_assoc,
      List.singleton_append]

/-- Every character that is not escaped in a name is a literal. -/
theorem isLiteral_of_not_isSpecial {c : CodePoint} (plain : isSpecial c = false) :
    isLiteral c := by
  simp only [isSpecial, Bool.or_eq_false_iff, decide_eq_false_iff_not] at plain
  obtain ⟨⟨⟨⟨uncut, -⟩, unescaped⟩, undouble⟩, unsingle⟩ := plain
  exact isLiteral_iff.mpr ⟨by simp [isQuote, undouble, unsingle], uncut, unescaped⟩

/-- A name with its special characters escaped is read as the name. -/
theorem componentsFrom_escapeName (name component : Text) :
    componentsFrom none component (escapeName name) = some [component ++ name] := by
  induction name generalizing component with
  | nil => rw [List.append_nil]; rfl
  | cons c name hypothesis =>
    have first : escapeName (c :: name) =
        (if isSpecial c then [.char '\\', c] else [c]) ++ escapeName name := List.flatMap_cons
    have read : componentsFrom none component (escapeName (c :: name)) =
        componentsFrom none (component ++ [c]) (escapeName name) := by
      rw [first]
      cases special : isSpecial c with
      | true => exact componentsFrom_escape none component (escapeName name) c
      | false => exact componentsFrom_literal (isLiteral_of_not_isSpecial special) _ _
    rw [read, hypothesis, List.append_assoc, List.singleton_append]

/-- Between two texts that are joined there is a comma. -/
theorem joinComma_cons_cons (first next : Text) (texts : List Text) :
    Text.join "," (first :: next :: texts) =
      first ++ .char ',' :: Text.join "," (next :: texts) := by
  rw [Text.join, List.intercalate_cons_cons, List.append_assoc]
  rfl

/-- Texts that are one component each are read back one by one when commas join them. -/
theorem componentsFrom_joinComma {first component : Text}
    (read : componentsFrom none [] first = some [component]) {texts components : List Text}
    (others : List.Forall₂ (fun text component => componentsFrom none [] text = some [component])
      texts components) :
    componentsFrom none [] (Text.join "," (first :: texts)) =
      some (component :: components) := by
  induction others generalizing first component with
  | nil =>
    rw [Text.join, List.intercalate_singleton]
    exact read
  | cons readNext _ hypothesis =>
    rw [joinComma_cons_cons, componentsFrom_append_comma read, hypothesis readNext]
    rfl

/-- The blank behind a comma belongs to the text that follows it. -/
theorem join_spaced (first : Text) (texts : List Text) :
    Text.join ", " (first :: texts) = Text.join "," (first :: texts.map (.char ' ' :: ·)) := by
  induction texts generalizing first with
  | nil => rfl
  | cons next texts hypothesis =>
    have joined : Text.join ", " (first :: next :: texts) =
        first ++ .char ',' :: Text.join ", " ((.char ' ' :: next) :: texts) := by
      cases texts <;> simp [Text.join, Text.ofString, List.intercalate]
    rw [joined, hypothesis, List.map_cons, joinComma_cons_cons]

/-- The same holds if a blank stands behind each comma. -/
theorem componentsFrom_join {first component : Text}
    (read : componentsFrom none [] first = some [component]) {texts components : List Text}
    (others : List.Forall₂ (fun text component =>
      componentsFrom none [] (.char ' ' :: text) = some [component]) texts components) :
    componentsFrom none [] (Text.join ", " (first :: texts)) =
      some (component :: components) := by
  rw [join_spaced]
  exact componentsFrom_joinComma read (List.forall₂_map_left_iff.mpr others)

/-- Behind an open quote, a text without quotes does not end the component. -/
theorem componentsFrom_open {quote : CodePoint} {text : Text} (opened : isQuote quote)
    (quiet : ∀ c ∈ text, isQuote c = false ∧ c ≠ .char '\\') (component : Text) :
    componentsFrom (some quote) component text = none := by
  induction text generalizing component with
  | nil => rfl
  | cons c text hypothesis =>
    rw [List.forall_mem_cons] at quiet
    obtain ⟨⟨unquoted, unescaped⟩, quiet⟩ := quiet
    have other : c ≠ quote := by
      rintro rfl
      rw [opened] at unquoted
      contradiction
    rw [componentsFrom_step (some quote) component text unescaped nofun, quoteAfter, if_neg other]
    exact hypothesis quiet _

/-- Outside quotes, a text without quotes and backslashes adds to the component what stands before
its first comma. -/
theorem componentsFrom_quiet {text : Text}
    (quiet : ∀ c ∈ text, isQuote c = false ∧ c ≠ .char '\\') (component : Text) :
    ∃ others, componentsFrom none component text =
      some ((component ++ text.takeWhile (· ≠ .char ',')) :: others) := by
  induction text generalizing component with
  | nil => exact ⟨[], by rw [List.takeWhile_nil, List.append_nil]; rfl⟩
  | cons c text hypothesis =>
    rw [List.forall_mem_cons] at quiet
    obtain ⟨⟨unquoted, unescaped⟩, quiet⟩ := quiet
    by_cases separator : c = .char ','
    · subst separator
      obtain ⟨others, read⟩ := hypothesis quiet []
      exact ⟨_, by rw [componentsFrom_comma, read]; simp; rfl⟩
    · obtain ⟨others, read⟩ := hypothesis quiet (component ++ [c])
      refine ⟨others, ?_⟩
      rw [componentsFrom_step _ _ _ unescaped fun _ => separator, quoteAfter, unquoted,
        if_neg Bool.false_ne_true, read, List.takeWhile_cons_of_pos (by simpa using separator),
        List.append_assoc, List.singleton_append]

/-- In front of a comma and a text without quotes and backslashes, a text either is one component
or is cut short, or its last backslash swallows that comma and what follows it. -/
theorem componentsFrom_append_quiet {quote? : Option CodePoint} {component text tail first : Text}
    {others : List Text} (opened : ∀ quote, quote? = some quote → isQuote quote)
    (quiet : ∀ c ∈ tail, isQuote c = false ∧ c ≠ .char '\\')
    (read : componentsFrom quote? component (text ++ .char ',' :: tail) = some (first :: others)) :
    (componentsFrom quote? component text = some [first] ∧ first = component ++ text) ∨
      first.length < component.length + text.length ∨
        (text.getLast? = some (.char '\\') ∧
          ∃ front, first = front ++ tail.takeWhile (· ≠ .char ',')) := by
  induction quote?, component, text using reading_induction with
  | done quote? component =>
    cases quote? with
    | none =>
      rw [List.nil_append, componentsFrom_comma, Option.map_eq_some_iff] at read
      obtain ⟨_, -, same⟩ := read
      obtain ⟨rfl, rfl⟩ := List.cons.inj same
      exact .inl ⟨rfl, (List.append_nil _).symm⟩
    | some quote =>
      have quietComma : ∀ c ∈ .char ',' :: tail, isQuote c = false ∧ c ≠ .char '\\' :=
        List.forall_mem_cons.mpr ⟨by decide, quiet⟩
      rw [List.nil_append, componentsFrom_open (opened quote rfl) quietComma] at read
      contradiction
  | cut quote? component =>
    -- The last backslash escapes the comma. The tail cannot close a quote that is still open.
    rw [List.singleton_append, componentsFrom_escape] at read
    cases quote? with
    | none =>
      obtain ⟨later, swallowed⟩ := componentsFrom_quiet quiet (component ++ [.char ','])
      rw [swallowed] at read
      obtain ⟨rfl, rfl⟩ := List.cons.inj (Option.some.inj read)
      exact .inr (.inr ⟨rfl, _, rfl⟩)
    | some quote =>
      rw [componentsFrom_open (opened quote rfl) quiet] at read
      contradiction
  | escape quote? component c text hypothesis =>
    -- The backslash is lost, so even a text that is read to its end comes out shorter.
    rw [List.cons_append, List.cons_append, componentsFrom_escape] at read
    rcases hypothesis opened read with ⟨-, rfl⟩ | shorter | ⟨last, swallowed⟩
    · exact .inr (.inl (by simp))
    · refine .inr (.inl ?_)
      simp only [List.length_append, List.length_cons, List.length_nil] at shorter ⊢
      omega
    · refine .inr (.inr ⟨?_, swallowed⟩)
      rw [List.getLast?_cons_cons, List.getLast?_cons, last]
      rfl
  | comma component text hypothesis =>
    rw [List.cons_append, componentsFrom_comma, Option.map_eq_some_iff] at read
    obtain ⟨_, -, same⟩ := read
    obtain ⟨rfl, rfl⟩ := List.cons.inj same
    exact .inr (.inl (by simp))
  | step quote? component c text unescaped uncut hypothesis =>
    rw [List.cons_append, componentsFrom_step _ _ _ unescaped uncut] at read
    rcases hypothesis (quoteAfter_isQuote opened) read with ⟨whole, rfl⟩ | shorter |
      ⟨last, swallowed⟩
    · refine .inl ⟨?_, by rw [List.append_assoc, List.singleton_append]⟩
      rw [componentsFrom_step _ _ _ unescaped uncut, whole]
    · refine .inr (.inl ?_)
      simp only [List.length_append, List.length_cons, List.length_nil] at shorter ⊢
      omega
    · refine .inr (.inr ⟨?_, swallowed⟩)
      rw [List.getLast?_cons, last]
      rfl

end Texts

end DebugLens.Assembly
