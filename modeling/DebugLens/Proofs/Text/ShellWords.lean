import DebugLens.Proofs.Refusal
import DebugLens.Text.Blank
import DebugLens.Text.ShellWords
import Mathlib.Data.List.Induction

/-!
# Positions in a command line

Behind each piece of a line stand the words that are complete, a state and a part of the next word.
Splitting a line is going through these positions one character after another, and the words are
those of the last position. So what is in front of a place in the line matters for what is behind
it only through the position there.
-/
namespace DebugLens.Text

/-- What is known behind a piece of a line. -/
structure SplitPosition where
  /-- The words that are complete. -/
  words : List (List Char) := []
  /-- The state. -/
  state : SplitState := .between
  /-- The part of the current word. -/
  word : List Char := []
deriving DecidableEq, Repr

namespace SplitPosition

/-- The position behind one more character. -/
def next (position : SplitPosition) (c : Char) : SplitPosition :=
  match position.state with
  | .between =>
    if isWordBreak c then { position with word := [] }
    else { position with state := (SplitState.enter c).1, word := (SplitState.enter c).2 }
  | .bare =>
    if isWordBreak c then { words := position.words ++ [position.word] }
    else { position with
      state := (SplitState.enter c).1
      word := position.word ++ (SplitState.enter c).2 }
  | .inside quote =>
    if c = quote then { position with state := .bare }
    else if c = '\\' && quote = '"' then { position with state := .escaped (some quote) }
    else { position with word := position.word ++ [c] }
  | .escaped none => { position with state := .bare, word := position.word ++ [c] }
  | .escaped (some quote) =>
    let literal := if c = '\\' || c = quote then [c] else ['\\', c]
    { position with state := .inside quote, word := position.word ++ literal }

/-- The position behind one more piece. -/
def after (position : SplitPosition) (piece : List Char) : SplitPosition :=
  piece.foldl next position

/-- The words of a line that ends at a position. -/
def finish (position : SplitPosition) : Except SplitError (List (List Char)) :=
  match position.state with
  | .between => .ok position.words
  | .bare => .ok (position.words ++ [position.word])
  | .inside _ => .error .openQuote
  | .escaped _ => .error .openEscape

/-- Without characters the position does not change. -/
@[simp] theorem after_nil (position : SplitPosition) : position.after [] = position := rfl

/-- The first character is taken before the others. -/
@[simp] theorem after_cons (position : SplitPosition) (c : Char) (piece : List Char) :
    position.after (c :: piece) = (position.next c).after piece := rfl

/-- A piece may be taken in two parts. -/
theorem after_append (position : SplitPosition) (front back : List Char) :
    position.after (front ++ back) = (position.after front).after back := List.foldl_append

/-- Splitting what is left of a line leads to the words of the last position. -/
theorem map_splitFrom (position : SplitPosition) (rest : List Char) :
    (splitFrom position.state position.word rest).map (position.words ++ ·) =
      (position.after rest).finish := by
  induction rest generalizing position with
  | nil =>
    obtain ⟨words, state, word⟩ := position
    cases state <;> simp [splitFrom, finish, Except.map]
  | cons c rest hypothesis =>
    rw [after_cons, ← hypothesis]
    obtain ⟨words, state, word⟩ := position
    cases state with
    | between =>
      simp only [splitFrom, next]
      split <;> rfl
    | bare =>
      simp only [splitFrom, next]
      split
      · cases splitFrom .between [] rest <;> simp [bind, Except.bind, pure, Except.pure, Except.map]
      · rfl
    | inside quote =>
      simp only [splitFrom, next]
      split
      · rfl
      · split <;> rfl
    | escaped quote =>
      cases quote <;> rfl

end SplitPosition

/-- The complete words stay in front of all others. -/
theorem SplitPosition.exists_of_finish {position : SplitPosition} {rest : List Char}
    {words : List (List Char)} (split : (position.after rest).finish = .ok words) :
    ∃ others, words = position.words ++ others := by
  rw [← map_splitFrom] at split
  obtain ⟨others, -, rfl⟩ := map_eq_ok_iff.mp split
  exact ⟨others, rfl⟩

/-- The position behind the beginning of a line. -/
def splitPosition (front : List Char) : SplitPosition := SplitPosition.after {} front

/-- The position behind a line is that behind its front, moved on over the rest. -/
theorem splitPosition_append (front back : List Char) :
    splitPosition (front ++ back) = (splitPosition front).after back :=
  SplitPosition.after_append _ front back

/-- The words of a line are those of its last position. -/
theorem shellWords_eq (line : String) :
    shellWords line = (splitPosition line.toList).finish.map (·.map String.ofList) := by
  have split := SplitPosition.map_splitFrom {} line.toList
  simp only [List.nil_append] at split
  unfold shellWords splitPosition
  rw [← split]
  cases splitFrom .between [] line.toList <;> rfl

/-- A line splits into words exactly if its last position has them. -/
theorem shellWords_eq_ok_iff {line : String} {words : List String} :
    shellWords line = .ok words ↔
      (splitPosition line.toList).finish = .ok (words.map String.toList) := by
  rw [shellWords_eq, map_eq_ok_iff]
  constructor
  · rintro ⟨found, finished, rfl⟩
    simpa using finished
  · intro finished
    exact ⟨_, finished, by simp⟩

/-! ## Steps -/

/-- A character that stands for itself, outside quotes and in them. -/
def IsPlain (c : Char) : Prop := isWordBreak c = false ∧ isQuote c = false ∧ c ≠ '\\'

instance : DecidablePred IsPlain := fun _ => inferInstanceAs (Decidable (_ ∧ _ ∧ _))

/-- A plain character begins a word that is not quoted. -/
theorem IsPlain.enter_eq {c : Char} (plain : IsPlain c) : SplitState.enter c = (.bare, [c]) := by
  unfold SplitState.enter
  rw [if_neg plain.2.2, if_neg (by simp [plain.2.1])]

/-- What one character can do at a position. -/
inductive SplitStep (position : SplitPosition) (c : Char) : SplitPosition → Prop
  /-- It separates words where no word has begun. -/
  | skip (between : position.state = .between) (separates : isWordBreak c) :
    SplitStep position c position
  /-- It completes a word. -/
  | complete (bare : position.state = .bare) (separates : isWordBreak c) :
    SplitStep position c { words := position.words ++ [position.word] }
  /-- It stands for itself. -/
  | add (outside : position.state = .between ∨ position.state = .bare) (plain : IsPlain c) :
    SplitStep position c { position with state := .bare, word := position.word ++ [c] }
  /-- It escapes the next character. -/
  | escape (outside : position.state = .between ∨ position.state = .bare) (backslash : c = '\\') :
    SplitStep position c { position with state := .escaped none }
  /-- It opens quotes. -/
  | openQuote (outside : position.state = .between ∨ position.state = .bare) (mark : isQuote c) :
    SplitStep position c { position with state := .inside c }
  /-- It closes quotes. -/
  | closeQuote (inside : position.state = .inside c) :
    SplitStep position c { position with state := .bare }
  /-- It escapes the next character inside quotes. -/
  | escapeQuoted {quote : Char} (inside : position.state = .inside quote) (differs : c ≠ quote)
    (backslash : c = '\\') : SplitStep position c { position with state := .escaped (some quote) }
  /-- It stands for itself inside quotes. -/
  | addQuoted {quote : Char} (inside : position.state = .inside quote) (differs : c ≠ quote) :
    SplitStep position c { position with word := position.word ++ [c] }
  /-- It has been escaped. -/
  | addEscaped (escaped : position.state = .escaped none) :
    SplitStep position c { position with state := .bare, word := position.word ++ [c] }
  /-- It has been escaped inside quotes, with or without effect. -/
  | addEscapedQuoted {quote : Char} {literal : List Char}
    (escaped : position.state = .escaped (some quote))
    (added : literal = [c] ∨ literal = ['\\', c]) :
    SplitStep position c
      { position with state := .inside quote, word := position.word ++ literal }

/-- The quotes of a state are quotes. -/
def SplitState.IsProper : SplitState → Prop
  | .inside quote => isQuote quote
  | .escaped (some quote) => isQuote quote
  | _ => True

/-- A position of a line: quotes are quotes, and there is no part of a word between words. -/
structure SplitPosition.IsSound (position : SplitPosition) : Prop where
  /-- The quotes are quotes. -/
  proper : position.state.IsProper
  /-- Nothing of the next word is there. -/
  clear : position.state = .between → position.word = []

namespace SplitPosition.IsSound

variable {position : SplitPosition} {quote : Char}

/-- Only a quote can be open. -/
theorem isQuote_of_inside (sound : position.IsSound) (inside : position.state = .inside quote) :
    isQuote quote := by
  have proper := sound.proper
  rwa [inside] at proper

/-- Around an escape, too, only a quote can be open. -/
theorem isQuote_of_escaped (sound : position.IsSound)
    (escaped : position.state = .escaped (some quote)) : isQuote quote := by
  have proper := sound.proper
  rwa [escaped] at proper

end SplitPosition.IsSound

/-- Outside quotes, a character that does not separate words enters a word. -/
theorem SplitStep.of_enter {position : SplitPosition} {c : Char}
    (outside : position.state = .between ∨ position.state = .bare)
    (joins : isWordBreak c = false) :
    SplitStep position c { position with
      state := (SplitState.enter c).1
      word := position.word ++ (SplitState.enter c).2 } := by
  unfold SplitState.enter
  split
  · next backslash => simpa using SplitStep.escape outside backslash
  · next other =>
    split
    · next mark => simpa using SplitStep.openQuote outside mark
    · next unmarked => exact .add outside ⟨joins, Bool.eq_false_iff.mpr unmarked, other⟩

/-- A sound position moves on in one of the ways that there are. -/
theorem SplitPosition.IsSound.step {position : SplitPosition} (sound : position.IsSound)
    (c : Char) : SplitStep position c (position.next c) := by
  obtain ⟨words, state, word⟩ := position
  cases state with
  | between =>
    obtain rfl : word = [] := sound.clear rfl
    unfold SplitPosition.next
    dsimp only
    split
    · next separates => exact .skip rfl separates
    · next joins => exact .of_enter (.inl rfl) (Bool.eq_false_iff.mpr joins)
  | bare =>
    unfold SplitPosition.next
    dsimp only
    split
    · next separates => exact .complete rfl separates
    · next joins => exact .of_enter (.inr rfl) (Bool.eq_false_iff.mpr joins)
  | inside quote =>
    unfold SplitPosition.next
    dsimp only
    split
    · next closes => exact closes ▸ .closeQuote rfl
    · next differs =>
      split
      · next escapes =>
        simp only [Bool.and_eq_true, decide_eq_true_eq] at escapes
        exact .escapeQuoted rfl differs escapes.1
      · exact .addQuoted rfl differs
  | escaped quote =>
    cases quote with
    | none => exact .addEscaped rfl
    | some quote =>
      refine .addEscapedQuoted rfl ?_
      split
      · exact .inl rfl
      · exact .inr rfl

/-- A sound position stays sound. -/
theorem SplitPosition.IsSound.next {position : SplitPosition} (sound : position.IsSound)
    (c : Char) : (position.next c).IsSound := by
  have step := sound.step c
  generalize position.next c = later at step ⊢
  cases step with
  | skip between separates => exact sound
  | complete bare separates => exact ⟨trivial, fun _ => rfl⟩
  | add outside plain => exact ⟨trivial, nofun⟩
  | escape outside backslash => exact ⟨trivial, nofun⟩
  | openQuote outside mark => exact ⟨mark, nofun⟩
  | closeQuote inside => exact ⟨trivial, nofun⟩
  | escapeQuoted inside differs backslash => exact ⟨sound.isQuote_of_inside inside, nofun⟩
  | addQuoted inside differs =>
    refine ⟨sound.proper, fun between => ?_⟩
    rw [inside] at between
    contradiction
  | addEscaped escaped => exact ⟨trivial, nofun⟩
  | addEscapedQuoted escaped added => exact ⟨sound.isQuote_of_escaped escaped, nofun⟩

/-- All positions that are reached from the start are sound. -/
theorem splitPosition_isSound (front : List Char) : (splitPosition front).IsSound := by
  induction front using List.reverseRecOn with
  | nil => exact ⟨trivial, fun _ => rfl⟩
  | append_singleton front c hypothesis =>
    rw [splitPosition_append]
    exact hypothesis.next c

/-- The last step to a position. -/
theorem splitPosition_step (front : List Char) (c : Char) :
    SplitStep (splitPosition front) c (splitPosition (front ++ [c])) := by
  rw [splitPosition_append]
  exact (splitPosition_isSound front).step c

/-- The last character in front of a place between words separates words. -/
theorem isWordBreak_of_between {front : List Char} {c : Char}
    (between : (splitPosition (front ++ [c])).state = .between) : isWordBreak c := by
  have step := splitPosition_step front c
  generalize splitPosition (front ++ [c]) = later at step between
  cases step with
  | skip _ separates | complete _ separates => exact separates
  | addQuoted inside => simp [inside] at between
  | _ => nomatch between

/-- The last character in front of an escaped one is a backslash. -/
theorem eq_backslash_of_escaped {front : List Char} {c : Char} {quote : Option Char}
    (escaped : (splitPosition (front ++ [c])).state = .escaped quote) : c = '\\' := by
  have step := splitPosition_step front c
  generalize splitPosition (front ++ [c]) = later at step escaped
  cases step with
  | escape _ backslash | escapeQuoted _ _ backslash => exact backslash
  | skip between => simp [between] at escaped
  | addQuoted inside => simp [inside] at escaped
  | _ => nomatch escaped

/-- The last character of an empty word outside quotes is a quote. -/
theorem isQuote_of_empty {front : List Char} {c : Char}
    (bare : (splitPosition (front ++ [c])).state = .bare)
    (empty : (splitPosition (front ++ [c])).word = []) : isQuote c := by
  have step := splitPosition_step front c
  generalize splitPosition (front ++ [c]) = later at step bare empty
  cases step with
  | closeQuote inside => exact (splitPosition_isSound front).isQuote_of_inside inside
  | add | addEscaped => simp at empty
  | skip between => simp [between] at bare
  | addQuoted inside => simp [inside] at bare
  | _ => nomatch bare

/-- Outside quotes, there are words. -/
theorem SplitPosition.exists_finish {position : SplitPosition}
    (outside : position.state = .between ∨ position.state = .bare) :
    ∃ words, position.finish = .ok words := by
  unfold finish
  rcases outside with between | bare
  · exact ⟨position.words, by rw [between]⟩
  · exact ⟨position.words ++ [position.word], by rw [bare]⟩

/-- A line that does not end inside quotes or behind an escaping backslash splits. -/
theorem exists_shellWords_of_outside {line : String}
    (outside : (splitPosition line.toList).state = .between ∨
      (splitPosition line.toList).state = .bare) : ∃ words, shellWords line = .ok words := by
  obtain ⟨words, finished⟩ := SplitPosition.exists_finish outside
  rw [shellWords_eq, finished]
  exact ⟨_, rfl⟩

/-! ## Quiet characters -/

/-- White space is neither a quote nor a backslash. -/
theorem quiet_of_isBlankChar {c : Char} (blank : isBlankChar c) : isQuote c = false ∧ c ≠ '\\' := by
  constructor
  · by_contra quote
    simp only [isQuote, Bool.not_eq_false, Bool.or_eq_true, decide_eq_true_eq] at quote
    rcases quote with rfl | rfl <;> contradiction
  · rintro rfl
    contradiction

/-- Characters that separate words are white space. -/
theorem isBlankChar_of_isWordBreak {c : Char} (separates : isWordBreak c) : isBlankChar c := by
  simp only [isWordBreak, Bool.or_eq_true, decide_eq_true_eq] at separates
  rcases separates with ((rfl | rfl) | rfl) | rfl <;> decide

/-- A character that is neither a quote nor a backslash opens no quotes. -/
theorem SplitStep.outside_of_quiet {position later : SplitPosition} {c : Char}
    (step : SplitStep position c later)
    (outside : position.state = .between ∨ position.state = .bare)
    (quiet : isQuote c = false ∧ c ≠ '\\') : later.state = .between ∨ later.state = .bare := by
  cases step with
  | skip between separates => exact outside
  | complete bare separates => exact .inl rfl
  | add outside plain => exact .inr rfl
  | escape outside backslash => exact absurd backslash quiet.2
  | openQuote outside mark => simp [mark] at quiet
  | addEscaped escaped => simp [escaped] at outside
  | closeQuote inside => simp [inside] at outside
  | escapeQuoted inside differs backslash => simp [inside] at outside
  | addQuoted inside differs => simp [inside] at outside
  | addEscapedQuoted escaped added => simp [escaped] at outside

/-- No quotes are open behind a piece without quotes and backslashes. -/
theorem SplitPosition.IsSound.after_quiet {position : SplitPosition} {piece : List Char}
    (sound : position.IsSound) (outside : position.state = .between ∨ position.state = .bare)
    (quiet : ∀ c ∈ piece, isQuote c = false ∧ c ≠ '\\') :
    (position.after piece).state = .between ∨ (position.after piece).state = .bare := by
  induction piece generalizing position with
  | nil => exact outside
  | cons c piece hypothesis =>
    obtain ⟨first, others⟩ := List.forall_mem_cons.mp quiet
    exact hypothesis (sound.next c) ((sound.step c).outside_of_quiet outside first) others

/-- Nor are any behind an escaping backslash, once there is a character for it. -/
theorem SplitPosition.IsSound.after_quiet_of_escaped {position : SplitPosition}
    {piece : List Char} (sound : position.IsSound) (escaped : position.state = .escaped none)
    (filled : piece ≠ []) (quiet : ∀ c ∈ piece, isQuote c = false ∧ c ≠ '\\') :
    (position.after piece).state = .between ∨ (position.after piece).state = .bare := by
  obtain ⟨c, piece, rfl⟩ := List.exists_cons_of_ne_nil filled
  have bare : (position.next c).state = .bare := by simp [SplitPosition.next, escaped]
  exact (sound.next c).after_quiet (.inr bare) (List.forall_mem_cons.mp quiet).2

/-! ## Plain characters -/

namespace SplitPosition

variable {position : SplitPosition} {piece : List Char}

/-- Plain characters go into a word that is not quoted. -/
theorem after_bare (bare : position.state = .bare) (plain : ∀ c ∈ piece, IsPlain c) :
    position.after piece = { position with word := position.word ++ piece } := by
  induction piece generalizing position with
  | nil => simp
  | cons c piece hypothesis =>
    obtain ⟨first, others⟩ := List.forall_mem_cons.mp plain
    let longer : SplitPosition := { position with word := position.word ++ [c] }
    have stepped : position.next c = longer := by
      simp [next, longer, bare, first.1, first.enter_eq]
    have still : longer.state = .bare := bare
    rw [after_cons, stepped, hypothesis still others, List.append_assoc]
    rfl

/-- Inside quotes, all characters but quotes and backslashes go into the word. -/
theorem after_inside {quote : Char} (inside : position.state = .inside quote)
    (mark : isQuote quote) (plain : ∀ c ∈ piece, isQuote c = false ∧ c ≠ '\\') :
    position.after piece = { position with word := position.word ++ piece } := by
  induction piece generalizing position with
  | nil => simp
  | cons c piece hypothesis =>
    obtain ⟨first, others⟩ := List.forall_mem_cons.mp plain
    have differs : c ≠ quote := fun same => by simp [← same, first.1] at mark
    let longer : SplitPosition := { position with word := position.word ++ [c] }
    have stepped : position.next c = longer := by
      simp [next, longer, inside, differs, first.2]
    have still : longer.state = .inside quote := inside
    rw [after_cons, stepped, hypothesis still others, List.append_assoc]
    rfl

/-- What becomes of a word of plain characters at a position. -/
theorem finish_after_plain (sound : position.IsSound) (given : piece ≠ [])
    (plain : ∀ c ∈ piece, IsPlain c) :
    (position.after piece).finish =
      match position.state with
      | .between => .ok (position.words ++ [piece])
      | .bare | .escaped none => .ok (position.words ++ [position.word ++ piece])
      | .inside _ | .escaped (some _) => .error .openQuote := by
  obtain ⟨words, state, word⟩ := position
  obtain ⟨c, piece, rfl⟩ := List.exists_cons_of_ne_nil given
  obtain ⟨first, others⟩ := List.forall_mem_cons.mp plain
  have quiet : ∀ d ∈ piece, isQuote d = false ∧ d ≠ '\\' := fun d listed => (others d listed).2
  rw [after_cons]
  cases state with
  | between =>
    simp only [next, first.1, first.enter_eq]
    rw [if_neg Bool.false_ne_true, after_bare rfl others]
    rfl
  | bare =>
    simp only [next, first.1, first.enter_eq]
    rw [if_neg Bool.false_ne_true, after_bare rfl others]
    simp [finish]
  | inside quote =>
    have mark : isQuote quote := sound.proper
    rw [← after_cons, after_inside rfl mark fun d listed => (plain d listed).2]
    rfl
  | escaped quote =>
    cases quote with
    | none =>
      simp only [next]
      rw [after_bare rfl others]
      simp [finish]
    | some quote =>
      have mark : isQuote quote := sound.proper
      simp only [next]
      rw [after_inside rfl mark quiet]
      rfl

end SplitPosition

end DebugLens.Text
