import DebugLens.Proofs.Text.ShellWords
import DebugLens.Proofs.Text.Trim

/-!
# Words of trimmed lines

White space of any script is trimmed from the ends of a line, but only four of these characters
separate words. The others are letters of words like any character, and so is a separator behind a
backslash. So a line has the words of its trimmed form only if no such letter has been trimmed from
it, unless an open quote leaves it without words anyway.
-/
namespace DebugLens.Text

namespace SplitPosition

variable {position other : SplitPosition} {extra piece : List Char} {c : Char}

/-! ## Letters -/

/-- The letters of the words so far. -/
def letters (position : SplitPosition) : List Char := position.words.flatten ++ position.word

/-- The words of a line have the letters of its last position. -/
theorem IsSound.flatten_eq {words : List (List Char)} (sound : position.IsSound)
    (finished : position.finish = .ok words) : words.flatten = position.letters := by
  obtain ⟨complete, state, word⟩ := position
  cases state with
  | between =>
    have clear : word = [] := sound.clear rfl
    have same : complete = words := by simpa [finish] using finished
    simp [letters, clear, same]
  | bare =>
    have same : complete ++ [word] = words := by simpa [finish] using finished
    simp [letters, ← same]
  | inside quote => simp [finish] at finished
  | escaped quote => simp [finish] at finished

/-- Outside quotes, a separator adds nothing to the words. -/
theorem IsSound.next_of_separates (sound : position.IsSound)
    (outside : position.state = .between ∨ position.state = .bare) (separates : isWordBreak c) :
    (position.next c).state = .between ∧ (position.next c).letters = position.letters := by
  obtain ⟨words, state, word⟩ := position
  rcases outside with rfl | rfl
  · have clear : word = [] := sound.clear rfl
    simp [SplitPosition.next, separates, letters, clear]
  · simp [SplitPosition.next, separates, letters]

/-- Outside quotes, any other character enters a word. -/
theorem IsSound.next_of_joins (sound : position.IsSound)
    (outside : position.state = .between ∨ position.state = .bare)
    (joins : isWordBreak c = false) :
    (position.next c).state = (SplitState.enter c).1 ∧
      (position.next c).letters = position.letters ++ (SplitState.enter c).2 := by
  obtain ⟨words, state, word⟩ := position
  rcases outside with rfl | rfl
  · have clear : word = [] := sound.clear rfl
    simp [SplitPosition.next, joins, letters, clear]
  · simp [SplitPosition.next, joins, letters]

/-- White space adds itself to the words unless it separates them. -/
theorem IsSound.letters_after_blank (sound : position.IsSound)
    (outside : position.state = .between ∨ position.state = .bare)
    (blank : ∀ c ∈ piece, isBlankChar c) :
    (position.after piece).letters = position.letters ++ piece.filter (!isWordBreak ·) := by
  induction piece generalizing position with
  | nil => simp
  | cons c piece hypothesis =>
    obtain ⟨first, others⟩ := List.forall_mem_cons.mp blank
    have still := (sound.step c).outside_of_quiet outside (quiet_of_isBlankChar first)
    rw [after_cons, hypothesis (sound.next c) still others]
    cases separates : isWordBreak c with
    | true => simp [(sound.next_of_separates outside separates).2, separates]
    | false =>
      have plain : IsPlain c := ⟨separates, quiet_of_isBlankChar first⟩
      simp [(sound.next_of_joins outside separates).2, separates, plain.enter_eq]

/-- Separators change nothing between words. -/
theorem IsSound.after_separators (sound : position.IsSound) (between : position.state = .between)
    (separators : ∀ c ∈ piece, isWordBreak c) : position.after piece = position := by
  induction piece with
  | nil => rfl
  | cons c piece hypothesis =>
    obtain ⟨first, others⟩ := List.forall_mem_cons.mp separators
    have still : position.next c = position := by
      obtain ⟨words, state, word⟩ := position
      obtain rfl : state = .between := between
      have clear : word = [] := sound.clear rfl
      simp [SplitPosition.next, first, clear]
    rw [after_cons, still, hypothesis others]

/-- Separators at the end change no words. -/
theorem IsSound.finish_after_separators (sound : position.IsSound)
    (outside : position.state = .between ∨ position.state = .bare)
    (separators : ∀ c ∈ piece, isWordBreak c) :
    (position.after piece).finish = position.finish := by
  rcases outside with between | bare
  · rw [sound.after_separators between separators]
  · cases piece with
    | nil => rfl
    | cons c piece =>
      obtain ⟨first, others⟩ := List.forall_mem_cons.mp separators
      have complete : position.next c = { words := position.words ++ [position.word] } := by
        simp [SplitPosition.next, bare, first]
      have fresh : IsSound { words := position.words ++ [position.word] } :=
        ⟨trivial, fun _ => rfl⟩
      rw [after_cons, complete, fresh.after_separators rfl others]
      simp [finish, bare]

/-- Behind an escaping backslash, white space at the end is a letter or stays inside quotes. -/
theorem IsSound.finish_after_escaped (sound : position.IsSound) {quote : Option Char}
    (escaped : position.state = .escaped quote) (filled : piece ≠ [])
    (blank : ∀ c ∈ piece, isBlankChar c) :
    (position.after piece).finish ≠ .error .openEscape := by
  have quiet : ∀ c ∈ piece, isQuote c = false ∧ c ≠ '\\' := fun c listed =>
    quiet_of_isBlankChar (blank c listed)
  cases quote with
  | none =>
    obtain ⟨words, finished⟩ := exists_finish (sound.after_quiet_of_escaped escaped filled quiet)
    rw [finished]
    exact nofun
  | some quote =>
    obtain ⟨c, piece, rfl⟩ := List.exists_cons_of_ne_nil filled
    have inside : (position.next c).state = .inside quote := by
      simp [SplitPosition.next, escaped]
    rw [after_cons, after_inside inside (sound.isQuote_of_escaped escaped)
      (List.forall_mem_cons.mp quiet).2]
    simp [finish, inside]

/-! ## Letters in front -/

/-- The other position is in the same state, with some letters more in front. -/
structure IsAhead (extra : List Char) (position other : SplitPosition) : Prop where
  /-- The states are equal. -/
  state : other.state = position.state
  /-- The letters come first. -/
  letters : other.letters = extra ++ position.letters

/-- Outside quotes, the states behind a character are equal whether or not a word has begun. -/
theorem IsAhead.of_outside (sound : position.IsSound) (alike : other.IsSound)
    (outside : position.state = .between ∨ position.state = .bare)
    (too : other.state = .between ∨ other.state = .bare)
    (more : other.letters = extra ++ position.letters) (c : Char) :
    IsAhead extra (position.next c) (other.next c) := by
  cases separates : isWordBreak c with
  | true =>
    have here := sound.next_of_separates outside separates
    have there := alike.next_of_separates too separates
    exact ⟨there.1.trans here.1.symm, by rw [there.2, here.2, more]⟩
  | false =>
    have here := sound.next_of_joins outside separates
    have there := alike.next_of_joins too separates
    exact ⟨there.1.trans here.1.symm, by rw [there.2, here.2, more, List.append_assoc]⟩

/-- Every character keeps the states equal and the letters in front. -/
theorem IsAhead.next (ahead : IsAhead extra position other) (sound : position.IsSound)
    (alike : other.IsSound) (c : Char) : IsAhead extra (position.next c) (other.next c) := by
  have same := ahead.state
  by_cases outside : position.state = .between ∨ position.state = .bare
  · exact .of_outside sound alike outside (same ▸ outside) ahead.letters c
  · have more := ahead.letters
    obtain ⟨words, state, word⟩ := position
    obtain ⟨others, kind, part⟩ := other
    obtain rfl : kind = state := same
    replace more : others.flatten ++ part = extra ++ (words.flatten ++ word) := more
    have joined (added : List Char) :
        others.flatten ++ (part ++ added) = extra ++ (words.flatten ++ (word ++ added)) := by
      rw [← List.append_assoc, more, List.append_assoc, List.append_assoc]
    cases kind with
    | between => exact absurd (.inl rfl) outside
    | bare => exact absurd (.inr rfl) outside
    | inside quote =>
      unfold SplitPosition.next
      dsimp only
      split
      · exact ⟨rfl, more⟩
      · split
        · exact ⟨rfl, more⟩
        · exact ⟨rfl, joined [c]⟩
    | escaped quote =>
      cases quote with
      | none => exact ⟨rfl, joined [c]⟩
      | some quote => exact ⟨rfl, joined _⟩

/-- A position that is ahead of another one stays ahead over the same characters. -/
theorem IsAhead.after (ahead : IsAhead extra position other) (sound : position.IsSound)
    (alike : other.IsSound) (piece : List Char) :
    IsAhead extra (position.after piece) (other.after piece) := by
  induction piece generalizing position other with
  | nil => exact ahead
  | cons c piece hypothesis =>
    exact hypothesis (ahead.next sound alike c) (sound.next c) (alike.next c)

end SplitPosition

/-! ## Trimmed characters -/

/-- The white space that is trimmed from the front of a line. -/
def leadingBlanks (line : String) : List Char := line.toList.takeWhile isBlankChar

/-- The white space that is then trimmed from its end. -/
def trailingBlanks (line : String) : List Char :=
  (line.toList.dropWhile isBlankChar).rtakeWhile isBlankChar

/-- Nothing but white space is trimmed. -/
theorem toList_eq_strip (line : String) :
    line.toList = leadingBlanks line ++ ((strip line).toList ++ trailingBlanks line) := by
  unfold leadingBlanks trailingBlanks strip trimBoth
  rw [String.toList_ofList, dropEndWhile_eq, List.rdropWhile_append_rtakeWhile,
    List.takeWhile_append_dropWhile]

/-- The blanks in front of a line are blank. -/
theorem leadingBlanks_blank (line : String) : ∀ c ∈ leadingBlanks line, isBlankChar c :=
  fun _ listed => List.mem_takeWhile_imp listed

/-- The blanks at the end of a line are blank. -/
theorem trailingBlanks_blank (line : String) : ∀ c ∈ trailingBlanks line, isBlankChar c :=
  fun _ listed => List.mem_rtakeWhile_imp listed

/-- The last position of a line lies behind its trimmed form. -/
theorem splitPosition_eq_strip (line : String) : splitPosition line.toList =
    (splitPosition (leadingBlanks line ++ (strip line).toList)).after (trailingBlanks line) := by
  rw [← splitPosition_append, List.append_assoc, ← toList_eq_strip]

/-- No letter is trimmed from the line: only separators are if it splits, and nothing is from its
end if it ends with an escaping backslash. -/
def TrimsNoLetters (line : String) : Prop :=
  match shellWords (strip line) with
  | .ok _ => ∀ c ∈ leadingBlanks line ++ trailingBlanks line, isWordBreak c
  | .error .openQuote => True
  | .error .openEscape => trailingBlanks line = []

/-- The position behind the trimmed form is ahead by the letters that are trimmed from the front. -/
theorem isAhead_of_leadingBlanks {line : String} (filled : strip line ≠ "") :
    SplitPosition.IsAhead ((leadingBlanks line).filter (!isWordBreak ·))
      (splitPosition (strip line).toList)
      (splitPosition (leadingBlanks line ++ (strip line).toList)) := by
  have start : SplitPosition.IsSound {} := splitPosition_isSound []
  have sound := splitPosition_isSound (leadingBlanks line)
  have blank := leadingBlanks_blank line
  have outside : (splitPosition (leadingBlanks line)).state = .between ∨
      (splitPosition (leadingBlanks line)).state = .bare :=
    start.after_quiet (.inl rfl) fun c listed => quiet_of_isBlankChar (blank c listed)
  have letters : (splitPosition (leadingBlanks line)).letters =
      (leadingBlanks line).filter (!isWordBreak ·) ++ SplitPosition.letters {} := by
    have added := start.letters_after_blank (.inl rfl) blank
    have none : SplitPosition.letters {} = [] := rfl
    rw [none, List.append_nil]
    exact added
  have given : (strip line).toList ≠ [] := by rwa [ne_eq, String.toList_eq_nil_iff]
  obtain ⟨c, rest, split⟩ := List.exists_cons_of_ne_nil given
  have ahead := SplitPosition.IsAhead.of_outside start sound (.inl rfl) outside letters c
  rw [splitPosition_append, split]
  exact ahead.after (start.next c) (sound.next c) rest

/-- Two lines split alike exactly if their last positions finish alike. -/
theorem shellWords_eq_iff {line other : String} : shellWords line = shellWords other ↔
    (splitPosition line.toList).finish = (splitPosition other.toList).finish := by
  rw [shellWords_eq, shellWords_eq]
  have injective : Function.Injective (List.map String.ofList) :=
    List.map_injective_iff.mpr fun _ _ same => String.ofList_injective same
  cases (splitPosition line.toList).finish <;> cases (splitPosition other.toList).finish <;>
    simp [Except.map, injective.eq_iff]

/-- Where the trimmed form splits, the line has the same words exactly if separators are trimmed. -/
theorem finish_strip_eq_iff {line : String} (filled : strip line ≠ "")
    (outside : (splitPosition (strip line).toList).state = .between ∨
      (splitPosition (strip line).toList).state = .bare) :
    (splitPosition (strip line).toList).finish = (splitPosition line.toList).finish ↔
      ∀ c ∈ leadingBlanks line ++ trailingBlanks line, isWordBreak c := by
  have sound := splitPosition_isSound (strip line).toList
  constructor
  · intro same
    have alike := splitPosition_isSound (leadingBlanks line ++ (strip line).toList)
    have ahead := isAhead_of_leadingBlanks filled
    have too := outside
    rw [← ahead.state] at too
    obtain ⟨words, finished⟩ := SplitPosition.exists_finish outside
    have here := sound.flatten_eq finished
    have there := (splitPosition_isSound line.toList).flatten_eq (same ▸ finished)
    have added := alike.letters_after_blank too (trailingBlanks_blank line)
    -- The words have no room for a letter that is trimmed.
    rw [splitPosition_eq_strip line, added, ahead.letters, here] at there
    have lengths := congrArg List.length there
    simp only [List.length_append] at lengths
    have front : (leadingBlanks line).filter (!isWordBreak ·) = [] :=
      List.eq_nil_of_length_eq_zero (by omega)
    have back : (trailingBlanks line).filter (!isWordBreak ·) = [] :=
      List.eq_nil_of_length_eq_zero (by omega)
    rw [List.filter_eq_nil_iff] at front back
    intro c listed
    rcases List.mem_append.mp listed with first | last
    · simpa using front c first
    · simpa using back c last
  · intro separators
    obtain ⟨front, back⟩ := List.forall_mem_append.mp separators
    have start : SplitPosition.IsSound {} := splitPosition_isSound []
    have unmoved : splitPosition (leadingBlanks line) = {} := start.after_separators rfl front
    have same : splitPosition (leadingBlanks line ++ (strip line).toList) =
        splitPosition (strip line).toList := by
      rw [splitPosition_append, unmoved]
      rfl
    rw [splitPosition_eq_strip line, same, sound.finish_after_separators outside back]

/-- A line splits into the words of its trimmed form exactly if no letter is trimmed. -/
theorem shellWords_strip_eq_iff {line : String} (filled : strip line ≠ "") :
    shellWords (strip line) = shellWords line ↔ TrimsNoLetters line := by
  have alike := splitPosition_isSound (leadingBlanks line ++ (strip line).toList)
  have ahead := isAhead_of_leadingBlanks filled
  have blank := trailingBlanks_blank line
  rw [shellWords_eq_iff]
  unfold TrimsNoLetters
  rw [shellWords_eq]
  cases kind : (splitPosition (strip line).toList).state with
  | inside quote =>
    have finished : (splitPosition (strip line).toList).finish = .error .openQuote := by
      simp [SplitPosition.finish, kind]
    have inside := ahead.state.trans kind
    have still := SplitPosition.after_inside inside (alike.isQuote_of_inside inside)
      fun c listed => quiet_of_isBlankChar (blank c listed)
    rw [finished, splitPosition_eq_strip line, still]
    simp [SplitPosition.finish, inside, Except.map]
  | escaped quote =>
    have finished : (splitPosition (strip line).toList).finish = .error .openEscape := by
      simp [SplitPosition.finish, kind]
    have escaped := ahead.state.trans kind
    rw [finished, splitPosition_eq_strip line]
    constructor
    · intro same
      by_contra filled
      exact alike.finish_after_escaped escaped filled blank same.symm
    · intro none
      have none : trailingBlanks line = [] := none
      simp [none, SplitPosition.finish, escaped]
  | between | bare =>
    have outside : (splitPosition (strip line).toList).state = .between ∨
        (splitPosition (strip line).toList).state = .bare := by
      simp [kind]
    obtain ⟨words, finished⟩ := SplitPosition.exists_finish outside
    rw [finish_strip_eq_iff filled outside, finished]
    rfl

end DebugLens.Text
