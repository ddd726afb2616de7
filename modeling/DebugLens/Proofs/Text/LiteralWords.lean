import DebugLens.Proofs.Text.ShellWords

/-!
# Words that are typed as they are

A word of a line is often typed just as it is. Quotes with nothing in them, and a backslash in front
of its first character, change nothing about that; all other quotes and backslashes make the line
longer than the word. So a last word that takes up no more characters of a line than it has itself
is typed as it is, and exactly then it can be exchanged for another word of plain characters without
a look at what is in front of it.
-/
namespace DebugLens.Text

/-- A word begins behind the position: there is nothing of it yet, and no quotes are open. -/
def SplitPosition.StartsWord (position : SplitPosition) : Prop :=
  position.state = .between ∨
    position.word = [] ∧ (position.state = .bare ∨ position.state = .escaped none)

/-- Each of the quotes, closed at once. -/
def emptyQuotes (marks : List Char) : List Char := marks.flatMap fun mark => [mark, mark]

/-- The piece ends with empty quotes behind a place between words, and then with the given
characters. -/
def EndsInQuotes (front behind : List Char) : Prop :=
  ∃ start marks, front = start ++ (emptyQuotes marks ++ behind) ∧
    (splitPosition start).state = .between ∧ ∀ mark ∈ marks, isQuote mark

/-- What stands behind a front that ends between words may be taken for a word. -/
theorem EndsInQuotes.of_between {front : List Char}
    (between : (splitPosition front).state = .between) (behind : List Char) :
    EndsInQuotes (front ++ behind) behind :=
  ⟨front, [], rfl, between, nofun⟩

/-- Without an open quote, characters that follow are part of the end. -/
theorem EndsInQuotes.append {front : List Char} (ends : EndsInQuotes front [])
    (behind : List Char) : EndsInQuotes (front ++ behind) behind := by
  obtain ⟨start, marks, rfl, between, quotes⟩ := ends
  exact ⟨start, marks, by simp, between, quotes⟩

/-- A text ends in quotes once its open quote has been closed. -/
theorem EndsInQuotes.close {front : List Char} {mark : Char} (ends : EndsInQuotes front [mark])
    (quote : isQuote mark) : EndsInQuotes (front ++ [mark]) [] := by
  obtain ⟨start, marks, rfl, between, quotes⟩ := ends
  refine ⟨start, marks ++ [mark], by simp [emptyQuotes], between, fun other listed => ?_⟩
  rcases List.mem_append.mp listed with old | new
  · exact quotes other old
  · exact List.mem_singleton.mp new ▸ quote

/-- What stands in front of a position with nothing of a word: empty quotes, and what changed the
state. -/
theorem endsInQuotes_of_empty (front : List Char) (empty : (splitPosition front).word = []) :
    ((splitPosition front).state = .bare → EndsInQuotes front []) ∧
      (∀ mark, (splitPosition front).state = .inside mark → EndsInQuotes front [mark]) ∧
      ((splitPosition front).state = .escaped none → EndsInQuotes front ['\\']) := by
  induction front using List.reverseRecOn with
  | nil => exact ⟨nofun, nofun, nofun⟩
  | append_singleton front c hypothesis =>
    have sound := splitPosition_isSound front
    have step := splitPosition_step front c
    generalize splitPosition (front ++ [c]) = later at step empty ⊢
    -- A character that changes the state behind a complete opening.
    have enters (outside : (splitPosition front).state = .between ∨
        (splitPosition front).state = .bare) (blank : (splitPosition front).word = []) :
        EndsInQuotes (front ++ [c]) [c] := by
      rcases outside with between | bare
      · exact .of_between between [c]
      · exact ((hypothesis blank).1 bare).append [c]
    cases step with
    | skip between separates =>
      rw [between]
      exact ⟨nofun, nofun, nofun⟩
    | complete bare separates => exact ⟨nofun, nofun, nofun⟩
    | add outside plain => simp at empty
    | escape outside backslash =>
      refine ⟨nofun, nofun, fun _ => ?_⟩
      have ends := enters outside empty
      rwa [backslash] at ends ⊢
    | openQuote outside mark =>
      refine ⟨nofun, fun other same => ?_, nofun⟩
      obtain rfl := SplitState.inside.inj same
      exact enters outside empty
    | closeQuote inside =>
      have mark := sound.isQuote_of_inside inside
      exact ⟨fun _ => ((hypothesis empty).2.1 c inside).close mark, nofun, nofun⟩
    | escapeQuoted inside differs backslash => exact ⟨nofun, nofun, nofun⟩
    | addQuoted inside differs => simp at empty
    | addEscaped escaped => simp at empty
    | addEscapedQuoted escaped added => rcases added with rfl | rfl <;> simp at empty

/-- Empty quotes keep a word from beginning. -/
theorem after_emptyQuotes {position : SplitPosition} {marks : List Char}
    (empty : position.state = .between ∨ position.state = .bare ∧ position.word = [])
    (quotes : ∀ mark ∈ marks, isQuote mark) :
    (position.after (emptyQuotes marks)).state = .between ∨
      (position.after (emptyQuotes marks)).state = .bare ∧
        (position.after (emptyQuotes marks)).word = [] := by
  induction marks generalizing position with
  | nil => exact empty
  | cons mark marks hypothesis =>
    obtain ⟨quote, others⟩ := List.forall_mem_cons.mp quotes
    have opens : isWordBreak mark = false ∧ SplitState.enter mark = (.inside mark, []) := by
      simp only [isQuote, Bool.or_eq_true, decide_eq_true_eq] at quote
      rcases quote with rfl | rfl <;> decide
    have closed : ((position.next mark).next mark).state = .bare ∧
        ((position.next mark).next mark).word = [] := by
      obtain ⟨words, state, word⟩ := position
      rcases empty with rfl | ⟨rfl, rfl⟩ <;> simp [SplitPosition.next, opens]
    exact hypothesis (.inr closed) others

/-- Nothing of a word is there outside quotes exactly between words and behind empty quotes. -/
theorem endsInQuotes_nil_iff (front : List Char) :
    EndsInQuotes front [] ↔ (splitPosition front).state = .between ∨
      (splitPosition front).state = .bare ∧ (splitPosition front).word = [] := by
  constructor
  · rintro ⟨start, marks, rfl, between, quotes⟩
    rw [List.append_nil, splitPosition_append]
    exact after_emptyQuotes (.inl between) quotes
  · rintro (between | ⟨bare, empty⟩)
    · have ends := EndsInQuotes.of_between between []
      rwa [List.append_nil] at ends
    · exact (endsInQuotes_of_empty front empty).1 bare

/-- The first character of a word is escaped exactly behind these and a backslash. -/
theorem endsInQuotes_backslash_iff (front : List Char) :
    EndsInQuotes front ['\\'] ↔
      (splitPosition front).state = .escaped none ∧ (splitPosition front).word = [] := by
  constructor
  · rintro ⟨start, marks, rfl, between, quotes⟩
    have sound := splitPosition_isSound (start ++ emptyQuotes marks)
    have begins : (splitPosition (start ++ emptyQuotes marks)).state = .between ∨
        (splitPosition (start ++ emptyQuotes marks)).state = .bare ∧
          (splitPosition (start ++ emptyQuotes marks)).word = [] := by
      rw [splitPosition_append]
      exact after_emptyQuotes (.inl between) quotes
    have escapes : isWordBreak '\\' = false ∧ SplitState.enter '\\' = (.escaped none, []) := by
      decide
    rw [← List.append_assoc, splitPosition_append]
    generalize splitPosition (start ++ emptyQuotes marks) = position at begins
    obtain ⟨words, state, word⟩ := position
    rcases begins with rfl | ⟨rfl, rfl⟩ <;> simp [SplitPosition.next, escapes]
  · rintro ⟨escaped, empty⟩
    exact (endsInQuotes_of_empty front empty).2.2 escaped

/-- A word begins exactly behind empty quotes and possibly a backslash, where no word has begun in
front of these. -/
theorem startsWord_iff (front : List Char) :
    (splitPosition front).StartsWord ↔ EndsInQuotes front [] ∨ EndsInQuotes front ['\\'] := by
  rw [endsInQuotes_nil_iff, endsInQuotes_backslash_iff]
  unfold SplitPosition.StartsWord
  tauto

/-- A word of plain characters stands behind the complete words exactly where it can begin. -/
theorem SplitPosition.IsSound.finish_after_eq_iff {position : SplitPosition}
    (sound : position.IsSound) {piece : List Char} (given : piece ≠ [])
    (plain : ∀ c ∈ piece, IsPlain c) (words : List (List Char)) :
    (position.after piece).finish = .ok (words ++ [piece]) ↔
      position.StartsWord ∧ position.words = words := by
  rw [finish_after_plain sound given plain]
  obtain ⟨complete, state, word⟩ := position
  unfold StartsWord
  cases state with
  | between => simp
  | bare => simp [and_comm]
  | inside quote => simp
  | escaped quote => cases quote <;> simp [and_comm]

/-! ## Words no longer than what is typed -/

/-- The characters that a state has kept back. -/
def SplitState.keptBack : SplitState → Nat
  | .escaped (some _) => 1
  | _ => 0

/-- The characters of a word that have been typed for certain. -/
def SplitPosition.size (position : SplitPosition) : Nat :=
  position.word.length + position.state.keptBack

variable {position later : SplitPosition} {c : Char} {rest result : List Char}

/-- A character adds at most one to a word. -/
theorem SplitStep.size_le (step : SplitStep position c later) :
    later.size ≤ position.size + 1 := by
  unfold SplitPosition.size
  cases step with
  | skip between separates => exact Nat.le_succ _
  | complete bare separates => exact Nat.zero_le _
  | add outside plain | addEscaped escaped =>
    simp only [List.length_append, List.length_singleton, SplitState.keptBack]
    omega
  | escape outside backslash | openQuote outside mark | closeQuote inside =>
    simp only [SplitState.keptBack]
    omega
  | escapeQuoted inside differs backslash =>
    simp only [SplitState.keptBack]
    omega
  | addQuoted inside differs =>
    simp only [List.length_append, List.length_singleton]
    omega
  | addEscapedQuoted escaped added =>
    rcases added with rfl | rfl <;>
      simp only [List.length_append, List.length_cons, List.length_nil, escaped,
        SplitState.keptBack] <;>
      omega

/-- A character completes at most the current word. -/
theorem SplitStep.words_cases (step : SplitStep position c later) :
    later.words = position.words ∨
      later.words = position.words ++ [position.word] ∧ isWordBreak c := by
  cases step with
  | complete bare separates => exact .inr ⟨rfl, separates⟩
  | _ => exact .inl rfl

namespace SplitPosition

/-- A word behind the complete ones has no more characters than were typed for it. -/
theorem IsSound.length_le (sound : position.IsSound)
    (split : (position.after rest).finish = .ok (position.words ++ [result])) :
    result.length ≤ position.size + rest.length := by
  induction rest generalizing position with
  | nil =>
    obtain ⟨words, state, word⟩ := position
    cases state with
    | between => simp [finish] at split
    | bare =>
      have same : word = result := by simpa [finish] using split
      simp [same, size]
    | inside quote => simp [finish] at split
    | escaped quote => simp [finish] at split
  | cons c rest hypothesis =>
    have further := sound.next c
    have step := sound.step c
    rw [after_cons] at split
    generalize position.next c = later at further step split
    have grown := step.size_le
    rw [List.length_cons]
    rcases step.words_cases with same | ⟨more, -⟩
    · have bound := hypothesis further (same ▸ split)
      omega
    · obtain ⟨others, all⟩ := exists_of_finish split
      have same : result = position.word := by
        rw [more, List.append_assoc, List.append_cancel_left_eq] at all
        exact (List.cons.inj all).1
      rw [same, size]
      omega

/-- A word is typed as it is behind a position outside quotes, if it has all the characters that are
typed for it. -/
theorem IsSound.eq_append (sound : position.IsSound)
    (outside : position.state = .between ∨ position.state = .bare ∨
      position.state = .escaped none)
    (split : (position.after rest).finish = .ok (position.words ++ [result]))
    (long : position.word.length + rest.length ≤ result.length) :
    result = position.word ++ rest := by
  induction rest generalizing position with
  | nil =>
    obtain ⟨words, state, word⟩ := position
    rcases outside with rfl | rfl | rfl
    · simp [finish] at split
    · have same : word = result := by simpa [finish] using split
      simp [same]
    · simp [finish] at split
  | cons c rest hypothesis =>
    have further := sound.next c
    have step := sound.step c
    rw [after_cons] at split
    generalize position.next c = later at further step split
    rw [List.length_cons] at long
    -- Where a character adds nothing, the word is too short.
    have short (same : later.words = position.words)
        (fixed : later.size = position.word.length) : False := by
      have bound := further.length_le (same ▸ split)
      omega
    cases step with
    | skip between separates =>
      refine (short rfl ?_).elim
      simp [size, between, SplitState.keptBack]
    | complete bare separates =>
      obtain ⟨others, all⟩ := exists_of_finish split
      have same : result = position.word := by
        rw [List.append_assoc, List.append_cancel_left_eq] at all
        exact (List.cons.inj all).1
      rw [same] at long
      omega
    | add outside plain =>
      have longer : (position.word ++ [c]).length + rest.length ≤ result.length := by
        rw [List.length_append, List.length_singleton]
        omega
      rw [hypothesis further (.inr (.inl rfl)) split longer, List.append_assoc]
      rfl
    | escape outside backslash => exact (short rfl rfl).elim
    | openQuote outside mark => exact (short rfl rfl).elim
    | addEscaped escaped =>
      have longer : (position.word ++ [c]).length + rest.length ≤ result.length := by
        rw [List.length_append, List.length_singleton]
        omega
      rw [hypothesis further (.inr (.inl rfl)) split longer, List.append_assoc]
      rfl
    | closeQuote inside => simp [inside] at outside
    | escapeQuoted inside differs backslash => simp [inside] at outside
    | addQuoted inside differs => simp [inside] at outside
    | addEscapedQuoted escaped added => simp [escaped] at outside

end SplitPosition

/-- The line ends with a word that is typed as it is: it begins where a word can, behind nothing but
empty quotes and possibly a backslash for its first character. -/
def EndsLiterally (line word : List Char) : Prop :=
  ∃ front, line = front ++ word ∧
    (EndsInQuotes front [] ∨ word ≠ [] ∧ EndsInQuotes front ['\\'])

end DebugLens.Text
