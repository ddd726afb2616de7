import DebugLens.Proofs.Text.LiteralWords
import DebugLens.Proofs.Text.TokenNotation
import DebugLens.Session.Completion
import Mathlib

/-!
# Accepted completions

A completion takes the place of as many characters in front of the cursor as the word to complete
has, although it stands for that word. The line then has the completed word in the place of the
unfinished one exactly if the unfinished word was typed as it is. Quotes around it or backslashes
in it make what was typed longer than the word, so some of them stay behind; and white space that
has not ended a word is taken for the beginning of another one.
-/
namespace DebugLens

open Text (SplitPosition splitPosition shellWords IsPlain EndsInQuotes EndsLiterally)

/-- The text before the cursor once a completion has been accepted. -/
def Completion.accept (completion : Completion) (text : String) : String :=
  String.ofList (text.toList.rdrop completion.replaced ++ completion.text.toList)

/-- The word to complete, empty if none has begun. -/
def typedWord (text : String) : String := (typedWords text).getLast?.getD ""

/-! ## What completions consist of -/

namespace Text

/-- The beginning of a token in whatever case consists of plain characters. -/
theorem isPlain_of_lowered {token : Int} {start : String}
    (begins : (lowered start).isPrefixOf (lowered (tokenText token))) :
    ∀ c ∈ start.toList, IsPlain c := by
  have front : start.toList.map Char.toLower <+: (tokenText token).toList.map Char.toLower :=
    (lowered_isPrefixOf_tokenText_iff start token).mp begins
  intro c listed
  by_contra special
  have kinds : c ∈ [' ', '\t', '\r', '\n', '\'', '"', '\\'] := by
    by_contra other
    simp only [List.mem_cons, List.not_mem_nil, or_false, not_or] at other
    exact special (by simp [IsPlain, isWordBreak, isQuote, other])
  have kept : c.toLower = c := by
    have all : ∀ c ∈ [' ', '\t', '\r', '\n', '\'', '"', '\\'], c.toLower = c := by simp
    exact all c kinds
  -- The character has one case only, so it would be in the token in lower case.
  obtain ⟨d, shown, same⟩ := List.mem_map.mp (front.subset (List.mem_map_of_mem listed))
  have plain : ∀ d ∈ tokenCharacters, IsPlain d.toLower := List.all_iff_forall_prop.mp (by decide)
  have there : IsPlain d.toLower := plain d (mem_tokenText shown)
  rw [same, kept] at there
  exact special there

end Text

/-- A text that can be accepted as a word: it has characters, all of them plain. -/
def IsPlainWord (text : String) : Prop :=
  text.toList ≠ [] ∧ ∀ c ∈ text.toList, IsPlain c

instance : DecidablePred IsPlainWord := fun text =>
  decidable_of_iff (text.toList ≠ [] ∧ text.toList.all (IsPlain ·))
    (and_congr_right' List.all_iff_forall_prop)

/-- The names of commands are plain words. -/
theorem Command.isPlainWord_of_mem_names {command : Command} {name : String}
    (listed : name ∈ command.names) : IsPlainWord name := by
  have all : ∀ name ∈ command.names, IsPlainWord name := by
    cases command <;> decide
  exact all name listed

/-- Tokens are shown as plain words. -/
theorem isPlainWord_tokenText (token : Int) : IsPlainWord (Text.tokenText token) := by
  refine ⟨by simp [Text.tokenText], fun c listed => ?_⟩
  have all : ∀ c ∈ Text.tokenCharacters, IsPlain c := List.all_iff_forall_prop.mp (by decide)
  exact all c (Text.mem_tokenText listed)

/-- A completion of a word: it replaces as many characters as the word has, and both are plain. -/
structure Completion.Completes (completion : Completion) (start : String) : Prop where
  /-- The characters of the word are counted. -/
  replaced : completion.replaced = start.length
  /-- The text is a word. -/
  plain : IsPlainWord completion.text
  /-- What has been typed of it has no other characters. -/
  begun : ∀ c ∈ start.toList, IsPlain c

/-- The names that are offered complete what is typed. -/
theorem nameCompletions_completes {start : String} {completion : Completion}
    (offered : completion ∈ nameCompletions start) : completion.Completes start := by
  obtain ⟨command, -, named⟩ := List.mem_flatMap.mp offered
  obtain ⟨name, kept, rfl⟩ := List.mem_map.mp named
  obtain ⟨listed, begins⟩ := List.mem_filter.mp kept
  have plain := Command.isPlainWord_of_mem_names listed
  have front : start.toList <+: name.toList := String.startsWith_string_iff.mp begins
  exact ⟨rfl, plain, fun c typed => plain.2 c (front.subset typed)⟩

/-- The tokens that are offered complete what is typed. -/
theorem tokenCompletions_completes {session : Session} {start : String} {completion : Completion}
    (offered : completion ∈ session.tokenCompletions start) : completion.Completes start := by
  unfold Session.tokenCompletions at offered
  split at offered
  · nomatch offered
  · next dump read =>
    obtain ⟨text, kept, rfl⟩ := List.mem_map.mp offered
    obtain ⟨listed, begins⟩ := List.mem_filter.mp kept
    obtain ⟨method, -, rfl⟩ := List.mem_map.mp (List.mem_eraseDups.mp listed)
    exact ⟨rfl, isPlainWord_tokenText method.token, Text.isPlain_of_lowered begins⟩

/-- Whatever is offered completes the word that is being typed. -/
theorem completions_completes {session : Session} {text : String} {completion : Completion}
    (offered : completion ∈ session.completions text) :
    completion.Completes (typedWord text) := by
  unfold Session.completions at offered
  unfold typedWord
  split at offered
  · next none => exact none ▸ nameCompletions_completes offered
  · next start one => exact one ▸ nameCompletions_completes offered
  · next name start two =>
    rw [two]
    split at offered
    · exact tokenCompletions_completes offered
    · nomatch offered
  · nomatch offered

/-! ## The word to complete -/

namespace Text

/-- Text at white space: it is all white space, or its last word has only white space behind it. -/
theorem words_cases (text : String) :
    (words text = [] ∧ ∀ c ∈ text.toList, isBlankChar c) ∨
      ∃ front word behind, (words text).getLast? = some (String.ofList word) ∧ word ≠ [] ∧
        text.toList = front ++ (word ++ behind) ∧ ∀ c ∈ behind, isBlankChar c := by
  have whole := List.flatten_splitBy (fun left right => isBlankChar left == isBlankChar right)
    text.toList
  unfold words
  generalize text.toList.splitBy _ = runs at whole ⊢
  rw [← whole]
  clear whole
  induction runs using List.reverseRecOn with
  | nil => exact .inl ⟨rfl, nofun⟩
  | append_singleton runs run hypothesis =>
    rw [List.filter_append, List.map_append, List.flatten_append, List.flatten_singleton]
    cases solid : run.any fun c => !isBlankChar c with
    | true =>
      have filled : run ≠ [] := by
        rintro rfl
        contradiction
      exact .inr ⟨runs.flatten, run, [], by simp [solid], filled, by simp, nofun⟩
    | false =>
      have blank : ∀ c ∈ run, isBlankChar c := by simpa using solid
      have dropped : [run].filter (fun run => run.any fun c => !isBlankChar c) = [] := by
        simp [solid]
      rw [dropped, List.map_nil, List.append_nil]
      rcases hypothesis with ⟨none, all⟩ | ⟨front, word, behind, last, filled, split, rest⟩
      · exact .inl ⟨none, fun c listed => (List.mem_append.mp listed).elim (all c) (blank c)⟩
      · refine .inr ⟨front, word, behind ++ run, last, filled, by simp [split], fun c listed => ?_⟩
        exact (List.mem_append.mp listed).elim (rest c) (blank c)

end Text

/-- The words of a text that splits, if its last character is white space and if it is not. -/
theorem typedWords_of_split {text : String} {words : List String} {front : List Char} {last : Char}
    (ends : text.toList = front ++ [last]) (split : shellWords text = .ok words) :
    typedWords text = if Text.isBlankChar last then words ++ [""] else words := by
  unfold typedWords
  rw [ends, List.getLast?_concat, split]

/-- The word to complete is the last one of a text that splits, unless there is none yet. -/
theorem typedWords_eq {text : String} {words : List String} (split : shellWords text = .ok words)
    (begun : typedWord text ≠ "") : words = (typedWords text).dropLast ++ [typedWord text] := by
  have given : typedWords text ≠ [] := by
    intro none
    exact begun (by rw [typedWord, none]; rfl)
  have whole : typedWords text = (typedWords text).dropLast ++ [typedWord text] := by
    unfold typedWord
    rw [List.getLast?_eq_some_getLast given, Option.getD_some, List.dropLast_append_getLast]
  rcases List.eq_nil_or_concat' text.toList with empty | ⟨front, last, ends⟩
  · have none : typedWords text = [] := by
      unfold typedWords
      rw [empty]
      rfl
    exact absurd none given
  · have both := typedWords_of_split ends split
    by_cases blank : Text.isBlankChar last
    · rw [if_pos blank] at both
      exact absurd (by rw [typedWord, both]; simp) begun
    · rw [if_neg blank] at both
      rw [← both]
      exact whole

/-! ## Where a completion goes -/

/-- The last characters of a text that does not split, as many as its word to complete has, are
white space and characters of this word, or there are none behind a space. -/
theorem ending_of_unsplit {text : String} {fault : Text.SplitError}
    (unsplit : shellWords text = .error fault) :
    (typedWord text = "" ∧ ∃ front last, text.toList = front ++ [last] ∧ last ≠ '\\') ∨
      (∀ c ∈ text.toList, Text.isBlankChar c) ∨
      text.toList.rtake (typedWord text).length ≠ [] ∧
        ∀ c ∈ text.toList.rtake (typedWord text).length,
          c ∈ (typedWord text).toList ∨ Text.isBlankChar c := by
  rcases List.eq_nil_or_concat' text.toList with empty | ⟨front, last, ends⟩
  · exact .inr (.inl (by simp [empty]))
  · have fallback : typedWords text =
        if last = ' ' ∨ last = '\t' then Text.words text ++ [""] else Text.words text := by
      unfold typedWords
      rw [ends, List.getLast?_concat, unsplit]
      simp only [Bool.or_eq_true, decide_eq_true_eq]
    by_cases space : last = ' ' ∨ last = '\t'
    · rw [if_pos space] at fallback
      refine .inl ⟨by simp [typedWord, fallback], front, last, ends, ?_⟩
      rcases space with rfl | rfl <;> decide
    · rw [if_neg space] at fallback
      rcases Text.words_cases text with ⟨-, blank⟩ |
        ⟨start, word, behind, final, filled, split, rest⟩
      · exact .inr (.inl blank)
      · have typed : typedWord text = String.ofList word := by
          rw [typedWord, fallback, final, Option.getD_some]
        have size : (typedWord text).length = word.length := by
          rw [typed, String.length_ofList]
        have positive : 0 < word.length := List.length_pos_of_ne_nil filled
        have suffix : text.toList.rtake (typedWord text).length <:+ word ++ behind := by
          have whole : word ++ behind <:+ text.toList := split ▸ List.suffix_append _ _
          have taken : text.toList.rtake (typedWord text).length <:+ text.toList :=
            List.drop_suffix _ _
          refine List.suffix_of_suffix_length_le taken whole ?_
          rw [List.rtake, List.length_drop, List.length_append, size]
          omega
        refine .inr (.inr ⟨?_, fun c listed => ?_⟩)
        · rw [List.rtake, ne_eq, List.drop_eq_nil_iff, split]
          simp only [List.length_append, size]
          omega
        · rw [typed, String.toList_ofList]
          exact (List.mem_append.mp (suffix.subset listed)).imp id (rest c)

/-- A text splits if its word to complete is plain and could begin in front of as many characters
as it has. -/
theorem exists_shellWords {text : String} (plain : ∀ c ∈ (typedWord text).toList, IsPlain c)
    (starts : (splitPosition (text.toList.rdrop (typedWord text).length)).StartsWord) :
    ∃ words, shellWords text = .ok words := by
  cases split : shellWords text with
  | ok words => exact ⟨words, rfl⟩
  | error fault =>
    rw [← split]
    apply Text.exists_shellWords_of_outside
    rcases ending_of_unsplit split with ⟨empty, front, last, ends, other⟩ | blank | ⟨some, kinds⟩
    · rw [empty] at starts
      have here : text.toList.rdrop "".length = text.toList := List.rdrop_zero _
      rw [here] at starts
      rcases starts with between | ⟨-, bare | escaped⟩
      · exact .inl between
      · exact .inr bare
      · rw [ends] at escaped
        exact absurd (Text.eq_backslash_of_escaped escaped) other
    · have sound := Text.splitPosition_isSound []
      exact sound.after_quiet (.inl rfl) fun c listed => Text.quiet_of_isBlankChar (blank c listed)
    · -- Quotes that are open at the end would have to be opened behind the position.
      have sound := Text.splitPosition_isSound (text.toList.rdrop (typedWord text).length)
      have quiet : ∀ c ∈ text.toList.rtake (typedWord text).length,
          Text.isQuote c = false ∧ c ≠ '\\' := by
        intro c listed
        rcases kinds c listed with begun | blank
        · exact (plain c begun).2
        · exact Text.quiet_of_isBlankChar blank
      have halves : text.toList = text.toList.rdrop (typedWord text).length ++
          text.toList.rtake (typedWord text).length := (List.take_append_drop _ _).symm
      rw [halves, Text.splitPosition_append]
      generalize splitPosition (text.toList.rdrop (typedWord text).length) = position
        at sound starts
      generalize text.toList.rtake (typedWord text).length = back at some quiet
      rcases starts with between | ⟨-, bare | escaped⟩
      · exact sound.after_quiet (.inl between) quiet
      · exact sound.after_quiet (.inr bare) quiet
      · exact sound.after_quiet_of_escaped escaped some quiet

/-- An accepted completion becomes the last word exactly where a word could begin behind the words
that are already there. -/
theorem accept_splits_iff {text : String} {completion : Completion}
    (completes : completion.Completes (typedWord text)) :
    shellWords (completion.accept text) = .ok ((typedWords text).dropLast ++ [completion.text]) ↔
      (splitPosition (text.toList.rdrop (typedWord text).length)).StartsWord ∧
        (splitPosition (text.toList.rdrop (typedWord text).length)).words =
          (typedWords text).dropLast.map String.toList := by
  rw [Text.shellWords_eq_ok_iff, Completion.accept, String.toList_ofList, Text.splitPosition_append,
    completes.replaced, List.map_append, List.map_singleton]
  exact (Text.splitPosition_isSound _).finish_after_eq_iff completes.plain.1 completes.plain.2 _

/-- A text whose last word takes up no more characters than it has ends with that word as it is. -/
theorem endsLiterally_of_starts {text : String} {words : List String}
    (split : shellWords text = .ok words)
    (starts : (splitPosition (text.toList.rdrop (typedWord text).length)).StartsWord)
    (complete : (splitPosition (text.toList.rdrop (typedWord text).length)).words =
      (typedWords text).dropLast.map String.toList) :
    EndsLiterally text.toList (typedWord text).toList := by
  have finished := Text.shellWords_eq_ok_iff.mp split
  by_cases begun : typedWord text = ""
  · have here : text.toList.rdrop (typedWord text).length = text.toList := by
      rw [begun]
      exact List.rdrop_zero _
    rw [here] at starts
    refine ⟨text.toList, by simp [begun], .inl ((Text.endsInQuotes_nil_iff _).mpr ?_)⟩
    rcases starts with between | ⟨empty, bare | escaped⟩
    · exact .inl between
    · exact .inr ⟨bare, empty⟩
    · simp [SplitPosition.finish, escaped] at finished
  · have halves : text.toList = text.toList.rdrop (typedWord text).length ++
        text.toList.rtake (typedWord text).length := (List.take_append_drop _ _).symm
    have short : (text.toList.rtake (typedWord text).length).length ≤
        (typedWord text).toList.length := by
      simp only [List.rtake, List.length_drop, String.length_toList]
      omega
    rw [typedWords_eq split begun, List.map_append, ← complete, List.map_singleton] at finished
    have sound := Text.splitPosition_isSound (text.toList.rdrop (typedWord text).length)
    have placed := (Text.startsWord_iff _).mp starts
    generalize text.toList.rdrop (typedWord text).length = front at *
    generalize text.toList.rtake (typedWord text).length = back at *
    rw [halves, Text.splitPosition_append] at finished
    have empty : (splitPosition front).word = [] := starts.elim sound.clear And.left
    have outside := starts.imp id And.right
    have literal := sound.eq_append outside finished (by rw [empty]; simpa using short)
    rw [empty, List.nil_append] at literal
    refine ⟨front, literal ▸ halves, placed.imp id fun escaped => ⟨?_, escaped⟩⟩
    rw [ne_eq, String.toList_eq_nil_iff]
    exact begun

/-- Behind empty quotes, or between words, all words but the one to complete are there. -/
theorem words_of_endsInQuotes {text : String} (quoted : EndsInQuotes text.toList []) :
    (splitPosition text.toList).words = (typedWords text).dropLast.map String.toList := by
  have outside := (Text.endsInQuotes_nil_iff text.toList).mp quoted
  rcases List.eq_nil_or_concat' text.toList with empty | ⟨rest, last, final⟩
  · have untyped : typedWords text = [] := by
      unfold typedWords
      rw [empty]
      rfl
    rw [untyped, empty]
    rfl
  · rcases outside with between | ⟨bare, blank⟩
    · have split : shellWords text =
          .ok ((splitPosition text.toList).words.map String.ofList) := by
        rw [Text.shellWords_eq_ok_iff, SplitPosition.finish, between]
        simp
      rw [final] at between
      have separates := Text.isBlankChar_of_isWordBreak (Text.isWordBreak_of_between between)
      rw [typedWords_of_split final split, if_pos separates, List.dropLast_concat]
      simp
    · have split : shellWords text =
          .ok ((splitPosition text.toList).words.map String.ofList ++ [""]) := by
        rw [Text.shellWords_eq_ok_iff, SplitPosition.finish, bare, blank]
        simp
      rw [final] at bare blank
      have mark := Text.isQuote_of_empty bare blank
      have solid : ¬Text.isBlankChar last := by
        intro space
        simp [(Text.quiet_of_isBlankChar space).1] at mark
      rw [typedWords_of_split final split, if_neg solid, List.dropLast_concat]
      simp

/-- Where a text ends with its last word as it is, a word could begin in front of it, behind the
words that are already there. -/
theorem starts_of_endsLiterally {text : String}
    (plain : ∀ c ∈ (typedWord text).toList, IsPlain c)
    (literal : EndsLiterally text.toList (typedWord text).toList) :
    (splitPosition (text.toList.rdrop (typedWord text).length)).StartsWord ∧
      (splitPosition (text.toList.rdrop (typedWord text).length)).words =
        (typedWords text).dropLast.map String.toList := by
  obtain ⟨front, whole, ends⟩ := literal
  have here : text.toList.rdrop (typedWord text).length = front := by
    rw [whole, ← String.length_toList]
    exact List.rdrop_append_length
  have starts := (Text.startsWord_iff front).mpr (ends.imp id And.right)
  rw [here]
  refine ⟨starts, ?_⟩
  have sound := Text.splitPosition_isSound front
  by_cases begun : typedWord text = ""
  · have none : (typedWord text).toList = [] := by simp [begun]
    rw [none, List.append_nil] at whole
    have quoted := ends.resolve_right fun some => some.1 none
    rw [← whole] at quoted ⊢
    exact words_of_endsInQuotes quoted
  · have given : (typedWord text).toList ≠ [] := by rwa [ne_eq, String.toList_eq_nil_iff]
    have finished := (sound.finish_after_eq_iff given plain _).mpr ⟨starts, rfl⟩
    rw [← Text.splitPosition_append, ← whole] at finished
    have split : shellWords text =
        .ok ((splitPosition front).words.map String.ofList ++ [typedWord text]) := by
      rw [Text.shellWords_eq_ok_iff, finished]
      simp
    have same := (List.append_inj' (typedWords_eq split begun) rfl).1
    rw [← same]
    simp

/-- Accepting a completion gives the words of the text with the last one completed exactly if the
last word was typed as it is. -/
theorem accepted_completion_exact (session : Session) (text : String) (completion : Completion)
    (offered : completion ∈ session.completions text) :
    shellWords (completion.accept text) = .ok ((typedWords text).dropLast ++ [completion.text]) ↔
      EndsLiterally text.toList (typedWord text).toList := by
  have completes := completions_completes offered
  rw [accept_splits_iff completes]
  constructor
  · rintro ⟨starts, complete⟩
    obtain ⟨words, split⟩ := exists_shellWords completes.begun starts
    exact endsLiterally_of_starts split starts complete
  · exact starts_of_endsLiterally completes.begun

/-- A session that has read a dump with two methods. -/
def sampleSession : Session where
  dump? := some {
    methods := [{ token := 0x06000001, version := 1 }, { token := 0x06000002, version := 1 }] }

/-- Behind empty quotes, and in capitals, the beginning of a token can be completed. -/
theorem accepted_completion_capitals :
    let completion : Completion := { text := "0x06000002", replaced := 4 }
    completion ∈ sampleSession.completions "l ''\"\"0X06" ∧
      EndsLiterally "l ''\"\"0X06".toList (typedWord "l ''\"\"0X06").toList ∧
      shellWords (completion.accept "l ''\"\"0X06") = .ok ["l", "0x06000002"] := by
  have offered : { text := "0x06000002", replaced := 4 } ∈
      sampleSession.completions "l ''\"\"0X06" := by
    have all : sampleSession.completions "l ''\"\"0X06" =
        [{ text := "0x06000001", replaced := 4 }, { text := "0x06000002", replaced := 4 }] := by
      cbv
    simp [all]
  have typed : typedWords "l ''\"\"0X06" = ["l", "0X06"] := by cbv
  have last : typedWord "l ''\"\"0X06" = "0X06" := by simp [typedWord, typed]
  have literal : EndsLiterally "l ''\"\"0X06".toList (typedWord "l ''\"\"0X06").toList := by
    rw [last]
    refine ⟨"l ''\"\"".toList, by decide, .inl ⟨"l ".toList, ['\'', '"'], by decide, by decide, ?_⟩⟩
    simp [Text.isQuote]
  have accepted := (accepted_completion_exact sampleSession _ _ offered).mpr literal
  rw [typed] at accepted
  exact ⟨offered, literal, accepted⟩

/-- The quotes around the beginning of a name are not counted, so one of them stays behind. -/
theorem accepted_completion_quoted :
    let completion : Completion :=
      { text := "help", replaced := 2, description := Command.help.description }
    completion ∈ ({} : Session).completions "\"he\"" ∧
      typedWords "\"he\"" = ["he"] ∧
      shellWords (completion.accept "\"he\"") = .error .openQuote := by
  refine ⟨?_, by cbv, by cbv⟩
  have all : ({} : Session).completions "\"he\"" =
      [{ text := "help", replaced := 2, description := Command.help.description }] := by
    cbv
  simp [all]

end DebugLens
