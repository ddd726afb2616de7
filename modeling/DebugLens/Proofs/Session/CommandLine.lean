import DebugLens.Proofs.Text.Numeral
import DebugLens.Proofs.Text.TrimmedWords
import DebugLens.Session.Console
import Mathlib

/-!
# Command lines of the console

The console trims a line before it looks at its words, and of a line that cannot be split it shows
the last word. A single command line is run as it is, and all words behind the mark of a fault are
shown. So both do the same with a line unless trimming takes a letter from it, or its first word is
a mark that was typed and there is not exactly one word behind it.
-/
namespace DebugLens

/-- The first word is the mark of a fault, but what is behind it is not the wording of one. -/
def MimicsFault (line : String) : Prop :=
  ∃ mark words, CommandLine.ofText line = .faulty mark words ∧ words.length ≠ 1

/-- The look at a line depends on its words alone. -/
theorem CommandLine.ofText_congr {line other : String}
    (same : Text.shellWords line = Text.shellWords other) : ofText line = ofText other := by
  unfold ofText commandWords
  rw [same]

/-- A faulty line is told by its mark. -/
theorem CommandLine.isPrefixOf_of_faulty {line mark : String} {words : List String}
    (faulty : ofText line = .faulty mark words) : faultMark.isPrefixOf mark := by
  unfold ofText at faulty
  split at faulty
  · nomatch faulty
  · split at faulty
    · next marked =>
      obtain ⟨rfl, -⟩ := CommandLine.faulty.inj faulty
      exact marked
    · nomatch faulty

/-- The last word is all words exactly if there is one. -/
theorem getLast_eq_intercalate_iff {mark : String} (marked : mark ≠ "") (words : List String) :
    words.getLast?.getD mark = " ".intercalate words ↔ words.length = 1 := by
  rcases List.eq_nil_or_concat' words with rfl | ⟨front, last, rfl⟩
  · simpa using marked
  · rw [List.getLast?_concat, Option.getD_some]
    by_cases alone : front = []
    · simp [alone]
    · have joined : " ".intercalate (front ++ [last]) = " ".intercalate front ++ " " ++ last := by
        have one : [last] ≠ [] := List.cons_ne_nil last []
        have pieces := String.intercalate_append_of_ne_nil (s := " ") alone one
        rwa [String.intercalate_singleton] at pieces
      have longer : last ≠ " ".intercalate front ++ " " ++ last := by
        intro same
        have lengths := congrArg String.length same
        have space : " ".length = 1 := rfl
        simp only [String.length_append, space] at lengths
        omega
      simp [joined, longer, alone]

namespace Session

variable {session : Session}

/-- What is said about a fault can be read off the reply. -/
theorem faulty_inj {message other : String} :
    session.faulty message = session.faulty other ↔ message = other := by
  constructor
  · intro same
    have outputs : (session.faulty message).output = (session.faulty other).output := by rw [same]
    have shown : Text.ofString message = Text.ofString other := by
      simpa [faulty, Text.ofLines, Text.ofString] using outputs
    have characters := congrArg Text.characters shown
    rwa [Text.characters_ofString, Text.characters_ofString, String.toList_inj] at characters
  · exact congrArg session.faulty

/-- The console runs the trimmed line, but shows one word where all are to be shown. -/
theorem dispatch_eq_iff {files : Files} {line : String} (filled : Text.strip line ≠ "")
    (active : ¬"#".isPrefixOf (Text.strip line)) :
    session.dispatch files line = session.runLine files (Text.strip line) ↔
      ¬MimicsFault (Text.strip line) := by
  unfold dispatch runLine MimicsFault
  rw [if_neg (by simp [filled, active])]
  cases looked : CommandLine.ofText (Text.strip line) with
  | empty => simp
  | named name arguments => simp
  | faulty mark words =>
    have marked : mark ≠ "" := by
      have begins := CommandLine.isPrefixOf_of_faulty looked
      rintro rfl
      revert begins
      decide
    dsimp only
    rw [faulty_inj, getLast_eq_intercalate_iff marked]
    simp

/-- So it runs the line itself if trimming changes no words. -/
theorem dispatch_eq_runLine_iff {files : Files} {line : String} (filled : Text.strip line ≠ "")
    (active : ¬"#".isPrefixOf (Text.strip line))
    (same : Text.shellWords (Text.strip line) = Text.shellWords line) :
    session.dispatch files line = session.runLine files line ↔ ¬MimicsFault line := by
  have looked := CommandLine.ofText_congr same
  have trimmed : session.dispatch files line = session.runLine files (Text.strip line) ↔
      ¬MimicsFault (Text.strip line) := dispatch_eq_iff filled active
  unfold MimicsFault runLine at trimmed ⊢
  rw [looked] at trimmed
  exact trimmed

end Session

/-- A line of the console and a single command line: they have the same words exactly if no letter
is trimmed, the console runs the trimmed line unless it mimics a fault, and so the replies are equal
wherever no letter is trimmed and no fault is mimicked. -/
theorem command_line_exact (files : Files) (session : Session) (line : String)
    (filled : Text.strip line ≠ "") (active : ¬"#".isPrefixOf (Text.strip line)) :
    (Text.shellWords (Text.strip line) = Text.shellWords line ↔ Text.TrimsNoLetters line) ∧
      (session.dispatch files line = session.runLine files (Text.strip line) ↔
        ¬MimicsFault (Text.strip line)) ∧
      (Text.TrimsNoLetters line →
        (session.dispatch files line = session.runLine files line ↔ ¬MimicsFault line)) := by
  have words := Text.shellWords_strip_eq_iff filled
  refine ⟨words, Session.dispatch_eq_iff filled active, ?_⟩
  rw [← words]
  exact Session.dispatch_eq_runLine_iff filled active

/-- No files at all. -/
def noFiles : Files := fun path => ⟨path, .error .missing⟩

/-- White space that is no separator makes no difference to a line with an open quote. -/
theorem command_line_openQuote :
    Text.strip "\u00a0m '0x06\u00a0" ≠ "" ∧ ¬"#".isPrefixOf (Text.strip "\u00a0m '0x06\u00a0") ∧
      Text.TrimsNoLetters "\u00a0m '0x06\u00a0" ∧
      Session.dispatch noFiles {} "\u00a0m '0x06\u00a0" =
        Session.runLine noFiles {} "\u00a0m '0x06\u00a0" := by
  have trimmed : Text.strip "\u00a0m '0x06\u00a0" = "m '0x06" := by decide
  have filled : Text.strip "\u00a0m '0x06\u00a0" ≠ "" := by simp [trimmed]
  have other : "#".isPrefixOf "m '0x06" = false := by cbv
  have active : ¬"#".isPrefixOf (Text.strip "\u00a0m '0x06\u00a0") := by simp [trimmed, other]
  obtain ⟨words, -, alike⟩ := command_line_exact noFiles {} "\u00a0m '0x06\u00a0" filled active
  have same : Text.shellWords "m '0x06" = Text.shellWords "\u00a0m '0x06\u00a0" := by cbv
  have kept : Text.TrimsNoLetters "\u00a0m '0x06\u00a0" := words.mp (trimmed.symm ▸ same)
  have looked : CommandLine.ofText "\u00a0m '0x06\u00a0" =
      .faulty faultMark ["No closing quotation"] := by cbv
  refine ⟨filled, active, kept, (alike kept).mpr ?_⟩
  rintro ⟨mark, shown, faulty, several⟩
  rw [looked] at faulty
  obtain ⟨rfl, rfl⟩ := CommandLine.faulty.inj faulty
  exact several rfl

/-- A no-break space behind a name is trimmed by the console only. -/
theorem command_line_noBreakSpace :
    (Session.dispatch noFiles {} "help\u00a0").output =
        .ofLines (Command.all.map Command.helpLine) ∧
      (Session.runLine noFiles {} "help\u00a0").output =
        .ofLines ["Unknown command: " ++ "help\u00a0"] := by
  have trimmed : Text.strip "help\u00a0" = "help" := by decide
  have active : "#".isPrefixOf "help" = false := by cbv
  have named : CommandLine.ofText "help" = .named "help" [] := by cbv
  have whole : CommandLine.ofText "help\u00a0" = .named "help\u00a0" [] := by cbv
  have known : Command.ofName? "help" = some .help := by decide
  have unknown : Command.ofName? "help\u00a0" = none := by decide
  constructor
  · unfold Session.dispatch
    simp [trimmed, active, named, Session.runNamed, Session.resolve, known, Session.run]
  · unfold Session.runLine
    simp [whole, Session.runNamed, Session.resolve, unknown]

end DebugLens
