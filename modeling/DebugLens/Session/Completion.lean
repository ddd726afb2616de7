import DebugLens.Session.Console
import DebugLens.Text.LetterCase

/-!
# Completion

While a command line is being typed, its first word is completed to the names of commands, and
the second word of a method command to the tokens of the loaded dump. White space at the end
starts a new, empty word. A line with an open quote is split at white space alone.
-/
namespace DebugLens

/-- A text that can take the place of the characters before the cursor. -/
structure Completion where
  /-- The text. -/
  text : String
  /-- The number of characters that it replaces. -/
  replaced : Nat
  /-- What the text stands for. -/
  description : String := ""
deriving DecidableEq, Repr

/-- The words of a line that is being typed, the last one being the word to complete. -/
def typedWords (text : String) : List String :=
  match text.toList.getLast? with
  | none => []
  | some last =>
    match Text.shellWords text with
    | .ok words => if Text.isBlankChar last then words ++ [""] else words
    | .error _ =>
      let words := Text.words text
      if last = ' ' || last = '\t' then words ++ [""] else words

/-- The names whose second word is a method token. -/
def queryNames : List String := ["method", "m", "imports", "locals", "l"]

/-- The completions of the name of a command. -/
def nameCompletions (start : String) : List Completion :=
  Command.all.flatMap fun command =>
    (command.names.filter start.isPrefixOf).map fun name =>
      { text := name, replaced := start.length, description := command.description }

/-- The texts of the tokens of a dump in order, each one once. -/
def Dump.tokenTexts (dump : Dump) : List String :=
  (dump.sortedMethods.map fun method => Text.tokenText method.token).eraseDups

/-- The completions of a method token; letter case does not matter. -/
def Session.tokenCompletions (session : Session) (start : String) : List Completion :=
  match session.dump? with
  | none => []
  | some dump =>
    (dump.tokenTexts.filter fun text => (Text.lowered start).isPrefixOf (Text.lowered text)).map
      fun text => { text, replaced := start.length }

/-- The completions of the text before the cursor. The paths of files are not completed. -/
def Session.completions (session : Session) (text : String) : List Completion :=
  match typedWords text with
  | [] => nameCompletions ""
  | [start] => nameCompletions start
  | [name, start] =>
    if queryNames.contains (session.resolve name) then session.tokenCompletions start else []
  | _ => []

end DebugLens
