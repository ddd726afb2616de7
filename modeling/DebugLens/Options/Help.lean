import DebugLens.Options.Basic

/-!
# Help on options

Help shows how a program is called, what it is for, and its options in two columns. Lines are
filled with words up to a fixed width; an entry that does not fit into the first column stands on
a line of its own.
-/
namespace DebugLens.Options

/-- The greatest number of characters of a line. -/
def lineWidth : Nat := 78

/-- The place where the second column starts. -/
def helpColumn : Nat := 24

/-- So many spaces. -/
def spaces (count : Nat) : String := String.ofList (List.replicate count ' ')

/-- Words in lines up to a width. The current line holds `line` and its next word starts at
`column`; further lines start at `indent`. -/
def fill (width indent : Nat) : Nat → List String → List String → List String
  | _, line, [] => [" ".intercalate line]
  | column, line, word :: words =>
    if column + word.length > width && !line.isEmpty then
      " ".intercalate line :: fill width indent (indent + word.length + 1) [word] words
    else fill width indent (column + word.length + 1) (line ++ [word]) words

/-- A line as it is, and the others indented. -/
def hang (indent : Nat) : List String → List String
  | [] => []
  | line :: lines => line :: lines.map (spaces indent ++ ·)

variable {κ : Type}

/-- A name with the placeholder of the value. -/
def Switch.invocation (switch : Switch κ) (name : String) : String :=
  match switch.placeholder? with
  | none => name
  | some placeholder => name ++ " " ++ placeholder

/-- How a program is called. -/
def Grammar.usage (grammar : Grammar κ) (program : String) : List String :=
  let start := "usage: "
  let indent := start.length + program.length + 1
  let parts := grammar.switches.map fun switch =>
    "[" ++ switch.invocation (switch.names.headD "") ++ "]"
  match hang indent (fill lineWidth indent start.length [] (program :: parts)) with
  | [] => []
  | line :: lines => (start ++ line) :: lines

/-- The entry of an option. -/
def Switch.helpLines (switch : Switch κ) : List String :=
  let entry := ", ".intercalate (switch.names.map switch.invocation)
  let text := fill (lineWidth - helpColumn) 0 0 [] (switch.help.splitOn " ")
  if entry.length + 4 ≤ helpColumn then
    hang helpColumn (text.mapIdx fun index line =>
      if index = 0 then "  " ++ entry ++ spaces (helpColumn - 2 - entry.length) ++ line else line)
  else ("  " ++ entry) :: text.map (spaces helpColumn ++ ·)

/-- The help on a program. -/
def Grammar.help (grammar : Grammar κ) (program purpose : String) : List String :=
  grammar.usage program ++ ["", purpose, "", "options:"] ++
    grammar.switches.flatMap Switch.helpLines

end DebugLens.Options
