import DebugLens.Session.Command

/-!
# The console

A command line is split into words, the first of which names a command. A line that cannot be
split becomes two words, a mark and the wording of the fault, so it is told apart by its first
word. The console joins continued lines, skips blank lines and comments, and runs one command
line after another until a command leaves the session or the lines come to their end.
-/
namespace DebugLens

/-- The first word of a line that cannot be split. -/
def faultMark : String := "#parse-error"

/-- The words of a command line, or the mark and the wording of the fault. -/
def commandWords (line : String) : List String :=
  match Text.shellWords line with
  | .ok words => words
  | .error fault => [faultMark, fault.message]

/-- A command line looked at word by word. -/
inductive CommandLine where
  /-- There are no words. -/
  | empty
  /-- The first word is the mark of a fault. -/
  | faulty (mark : String) (words : List String)
  /-- The first word names a command. -/
  | named (name : String) (arguments : List String)
deriving DecidableEq, Repr

/-- Look at the words of a command line. -/
def CommandLine.ofText (line : String) : CommandLine :=
  match commandWords line with
  | [] => .empty
  | name :: arguments =>
    if faultMark.isPrefixOf name then .faulty name arguments else .named name arguments

namespace Session

/-- A reply to a line that cannot be split. -/
def faulty (session : Session) (message : String) : Reply where
  session
  output := .ofLines ["Parse error: " ++ message]
  code := 1

/-- Run the command with a name, which may be an alias. -/
def runNamed (files : Files) (session : Session) (name : String) (arguments : List String) :
    Reply :=
  let resolved := session.resolve name
  match Command.ofName? resolved with
  | some command => session.run files command resolved arguments
  | none => { session, output := .ofLines ["Unknown command: " ++ resolved], code := 1 }

/-- Run a single command line. All words after the mark of a fault are shown. -/
def runLine (files : Files) (session : Session) (line : String) : Reply :=
  match CommandLine.ofText line with
  | .empty => { session }
  | .faulty _ words => session.faulty (" ".intercalate words)
  | .named name arguments => session.runNamed files name arguments

/-- Run a line of the console. The last word of a faulty line is shown. -/
def dispatch (files : Files) (session : Session) (line : String) : Reply :=
  let stripped := Text.strip line
  if stripped = "" || "#".isPrefixOf stripped then { session }
  else
    match CommandLine.ofText stripped with
    | .empty => { session }
    | .faulty mark words => session.faulty (words.getLast?.getD mark)
    | .named name arguments => session.runNamed files name arguments

/-- The path of the file that a command line asks to load. -/
def wantedPath? (session : Session) (line : String) : Option String :=
  match CommandLine.ofText (Text.strip line) with
  | .named name arguments =>
    if Command.ofName? (session.resolve name) = some .load then
      (loadPath? arguments).toOption.join
    else none
  | _ => none

end Session

/-- A line without its final backslash and the white space after it, if it has one. -/
def continued? (line : String) : Option String :=
  match (Text.dropEndWhile Text.isBlankChar line.toList).reverse with
  | '\\' :: characters => some (String.ofList characters.reverse)
  | _ => none

/-- What a line completes, given the pieces that wait for it, and the pieces that wait then. -/
def joinLine (pieces : List String) (line : String) : Option String × List String :=
  match continued? line with
  | some piece => (none, pieces ++ [piece])
  | none =>
    if pieces.isEmpty then (some line, [])
    else (some (" ".intercalate (pieces ++ [Text.stripEnd line])), [])

/-- A session with the pieces of a command line that wait for more. -/
structure Console where
  /-- The session. -/
  session : Session
  /-- The pieces. -/
  pieces : List String := []
deriving Repr

/-- How a console came to its end. -/
inductive Ending where
  /-- The lines came to their end. -/
  | exhausted
  /-- A command left the session. -/
  | left
deriving DecidableEq, Repr

/-- What a console printed: one text per line that was asked for. -/
structure Transcript where
  /-- The texts. -/
  outputs : List Text
  /-- How it ended. -/
  ending : Ending
deriving DecidableEq, Repr

namespace Console

/-- Feed a line to a console. -/
def feed (files : Files) (console : Console) (line : String) : Reply × Console :=
  match joinLine console.pieces line with
  | (none, pieces) => ({ session := console.session }, { console with pieces })
  | (some payload, pieces) =>
    let reply := console.session.dispatch files payload
    (reply, { session := reply.session, pieces })

/-- The path of the file that a line makes the console load. -/
def wantedPath? (console : Console) (line : String) : Option String :=
  (joinLine console.pieces line).1.bind console.session.wantedPath?

/-- Feed lines to a console. At the end of the lines an empty line is printed. -/
def transcript (files : Files) : Console → List String → Transcript
  | _, [] => ⟨["\n"], .exhausted⟩
  | console, line :: lines =>
    let (reply, console) := console.feed files line
    if reply.leaves then ⟨[reply.output], .left⟩
    else
      let rest := transcript files console lines
      ⟨reply.output :: rest.outputs, rest.ending⟩

end Console

end DebugLens
