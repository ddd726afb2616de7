import DebugLens.Options.Parse
import DebugLens.Session.Report
import DebugLens.Text.IntegerLiteral
import DebugLens.Text.ShellWords

/-!
# Commands

A command has a name, further names, and a description. Three commands put the same kind of
query to the loaded dump, one loads a dump, one lists the commands and one leaves the session.
Running a command gives a reply: the printed text, an exit code and the session afterwards.
-/
namespace DebugLens

/-- The parts of a query that a method command reads. -/
inductive QueryPart where
  /-- The token of the method. -/
  | token
  /-- The offset. -/
  | offset
  /-- The version of the method. -/
  | version
  /-- The method is written in Visual Basic. -/
  | visualBasic
  /-- The method is written in C#. -/
  | csharp
deriving DecidableEq, Repr

/-- The options and operands of a method command. -/
def queryGrammar : Options.Grammar QueryPart where
  switches := [
    { key := .version, names := ["--version"], placeholder? := some "VERSION",
      help := "Method version (default 1)" },
    { key := .visualBasic, names := ["--vb"], help := "Decode as Visual Basic" },
    { key := .csharp, names := ["--cs"], help := "Decode as C#" }]
  operands := [
    { key := .token, name := "token", required := true },
    { key := .offset, name := "offset", required := false }]
  exclusive := [(.visualBasic, .csharp)]

/-- The operand of the load command. -/
def loadGrammar : Options.Grammar Unit where
  switches := []
  operands := [{ key := (), name := "path", required := false }]

/-- The path in the arguments of the load command; an empty one counts as none. -/
def loadPath? (arguments : List String) : Except Options.Refusal (Option String) :=
  let outcome := loadGrammar.parse arguments
  match outcome.refusal? with
  | some refusal => .error refusal
  | none => .ok ((outcome.taken.findSome? (·.value?)).filter (· ≠ ""))

/-- A query as it is typed. -/
structure TypedQuery where
  /-- The token of the method. -/
  token : Int := 0
  /-- The offset. -/
  offset : Int := 0
  /-- The version of the method, unless its option is there without a version. -/
  version? : Option Int := some 1
  /-- The language, if it is not that of the session. -/
  visualBasic? : Option Bool := none
deriving DecidableEq, Repr

namespace TypedQuery

/-- The query after one more option or operand; a number has to be an integer literal. -/
def withPart (query : TypedQuery) (taken : Options.Taken QueryPart) : Option TypedQuery :=
  match taken.key, taken.value? with
  | .visualBasic, _ => some { query with visualBasic? := some true }
  | .csharp, _ => some { query with visualBasic? := some false }
  | .version, none => some { query with version? := none }
  | _, none => some query
  | .token, some text => (Text.readInteger text).map fun token => { query with token }
  | .offset, some text => (Text.readInteger text).map fun offset => { query with offset }
  | .version, some text =>
    (Text.readInteger text).map fun version => { query with version? := some version }

/-- The query that the arguments of a method command stand for. -/
def ofArguments? (arguments : List String) : Option TypedQuery :=
  let outcome := queryGrammar.parse arguments
  if outcome.refusal?.isSome then none
  else outcome.taken.foldlM withPart {}

/-- The question that the query puts in a session. -/
def question (query : TypedQuery) (session : Session) : Except SessionError MethodQuery :=
  match query.version? with
  | none => .error .unversioned
  | some version =>
    .ok ⟨query.token, version, query.offset, query.visualBasic?.getD session.visualBasic⟩

end TypedQuery

/-- The line above the answer to a question, unless the version has too many digits. -/
def MethodQuery.header? (query : MethodQuery) : Option String :=
  (Text.decimalText? query.version).map fun version =>
    "method " ++ Text.tokenText query.token ++ " v" ++ version ++ " @ IL_" ++
      Text.hexUpper 4 query.offset

/-- What running a command leads to. -/
structure Reply where
  /-- The session afterwards. -/
  session : Session
  /-- The printed text. -/
  output : Text := ""
  /-- The exit code of the command. -/
  code : Nat := 0
  /-- The command leaves the session. -/
  leaves : Bool := false
deriving Repr

/-- A command. -/
inductive Command where
  /-- List the commands. -/
  | help
  /-- Load a dump. -/
  | load
  /-- Show what is known about a method. -/
  | method
  /-- Show the imports of a method. -/
  | imports
  /-- Show the locals and constants of a method. -/
  | locals
  /-- Leave the session. -/
  | exit
deriving DecidableEq, Repr

namespace Command

/-- All commands in the order in which they are listed. -/
def all : List Command := [.help, .load, .method, .imports, .locals, .exit]

/-- The name of a command. -/
def name : Command → String
  | help => "help"
  | load => "load"
  | method => "method"
  | imports => "imports"
  | locals => "locals"
  | exit => "exit"

/-- The further names of a command. -/
def otherNames : Command → List String
  | help => ["?"]
  | method => ["m"]
  | locals => ["l"]
  | exit => ["quit", "q"]
  | _ => []

/-- All names of a command, its own name first. -/
def names (command : Command) : List String := command.name :: command.otherNames

/-- What a command does. -/
def description : Command → String
  | help => "Show available commands"
  | load => "Load a PDB dump (JSON) or show the loaded one"
  | method => "Show decoded debug info for a method"
  | imports => "Show import groups and extern aliases of a method"
  | locals => "Show local and constant symbols of a method"
  | exit => "Exit the inspector"

/-- The command with a name. -/
def ofName? (name : String) : Option Command :=
  all.find? fun command => command.names.contains name

/-- The line about a command in the list of commands. -/
def helpLine (command : Command) : Text :=
  Report.padRight 12 command.name ++ " " ++ command.description

end Command

namespace Session

/-- A reply that only says that a command failed for a reason of its own making. -/
def failed (session : Session) (invoked message : String) : Reply where
  session
  output := .ofLines ["Command '" ++ invoked ++ "' failed: " ++ message]
  code := 1

/-- A reply that reports an error. -/
def refused (session : Session) (message : String) : Reply where
  session
  output := session.printError message
  code := 1

/-- A reply that prints a report. There is none if it would show an integer that has too many
digits. -/
def reported (session : Session) (invoked : String) : Option Report → Reply
  | some report => { session, output := session.print report }
  | none => session.failed invoked Text.longIntegerMessage

/-- Run the load command. Without a path it shows the path of the loaded dump. -/
def runLoad (files : Files) (session : Session) (invoked : String) (arguments : List String) :
    Reply :=
  match loadPath? arguments with
  | .error _ => { session, code := 1 }
  | .ok none => { session, output := session.print (.ofPath (session.workspace?.map (·.path))) }
  | .ok (some path) =>
    match session.load files path with
    | (.ok (dump, workspace), session) =>
      session.reported invoked (Report.ofDump? workspace.path dump)
    | (.error error, session) =>
      if error.isUserFault then session.refused ("failed to load PDB dump: " ++ error.message)
      else session.failed invoked error.message

/-- A reply to a query that is not answered. -/
def unanswered (session : Session) (invoked : String) : SessionError → Reply
  | .unloaded => session.refused SessionError.unloaded.message
  | error => session.failed invoked error.message

/-- Run a method command; `report` makes a report of the line above the answer and the answer.
Nothing is asked about the version before there is a dump to put the query to. -/
def runQuery (session : Session) (invoked : String) (arguments : List String)
    (report : Session → MethodQuery → String → MethodInfo → Report) : Reply :=
  match TypedQuery.ofArguments? arguments with
  | none => { session, code := 1 }
  | some typed =>
    match session.workspace.bind fun _ => typed.question session with
    | .error error => session.unanswered invoked error
    | .ok query =>
      match session.query query with
      | (.ok info, session) =>
        session.reported invoked (query.header?.map fun header => report session query header info)
      | (.error error, session) => session.unanswered invoked error

/-- Run a command, which was invoked under a name, with arguments. -/
def run (files : Files) (session : Session) (command : Command) (invoked : String)
    (arguments : List String) : Reply :=
  match command with
  | .help => { session, output := .ofLines (Command.all.map Command.helpLine) }
  | .load => session.runLoad files invoked arguments
  | .method =>
    session.runQuery invoked arguments fun _ _ header info => .ofInfo header info
  | .imports =>
    session.runQuery invoked arguments fun _ query header info =>
      .ofImports header query.visualBasic info
  | .locals =>
    session.runQuery invoked arguments fun session query header info =>
      .ofLocals header (session.localSymbols query.token query.version info) info
  | .exit => { session, leaves := true }

end Session

end DebugLens
