import DebugLens.Options.Help
import DebugLens.Session.Console

/-!
# The program

The command line of the program says which dump to load first, how to decode and print by
default, and whether to run a single command; without one, the program is a console. A dump that
cannot be loaded at the start ends the program, and so does a setting without the value that the
program needs at this point; a command without a value is none.
-/
namespace DebugLens

/-- The options of the program. -/
inductive Setting where
  /-- Show help and stop. -/
  | help
  /-- The dump to load. -/
  | dump
  /-- Methods are written in Visual Basic. -/
  | visualBasic
  /-- Output is JSON. -/
  | json
  /-- How much is logged. -/
  | logLevel
  /-- The command to run. -/
  | command
  /-- The file that keeps the lines of the console. -/
  | history
deriving DecidableEq, Repr

/-- The options of the program with their names. -/
def programGrammar : Options.Grammar Setting where
  switches := [
    { key := .help, names := ["-h", "--help"], help := "show this help message and exit" },
    { key := .dump, names := ["--pdb"], placeholder? := some "PDB",
      help := "PDB dump (JSON) to load at startup" },
    { key := .visualBasic, names := ["--vb"], help := "Decode methods as Visual Basic by default" },
    { key := .json, names := ["--json"], help := "Emit JSON output when supported" },
    { key := .logLevel, names := ["--log-level"], placeholder? := some "LOG_LEVEL",
      help := "Logging level (default INFO)" },
    { key := .command, names := ["-c", "--command"], placeholder? := some "COMMAND",
      help := "Execute a single command non-interactively (quote the command string)" },
    { key := .history, names := ["--history"], placeholder? := some "HISTORY",
      help := "Path to command history file" }]

/-- What the program is for. -/
def programPurpose : String := "Inspect method debug info in native PDB dumps"

/-- An option was met. -/
def isSet (taken : List (Options.Taken Setting)) (setting : Setting) : Bool :=
  taken.any fun entry => entry.key = setting

/-- The values of an option, the last one first. -/
def valuesOf (taken : List (Options.Taken Setting)) (setting : Setting) : List (Option String) :=
  ((taken.filter fun entry => entry.key = setting).map (·.value?)).reverse

/-- The last value of an option. -/
def valueOf? (taken : List (Options.Taken Setting)) (setting : Setting) : Option String :=
  (valuesOf taken setting).head?.join

/-- An option was met without a value when it was met last. -/
def lacksValue (taken : List (Options.Taken Setting)) (setting : Setting) : Bool :=
  (valuesOf taken setting).head? = some none

/-- What the program does after it has looked at its command line. -/
inductive Launch where
  /-- It shows help. -/
  | help
  /-- It refuses the command line. -/
  | refused (refusal : Options.Refusal)
  /-- It needs the value of an option that has none. -/
  | valueless (setting : Setting)
  /-- It could not load the first dump. -/
  | unloaded (error : LoadError)
  /-- It runs a single command. -/
  | command (session : Session) (line : String)
  /-- It is a console. -/
  | console (session : Session)
deriving Repr

/-- The path of the dump that a command line asks to load first. -/
def startPath? (arguments : List String) : Option String :=
  valueOf? (programGrammar.parse arguments).taken .dump

/-- The session that a command line asks for, before any dump is loaded. -/
def startSession (taken : List (Options.Taken Setting)) : Session :=
  { json := isSet taken .json, visualBasic := isSet taken .visualBasic }

/-- The session that a command line asks for, its dump being loaded. -/
def startLoaded (files : Files) (taken : List (Options.Taken Setting)) :
    Except LoadError Session :=
  match valueOf? taken .dump with
  | none => .ok (startSession taken)
  | some path =>
    match (startSession taken).load files path with
    | (.ok _, session) => .ok session
    | (.error error, _) => .error error

/-- What the program does with options that are in order. An empty command counts as none, and
only a console needs the file that keeps its lines. -/
def launchTaken (files : Files) (taken : List (Options.Taken Setting)) : Launch :=
  if lacksValue taken .logLevel then .valueless .logLevel
  else if lacksValue taken .dump then .valueless .dump
  else
    match startLoaded files taken, (valueOf? taken .command).filter (· ≠ "") with
    | .error error, _ => .unloaded error
    | .ok session, some line => .command session line
    | .ok session, none =>
      if lacksValue taken .history then .valueless .history else .console session

/-- Look at the command line of the program. -/
def launch (files : Files) (arguments : List String) : Launch :=
  let outcome := programGrammar.parse arguments
  if isSet outcome.taken .help then .help
  else
    match outcome.refusal? with
    | some refusal => .refused refusal
    | none => launchTaken files outcome.taken

/-- How the program ends. -/
inductive Status where
  /-- It ends with an exit code. -/
  | finished (code : Nat)
  /-- It stops at its command line, with an exit code. -/
  | stopped (code : Nat)
  /-- It gives up on an option without a value. -/
  | valueless (setting : Setting)
  /-- It gives up on a dump that it cannot load through no fault of the user. -/
  | failed (error : LoadError)
deriving Repr

/-- A run of the program: what it printed up to the first line that it asked for, then one text
per line, and how it ended. -/
structure Run where
  /-- The texts. -/
  outputs : List Text
  /-- How it ended. -/
  status : Status
deriving Repr

/-- The exit code of a command line that is refused. -/
def refusalCode : Nat := 2

/-- Run the program on lines typed at the console. -/
def runProgram (files : Files) (program : String) (arguments lines : List String) : Run :=
  match launch files arguments with
  | .help =>
    let lines := programGrammar.help program programPurpose
    ⟨[.ofLines (lines.map Text.ofString)], .stopped 0⟩
  | .refused _ => ⟨[""], .stopped refusalCode⟩
  | .valueless setting => ⟨[""], .valueless setting⟩
  | .unloaded error => ⟨[""], if error.isUserFault then .finished 1 else .failed error⟩
  | .command session line =>
    let reply := session.runLine files line
    ⟨[reply.output], .finished reply.code⟩
  | .console session =>
    ⟨"" :: (Console.transcript files { session } lines).outputs, .finished 0⟩

end DebugLens
