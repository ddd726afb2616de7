import DebugLens.Session.Program

/-!
# The executable

Everything that touches the outside: finding and reading files, reading lines and printing. A
line is looked at first for the path of a file that it asks for, so that the library gets the
file along with the line.
-/
namespace DebugLens

/-- The name of the executable. -/
def programName : String := "debuglens"

/-- The absolute form of a path, links followed if something is there. -/
def absolutePath (path : String) : IO String := do
  try
    return (← IO.FS.realPath path).toString
  catch _ =>
    if path.startsWith "/" then return path
    else return (← IO.currentDir).toString ++ "/" ++ path

/-- The file under a path. -/
def findFile (path : String) : IO StoredFile := do
  let some expanded := expandHome? (← IO.getEnv "HOME") path
    | return { path, content := .error .unknownHome }
  let absolute ← absolutePath expanded
  try
    return { path := absolute, content := .ok (← IO.FS.readFile absolute) }
  catch error =>
    let fault := match error with
      | .noFileOrDirectory _ _ _ => FileFault.missing
      | error => .unreadable error.toString
    return { path := absolute, content := .error fault }

/-- The name of an option. -/
def settingName (setting : Setting) : String :=
  let found? := programGrammar.switches.find? fun switch => switch.key = setting
  (found?.bind (·.names.getLast?)).getD ""

/-- Files among which only one is ever asked for. -/
def filesAt (path? : Option String) : IO Files := do
  match path? with
  | none => return fun path => { path, content := .error .missing }
  | some path =>
    let file ← findFile path
    return fun _ => file

/-- Run a console until its input ends or a command leaves it. -/
partial def converse (input output : IO.FS.Stream) (console : Console) : IO Unit := do
  let line ← input.getLine
  if line.isEmpty then output.putStr "\n"
  else
    let line := if line.endsWith "\n" then (line.dropEnd 1).copy else line
    let files ← filesAt (console.wantedPath? line)
    let (reply, console) := console.feed files line
    output.putStr reply.output.toString
    output.flush
    if reply.leaves then return
    converse input output console

/-- Run the program. -/
def runMain (arguments : List String) : IO UInt32 := do
  let output ← IO.getStdout
  let files ← filesAt (startPath? arguments)
  match launch files arguments with
  | .help =>
    for line in programGrammar.help programName programPurpose do
      output.putStrLn line
    return 0
  | .refused refusal =>
    for line in programGrammar.usage programName do
      IO.eprintln line
    IO.eprintln (programName ++ ": error: " ++ refusal.message)
    return refusalCode.toUInt32
  | .valueless setting =>
    IO.eprintln (programName ++ ": error: no value for " ++ settingName setting)
    return 1
  | .unloaded error =>
    IO.eprintln ("failed to load " ++ (startPath? arguments).getD "" ++ ": " ++ error.message)
    return 1
  | .command session line =>
    let files ← filesAt (session.wantedPath? line)
    let reply := session.runLine files line
    output.putStr reply.output.toString
    return reply.code.toUInt32
  | .console session =>
    converse (← IO.getStdin) output { session }
    return 0

end DebugLens

/-- The entry point. -/
def main (arguments : List String) : IO UInt32 := DebugLens.runMain arguments
