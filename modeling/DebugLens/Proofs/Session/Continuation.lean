import DebugLens.Proofs.Session.Loading
import DebugLens.Session.Console
import Mathlib

/-!
# Command lines over several lines

A line with a backslash at its end is continued by the next one. Any lines are, in exactly one way,
command lines, each of which is a run of continued lines and the line that ends it, and behind them
continued lines that wait for more. A console that is fed with the lines runs the command lines one
after another, and what waits in the end comes from the lines that nothing ended.
-/
namespace DebugLens

/-! ## Continued lines -/

/-- The line ends in a backslash, but for white space. -/
def IsContinued (line : String) : Prop := (Text.stripEnd line).toList.getLast? = some '\\'

instance : DecidablePred IsContinued := fun _ => inferInstanceAs (Decidable (_ = _))

/-- A line without white space at its end and without the character before it. -/
def continuedPart (line : String) : String := String.ofList (Text.stripEnd line).toList.dropLast

/-- A line is continued exactly if it ends in a backslash, which does not belong to it. -/
theorem continued?_eq (line : String) :
    continued? line = if IsContinued line then some (continuedPart line) else none := by
  have characters : Text.dropEndWhile Text.isBlankChar line.toList = (Text.stripEnd line).toList :=
    String.toList_ofList.symm
  unfold continued?
  rw [characters]
  by_cases continued : IsContinued line
  · obtain ⟨front, filled⟩ := List.getLast?_eq_some_iff.mp continued
    simp [if_pos continued, continuedPart, filled]
  · rw [if_neg continued]
    split
    · next reversed =>
      refine absurd ?_ continued
      rw [IsContinued, List.getLast?_eq_head?_reverse, reversed, List.head?_cons]
    · rfl

/-- A continued line is kept for later. -/
theorem joinLine_of_continued {line : String} (continued : IsContinued line)
    (pieces : List String) : joinLine pieces line = (none, pieces ++ [continuedPart line]) := by
  rw [joinLine, continued?_eq, if_pos continued]

/-! ## Lines as they are typed -/

/-- A command line as it is typed: lines that are continued, and the line that ends it. -/
structure TypedCommand where
  /-- The lines that are continued. -/
  front : List String
  /-- The line that ends the command line. -/
  last : String
  /-- All lines but the last one are continued. -/
  continued : ∀ line ∈ front, IsContinued line
  /-- The last one is not. -/
  ends : ¬IsContinued last

namespace TypedCommand

/-- The lines. -/
def lines (command : TypedCommand) : List String := command.front ++ [command.last]

/-- The command line that is meant: a single line as it is, or the parts of the continued lines and
the trimmed last line with a space between any two. -/
def payload (command : TypedCommand) : String :=
  if command.front = [] then command.last
  else " ".intercalate (command.front.map continuedPart ++ [Text.stripEnd command.last])

/-- The last line completes the command line, and nothing is left. -/
theorem joinLine_last (command : TypedCommand) :
    joinLine (command.front.map continuedPart) command.last = (some command.payload, []) := by
  rw [joinLine, continued?_eq, if_neg command.ends, payload]
  cases command.front <;> rfl

end TypedCommand

/-- Lines as they are typed: command lines, and continued lines that nothing has ended. -/
structure TypedLines where
  /-- The command lines. -/
  commands : List TypedCommand
  /-- The lines that wait for more. -/
  pending : List String
  /-- They are all continued. -/
  waiting : ∀ line ∈ pending, IsContinued line

/-- The lines in order. -/
def TypedLines.lines (typed : TypedLines) : List String :=
  typed.commands.flatMap TypedCommand.lines ++ typed.pending

/-- A command line ends with the first line that is not continued. -/
theorem TypedCommand.eq_of_lines_append {command other : TypedCommand} {rest more : List String}
    (same : command.lines ++ rest = other.lines ++ more) : command = other ∧ rest = more := by
  obtain ⟨front, last, continued, ends⟩ := command
  obtain ⟨otherFront, otherLast, otherContinued, otherEnds⟩ := other
  simp only [lines, List.append_assoc, List.singleton_append] at same
  have fronts := congrArg (List.takeWhile fun line => IsContinued line) same
  rw [List.takeWhile_append_of_pos (by simpa using continued),
    List.takeWhile_append_of_pos (by simpa using otherContinued),
    List.takeWhile_cons_of_neg (by simpa using ends),
    List.takeWhile_cons_of_neg (by simpa using otherEnds), List.append_nil, List.append_nil]
    at fronts
  subst fronts
  obtain ⟨rfl, rfl⟩ := List.cons.inj (List.append_cancel_left same)
  exact ⟨rfl, rfl⟩

/-- Lines that are all continued start with no command line. -/
theorem TypedCommand.lines_append_ne {pending : List String}
    (waiting : ∀ line ∈ pending, IsContinued line) (command : TypedCommand) (rest : List String) :
    command.lines ++ rest ≠ pending := by
  rintro rfl
  exact command.ends (waiting command.last (by simp [lines]))

/-- The same lines are the same command lines. -/
theorem TypedLines.lines_injective : Function.Injective TypedLines.lines := by
  rintro ⟨commands, pending, waiting⟩ ⟨others, otherPending, otherWaiting⟩ same
  simp only [lines] at same
  suffices commands = others ∧ pending = otherPending by
    obtain ⟨rfl, rfl⟩ := this
    rfl
  induction commands generalizing others with
  | nil =>
    cases others with
    | nil => exact ⟨rfl, same⟩
    | cons other others =>
      rw [List.flatMap_cons, List.append_assoc] at same
      exact absurd same.symm (TypedCommand.lines_append_ne waiting other _)
  | cons command commands hypothesis =>
    rw [List.flatMap_cons, List.append_assoc] at same
    cases others with
    | nil => exact absurd same (TypedCommand.lines_append_ne otherWaiting command _)
    | cons other others =>
      rw [List.flatMap_cons, List.append_assoc] at same
      obtain ⟨rfl, rest⟩ := TypedCommand.eq_of_lines_append same
      obtain ⟨rfl, rfl⟩ := hypothesis others rest
      exact ⟨rfl, rfl⟩

/-- Any lines are command lines and lines that wait for more. -/
theorem TypedLines.lines_surjective : Function.Surjective TypedLines.lines := by
  intro lines
  induction lines with
  | nil => exact ⟨⟨[], [], by simp⟩, rfl⟩
  | cons line lines hypothesis =>
    obtain ⟨⟨commands, pending, waiting⟩, rfl⟩ := hypothesis
    by_cases continued : IsContinued line
    · cases commands with
      | nil =>
        exact ⟨⟨[], line :: pending, List.forall_mem_cons.mpr ⟨continued, waiting⟩⟩, rfl⟩
      | cons command commands =>
        let longer : TypedCommand :=
          { command with
            front := line :: command.front
            continued := List.forall_mem_cons.mpr ⟨continued, command.continued⟩ }
        exact ⟨⟨longer :: commands, pending, waiting⟩, rfl⟩
    · exact ⟨⟨⟨[], line, by simp, continued⟩ :: commands, pending, waiting⟩, rfl⟩

/-! ## Replies that leave the session -/

/-- The command line runs the command that leaves the session. -/
def Session.Leaves (session : Session) (line : String) : Prop :=
  ¬"#".isPrefixOf (Text.strip line) ∧
    ∃ name arguments, CommandLine.ofText (Text.strip line) = .named name arguments ∧
      Command.ofName? (session.resolve name) = some .exit

/-- The reply stays in the session, and the session keeps its further names for commands. -/
structure Reply.Stays (session : Session) (reply : Reply) : Prop where
  /-- The session goes on. -/
  stays : reply.leaves = false
  /-- The names are the same. -/
  aliases : reply.session.aliases = session.aliases

namespace Session

variable {session other : Session}

/-- Whether a line leaves a session depends on its aliases only. -/
theorem leaves_congr (same : session.aliases = other.aliases) (line : String) :
    session.Leaves line ↔ other.Leaves line := by
  unfold Leaves resolve
  rw [same]

/-- Loading a dump keeps the aliases. -/
theorem load_aliases (session : Session) (files : Files) (path : String) :
    (session.load files path).2.aliases = session.aliases := by
  have step := session.load_cases files path
  generalize (session.load files path).1 = answer, (session.load files path).2 = next at step ⊢
  cases step <;> rfl

/-- Answering a query keeps the aliases. -/
theorem query_aliases (session : Session) (query : MethodQuery) :
    (session.query query).2.aliases = session.aliases := by
  obtain same | ⟨_, _, _, changed⟩ := session.query_cases query
  · rw [same]
  · rw [changed]

/-- Printing a report stays in the session, whether or not there is one to print. -/
theorem stays_reported (session : Session) (invoked : String) (report? : Option Report) :
    (session.reported invoked report?).Stays session := by
  cases report? <;> exact ⟨rfl, rfl⟩

/-- So does loading a dump, whether or not it can be loaded. -/
theorem stays_runLoad (session : Session) (files : Files) (invoked : String)
    (arguments : List String) : (session.runLoad files invoked arguments).Stays session := by
  unfold runLoad
  split
  · exact ⟨rfl, rfl⟩
  · exact ⟨rfl, rfl⟩
  · next path _ =>
    have kept := session.load_aliases files path
    split
    · next dump workspace after loaded =>
      rw [loaded] at kept
      have reported := after.stays_reported invoked (Report.ofDump? workspace.path dump)
      exact ⟨reported.stays, reported.aliases.trans kept⟩
    · next failed =>
      rw [failed] at kept
      split <;> exact ⟨rfl, kept⟩

/-- A query that is not answered does not leave the session. -/
theorem stays_unanswered (session : Session) (invoked : String) (error : SessionError) :
    (session.unanswered invoked error).Stays session := by
  cases error <;> exact ⟨rfl, rfl⟩

/-- A command that puts a query does not leave the session. -/
theorem stays_runQuery (session : Session) (invoked : String) (arguments : List String)
    (report : Session → MethodQuery → String → MethodInfo → Report) :
    (session.runQuery invoked arguments report).Stays session := by
  unfold runQuery
  split
  · exact ⟨rfl, rfl⟩
  · split
    · exact session.stays_unanswered invoked _
    · next query _ =>
      have kept := session.query_aliases query
      split
      · next info after answered =>
        rw [answered] at kept
        have reported := after.stays_reported invoked
          (query.header?.map fun header => report after query header info)
        exact ⟨reported.stays, reported.aliases.trans kept⟩
      · next error after failed =>
        rw [failed] at kept
        have unanswered := after.stays_unanswered invoked error
        exact ⟨unanswered.stays, unanswered.aliases.trans kept⟩

/-- Only one command leaves the session. -/
theorem stays_run {command : Command} (other : command ≠ .exit) (session : Session) (files : Files)
    (invoked : String) (arguments : List String) :
    (session.run files command invoked arguments).Stays session := by
  cases command with
  | help => exact ⟨rfl, rfl⟩
  | load => exact session.stays_runLoad files invoked arguments
  | method => exact session.stays_runQuery invoked arguments _
  | imports => exact session.stays_runQuery invoked arguments _
  | locals => exact session.stays_runQuery invoked arguments _
  | exit => contradiction

/-- A command line that does not run that command stays in the session. -/
theorem stays_dispatch {line : String} (stays : ¬session.Leaves line) (files : Files) :
    (session.dispatch files line).Stays session := by
  unfold dispatch
  dsimp only
  split
  · exact ⟨rfl, rfl⟩
  · next active =>
    have command : ¬"#".isPrefixOf (Text.strip line) := fun comment => active (by simp [comment])
    split
    · exact ⟨rfl, rfl⟩
    · exact ⟨rfl, rfl⟩
    · next name arguments named =>
      unfold runNamed
      dsimp only
      split
      · next found =>
        refine session.stays_run ?_ files _ arguments
        rintro rfl
        exact stays ⟨command, name, arguments, named, found⟩
      · exact ⟨rfl, rfl⟩

/-- One that runs it does leave. -/
theorem leaves_dispatch {line : String} (leaves : session.Leaves line) (files : Files) :
    (session.dispatch files line).leaves = true := by
  obtain ⟨command, name, arguments, named, found⟩ := leaves
  have filled : Text.strip line ≠ "" := by
    intro blank
    have empty : CommandLine.ofText "" = .empty := by cbv
    rw [blank, empty] at named
    nomatch named
  unfold dispatch
  simp only [filled, command, named, decide_false, Bool.or_self, runNamed, found]
  rfl

end Session

/-! ## The run of a console -/

namespace Console

/-- The command lines that a console runs while lines are fed to it. After one that leaves the
session nothing is run. -/
def commandsRun (files : Files) : Console → List String → List String
  | _, [] => []
  | console, line :: lines =>
    let (reply, next) := console.feed files line
    (joinLine console.pieces line).1.toList ++
      if reply.leaves then [] else commandsRun files next lines

/-- The console after lines. -/
def afterLines (files : Files) (console : Console) (lines : List String) : Console :=
  lines.foldl (fun console line => (console.feed files line).2) console

end Console

/-- A transcript with further texts in front. -/
def Transcript.behind (transcript : Transcript) (outputs : List Text) : Transcript :=
  { transcript with outputs := outputs ++ transcript.outputs }

namespace Console

variable {files : Files}

/-- What a console does with lines that leave it in the session: it runs command lines, prints texts
and becomes another console, whatever lines come next. -/
structure Passes (files : Files) (console : Console) (lines payloads : List String)
    (outputs : List Text) (next : Console) : Prop where
  /-- The command lines. -/
  ran : ∀ more,
    console.commandsRun files (lines ++ more) = payloads ++ next.commandsRun files more
  /-- The texts. -/
  printed : ∀ more,
    console.transcript files (lines ++ more) = (next.transcript files more).behind outputs
  /-- The console afterwards. -/
  after : console.afterLines files lines = next

/-- Without lines nothing happens. -/
theorem passes_nil (console : Console) : Passes files console [] [] [] console :=
  ⟨fun _ => rfl, fun _ => rfl, rfl⟩

/-- Lines one after another. -/
theorem Passes.append {console next last : Console}
    {lines others payloads morePayloads : List String} {outputs moreOutputs : List Text}
    (first : Passes files console lines payloads outputs next)
    (second : Passes files next others morePayloads moreOutputs last) :
    Passes files console (lines ++ others) (payloads ++ morePayloads) (outputs ++ moreOutputs)
      last where
  ran more := by rw [List.append_assoc, first.ran, second.ran, List.append_assoc]
  printed more := by
    rw [List.append_assoc, first.printed, second.printed]
    simp [Transcript.behind]
  after := by
    rw [← second.after, ← first.after]
    exact List.foldl_append

variable (files)

/-- A continued line is kept. -/
theorem passes_continued {line : String} (continued : IsContinued line) (console : Console) :
    Passes files console [line] [] [""]
      { console with pieces := console.pieces ++ [continuedPart line] } := by
  have joined := joinLine_of_continued continued console.pieces
  have fed : console.feed files line = ({ session := console.session },
      { console with pieces := console.pieces ++ [continuedPart line] }) := by
    rw [feed, joined]
  refine ⟨fun more => ?_, fun more => ?_, ?_⟩
  · rw [List.singleton_append, commandsRun, fed, joined]
    rfl
  · rw [List.singleton_append, transcript, fed]
    rfl
  · rw [afterLines, List.foldl_cons, fed]
    rfl

/-- What is printed behind lines that are only kept. -/
def silence (lines : List String) : List Text := lines.map fun _ => ""

/-- Continued lines are kept in order. -/
theorem passes_front {front : List String} (continued : ∀ line ∈ front, IsContinued line)
    (console : Console) :
    Passes files console front [] (silence front)
      { console with pieces := console.pieces ++ front.map continuedPart } := by
  induction front generalizing console with
  | nil =>
    have kept : console.pieces ++ ([] : List String).map continuedPart = console.pieces := by simp
    rw [kept]
    exact passes_nil console
  | cons line front hypothesis =>
    obtain ⟨first, others⟩ := List.forall_mem_cons.mp continued
    have passed := (passes_continued files first console).append (hypothesis others _)
    rw [List.append_assoc] at passed
    exact passed

/-- The last line of a command line has the command line run, and nothing is kept. -/
theorem feed_last (session : Session) (command : TypedCommand) :
    feed files { session, pieces := command.front.map continuedPart } command.last =
      (session.dispatch files command.payload,
        { session := (session.dispatch files command.payload).session }) := by
  rw [feed, command.joinLine_last]

/-- A command line is run in the session that its first line found. -/
theorem passes_command {session : Session} {command : TypedCommand}
    (stays : ¬session.Leaves command.payload) :
    Passes files { session } command.lines [command.payload]
      (silence command.front ++ [(session.dispatch files command.payload).output])
      { session := (session.dispatch files command.payload).session } := by
  have last : Passes files { session, pieces := command.front.map continuedPart } [command.last]
      [command.payload] [(session.dispatch files command.payload).output]
      { session := (session.dispatch files command.payload).session } := by
    have fed := feed_last files session command
    have goesOn := (Session.stays_dispatch stays files).stays
    refine ⟨fun more => ?_, fun more => ?_, ?_⟩
    · rw [List.singleton_append, commandsRun, fed, command.joinLine_last]
      simp only [goesOn, Bool.false_eq_true, if_false]
      rfl
    · rw [List.singleton_append, transcript, fed]
      simp only [goesOn, Bool.false_eq_true, if_false]
      rfl
    · rw [afterLines, List.foldl_cons, fed]
      rfl
  exact (passes_front files command.continued { session }).append last

/-- What is printed while command lines are typed and run: nothing behind a continued line. -/
def printedAlong (files : Files) : Session → List TypedCommand → List Text
  | _, [] => []
  | session, command :: commands =>
    let reply := session.dispatch files command.payload
    silence command.front ++ reply.output :: printedAlong files reply.session commands

/-- The session after command lines that are run one after another. -/
def sessionAfter (files : Files) (session : Session) (commands : List TypedCommand) : Session :=
  commands.foldl (fun session command => (session.dispatch files command.payload).session) session

/-- The session after the first command is that before the others. -/
theorem sessionAfter_cons (session : Session) (command : TypedCommand)
    (commands : List TypedCommand) :
    sessionAfter files session (command :: commands) =
      sessionAfter files (session.dispatch files command.payload).session commands := by
  rw [sessionAfter, List.foldl_cons, ← sessionAfter]

/-- Commands that do not leave a session keep its aliases. -/
theorem sessionAfter_aliases {session : Session} {commands : List TypedCommand}
    (stays : ∀ command ∈ commands, ¬session.Leaves command.payload) :
    (sessionAfter files session commands).aliases = session.aliases := by
  induction commands generalizing session with
  | nil => rfl
  | cons command commands hypothesis =>
    obtain ⟨first, others⟩ := List.forall_mem_cons.mp stays
    have kept := (Session.stays_dispatch first files).aliases
    have later := hypothesis fun other listed leaves =>
      others other listed ((Session.leaves_congr kept _).mp leaves)
    rw [sessionAfter_cons, later, kept]

/-- Commands that do not leave a session pass through the console, each as one line. -/
theorem passes_commands {session : Session} {commands : List TypedCommand}
    (stays : ∀ command ∈ commands, ¬session.Leaves command.payload) :
    Passes files { session } (commands.flatMap TypedCommand.lines)
      (commands.map TypedCommand.payload) (printedAlong files session commands)
      { session := sessionAfter files session commands } := by
  induction commands generalizing session with
  | nil => exact passes_nil { session }
  | cons command commands hypothesis =>
    obtain ⟨first, others⟩ := List.forall_mem_cons.mp stays
    have kept := (Session.stays_dispatch first files).aliases
    have passed := (passes_command files first).append <| hypothesis
      fun other listed leaves => others other listed ((Session.leaves_congr kept _).mp leaves)
    rw [List.append_assoc, List.singleton_append, List.singleton_append] at passed
    rw [List.flatMap_cons, List.map_cons, printedAlong, sessionAfter_cons]
    exact passed

/-- A command line that leaves the session is the last one that is run. -/
theorem run_leaving {session : Session} {command : TypedCommand}
    (leaves : session.Leaves command.payload) (rest : List String) :
    commandsRun files { session } (command.lines ++ rest) = [command.payload] ∧
      (transcript files { session } (command.lines ++ rest)).ending = .left := by
  have front := passes_front files command.continued { session }
  have fed := feed_last files session command
  have left := Session.leaves_dispatch leaves files
  rw [TypedCommand.lines, List.append_assoc, front.ran, front.printed]
  constructor
  · change [] ++ commandsRun files { session, pieces := command.front.map continuedPart }
      (command.last :: rest) = _
    rw [commandsRun, fed, command.joinLine_last]
    simp [left]
  · change (transcript files { session, pieces := command.front.map continuedPart }
      (command.last :: rest)).ending = _
    rw [transcript, fed]
    simp [left]

end Console

/-- Lines are in exactly one way command lines and, behind them, lines that wait for more. As long
as none of the command lines leaves the session, a console runs just these, in order, prints nothing
behind a continued line, and keeps only the parts of the lines that wait in the end. The first one
that leaves the session is the last one that is run. -/
theorem console_joins_lines (files : Files) (session : Session) :
    Function.Bijective TypedLines.lines ∧
    (∀ typed : TypedLines, (∀ command ∈ typed.commands, ¬session.Leaves command.payload) →
      Console.commandsRun files { session } typed.lines =
          typed.commands.map TypedCommand.payload ∧
        Console.transcript files { session } typed.lines =
          { outputs := Console.printedAlong files session typed.commands ++
              Console.silence typed.pending ++ [Text.ofString "\n"]
            ending := .exhausted } ∧
        Console.afterLines files { session } typed.lines =
          { session := Console.sessionAfter files session typed.commands
            pieces := typed.pending.map continuedPart }) ∧
    ∀ (commands : List TypedCommand) (command : TypedCommand) (rest : List String),
      (∀ other ∈ commands, ¬session.Leaves other.payload) → session.Leaves command.payload →
        Console.commandsRun files { session }
            (commands.flatMap TypedCommand.lines ++ (command.lines ++ rest)) =
          commands.map TypedCommand.payload ++ [command.payload] ∧
        (Console.transcript files { session }
            (commands.flatMap TypedCommand.lines ++ (command.lines ++ rest))).ending = .left := by
  refine ⟨⟨TypedLines.lines_injective, TypedLines.lines_surjective⟩, ?_, ?_⟩
  · intro typed stays
    have passed := (Console.passes_commands files stays).append
      (Console.passes_front files typed.waiting _)
    have ran := passed.ran []
    have printed := passed.printed []
    rw [List.append_nil] at ran printed
    refine ⟨ran.trans ?_, printed.trans ?_, passed.after⟩
    · rw [Console.commandsRun, List.append_nil, List.append_nil]
    · rw [Console.transcript]
      rfl
  · intro commands command rest stay leaves
    have passed := Console.passes_commands files stay
    have kept := Console.sessionAfter_aliases files stay
    obtain ⟨ran, left⟩ := Console.run_leaving files
      ((Session.leaves_congr kept _).mpr leaves) rest
    rw [passed.ran, passed.printed, ran]
    exact ⟨rfl, left⟩

/-- A command line over three lines, the first of which is blank but for its backslash, a comment,
and a line that waits for more. -/
def brokenLines : TypedLines where
  commands := [
    { front := ["\\ ", "nope\\"], last := " one ", continued := by decide, ends := by decide },
    { front := [], last := "# exit", continued := by decide, ends := by decide }]
  pending := ["exit\\"]
  waiting := by decide

/-- A command line over two lines that leaves the session. -/
def brokenExit : TypedCommand where
  front := ["quit\\"]
  last := "now"
  continued := by decide
  ends := by decide

/-- Neither a comment nor a line that waits for more leaves the session; a command line over two
lines does. -/
theorem console_joins_lines_broken :
    let files : Files := fun path => ⟨path, .error .missing⟩
    Console.commandsRun files { session := {} } ["\\ ", "nope\\", " one ", "# exit", "exit\\"] =
        [" nope  one", "# exit"] ∧
      (Console.transcript files { session := {} }
        ["\\ ", "nope\\", " one ", "# exit", "exit\\"]).ending = .exhausted ∧
      (Console.afterLines files { session := {} }
        ["\\ ", "nope\\", " one ", "# exit", "exit\\"]).pieces = ["exit"] ∧
      Console.commandsRun files { session := {} } ["quit\\", "now", "help"] = ["quit now"] := by
  intro files
  obtain ⟨-, joined, left⟩ := console_joins_lines files {}
  have unknown : ¬Session.Leaves {} " nope  one" := by
    rintro ⟨-, name, arguments, same, found⟩
    have trimmed : Text.strip " nope  one" = "nope  one" := by decide
    have named : CommandLine.ofText "nope  one" = .named "nope" ["one"] := by cbv
    rw [trimmed, named] at same
    obtain ⟨rfl, rfl⟩ := CommandLine.named.inj same
    have none : Command.ofName? "nope" = none := by decide
    rw [Session.resolve, List.lookup_nil, Option.getD_none, none] at found
    contradiction
  have comment : ¬Session.Leaves {} "# exit" := by
    rintro ⟨active, -⟩
    have trimmed : Text.strip "# exit" = "# exit" := by decide
    have marked : "#".isPrefixOf "# exit" = true := by cbv
    rw [trimmed] at active
    exact active marked
  have quits : Session.Leaves {} "quit now" := by
    have trimmed : Text.strip "quit now" = "quit now" := by decide
    have active : "#".isPrefixOf "quit now" = false := by cbv
    have named : CommandLine.ofText "quit now" = .named "quit" ["now"] := by cbv
    rw [Session.Leaves, trimmed, active]
    exact ⟨Bool.false_ne_true, "quit", ["now"], named, by decide⟩
  have payloads : brokenLines.commands.map TypedCommand.payload = [" nope  one", "# exit"] := by
    decide
  have stays : ∀ command ∈ brokenLines.commands, ¬Session.Leaves {} command.payload := by
    intro command listed
    have among := List.mem_map_of_mem (f := TypedCommand.payload) listed
    rw [payloads, List.mem_cons, List.mem_singleton] at among
    obtain same | same := among <;> rw [same] <;> assumption
  have payload : brokenExit.payload = "quit now" := by decide
  have lastRun := (left [] brokenExit ["help"] (by simp) (payload ▸ quits)).1
  obtain ⟨ran, printed, after⟩ := joined brokenLines stays
  have lines : brokenLines.lines = ["\\ ", "nope\\", " one ", "# exit", "exit\\"] := rfl
  have exitLines : [].flatMap TypedCommand.lines ++ (brokenExit.lines ++ ["help"]) =
      ["quit\\", "now", "help"] := rfl
  rw [lines] at ran printed after
  rw [exitLines, payload] at lastRun
  have part : continuedPart "exit\\" = "exit" := by decide
  refine ⟨ran.trans payloads, congrArg Transcript.ending printed, ?_, lastRun⟩
  rw [after, brokenLines, List.map_singleton, part]

end DebugLens
