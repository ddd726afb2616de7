import DebugLens.Text.Quoted

/-!
# Options and operands

A command has options, named by words that start with a hyphen and possibly taking a value, and
operands, which are told apart by their place. Some options exclude each other. A grammar says
which options and operands a command has; required operands come before the other ones.
-/
namespace DebugLens.Options

/-- An option of a command. -/
structure Switch (κ : Type) where
  /-- What the option stands for. -/
  key : κ
  /-- Its names, with their hyphens. -/
  names : List String
  /-- What help calls its value, if it takes one. -/
  placeholder? : Option String := none
  /-- What help says about it. -/
  help : String := ""
deriving Repr

/-- An operand of a command. -/
structure Operand (κ : Type) where
  /-- What the operand stands for. -/
  key : κ
  /-- Its name in messages. -/
  name : String
  /-- A command line without it is refused. -/
  required : Bool
deriving Repr

/-- The options and operands of a command. -/
structure Grammar (κ : Type) where
  /-- The options. -/
  switches : List (Switch κ)
  /-- The operands, those that are required first. -/
  operands : List (Operand κ) := []
  /-- The pairs of options that exclude each other. -/
  exclusive : List (κ × κ) := []
deriving Repr

/-- An option or operand met on a command line. -/
structure Taken (κ : Type) where
  /-- What it stands for. -/
  key : κ
  /-- The name it was met under. -/
  name : String
  /-- Its value, unless there is none. -/
  value? : Option String
deriving DecidableEq, Repr

/-- Why a command line is refused. -/
inductive Refusal where
  /-- An argument abbreviates more than one option. -/
  | ambiguous (argument : String) (names : List String)
  /-- A value is attached to an option that takes none. -/
  | superfluousValue (name value : String)
  /-- The value of an option is missing. -/
  | missingValue (name : String)
  /-- Two options exclude each other. -/
  | conflict (name other : String)
  /-- Operands are missing. -/
  | missingOperands (names : List String)
  /-- Arguments are neither options nor operands. -/
  | unrecognized (arguments : List String)
deriving DecidableEq, Repr

/-- The wording of a refusal. -/
def Refusal.message : Refusal → String
  | .ambiguous argument names =>
    "ambiguous option: " ++ argument ++ " could match " ++ ", ".intercalate names
  | .superfluousValue name value =>
    "argument " ++ name ++ ": ignored explicit argument " ++ Text.quoted value
  | .missingValue name => "argument " ++ name ++ ": expected one argument"
  | .conflict name other => "argument " ++ name ++ ": not allowed with argument " ++ other
  | .missingOperands names => "the following arguments are required: " ++ ", ".intercalate names
  | .unrecognized arguments => "unrecognized arguments: " ++ " ".intercalate arguments

/-- What a command line says, up to the point where it is refused. -/
structure Outcome (κ : Type) where
  /-- The options and operands in the order in which they were met. -/
  taken : List (Taken κ)
  /-- Why the command line is refused. -/
  refusal? : Option Refusal
deriving DecidableEq, Repr

/-- The option takes a value. -/
def Switch.takesValue {κ : Type} (switch : Switch κ) : Bool := switch.placeholder?.isSome

/-- The option with a name. -/
def Grammar.switch? {κ : Type} (grammar : Grammar κ) (name : String) : Option (Switch κ) :=
  grammar.switches.find? fun switch => switch.names.contains name

/-- Two options exclude each other. -/
def Grammar.excludes {κ : Type} [DecidableEq κ] (grammar : Grammar κ) (left right : κ) : Bool :=
  grammar.exclusive.contains (left, right) || grammar.exclusive.contains (right, left)

end DebugLens.Options
