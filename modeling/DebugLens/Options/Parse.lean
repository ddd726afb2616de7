import DebugLens.Options.Argument

/-!
# Reading a command line

Options and operands alternate. A run of words goes to the operands that are still open: as many
operands as the words can serve are settled at once, so operands that are not required are
settled empty as soon as the required ones in front of them are. Words beyond that are left over,
and a command line with left-over arguments is refused at its end, after missing operands.

A text attached to an option is its value. The letters attached to an option of one letter that
takes no value are further options. A value that reads as the separator is dropped, so an option
can be met without the value that it takes.
-/
namespace DebugLens.Options

variable {κ : Type}

/-- How far a command line has been read. -/
structure Progress (κ : Type) where
  /-- The options and operands met so far. -/
  taken : List (Taken κ) := []
  /-- The operands that are still open. -/
  operands : List (Operand κ)
  /-- The arguments left over. -/
  leftOver : List String := []
  /-- Why the command line is refused. -/
  refusal? : Option Refusal := none
deriving Repr

/-- What an option amounts to: options with their values, arguments left over, and the arguments
after it. -/
structure Reading (κ : Type) where
  /-- The options. -/
  taken : List (Taken κ) := []
  /-- The arguments left over. -/
  leftOver : List String := []
  /-- The arguments after it. -/
  rest : List (Argument κ)
deriving Repr

/-- An option with nothing attached to it; its value is the next word. -/
def readBare (switch : Switch κ) (name : String) (rest : List (Argument κ)) :
    Except Refusal (Reading κ) :=
  if switch.takesValue then
    match rest with
    | .word value :: rest => .ok { taken := [⟨switch.key, name, some value⟩], rest }
    | _ => .error (.missingValue name)
  else .ok { taken := [⟨switch.key, name, none⟩], rest }

/-- An option with a text attached to it: its value, or further options of one letter. -/
def readAttached (grammar : Grammar κ) (switch : Switch κ) (name : String)
    (rest : List (Argument κ)) (text : List Char) : Except Refusal (Reading κ) :=
  let value := String.ofList text
  if switch.takesValue then
    let value? := if value = separatorText then none else some value
    .ok { taken := [⟨switch.key, name, value?⟩], rest }
  else if isLongName name then .error (.superfluousValue name value)
  else
    match text with
    | [] => .error (.superfluousValue name value)
    | letter :: letters =>
      match grammar.switch? (letterName letter) with
      | none => .error (.superfluousValue name value)
      | some next => do
        let reading ←
          if letters.isEmpty then readBare next (letterName letter) rest
          else readAttached grammar next (letterName letter) rest letters
        return { reading with taken := ⟨switch.key, name, none⟩ :: reading.taken }

/-- The next option, which the arguments start with. -/
def readNext (grammar : Grammar κ) : List (Argument κ) → Except Refusal (Reading κ)
  | .switch _ switch name none :: rest => readBare switch name rest
  | .switch _ switch name (some text) :: rest =>
    readAttached grammar switch name rest text.toList
  | argument :: rest => .ok { leftOver := [argument.text], rest }
  | [] => .ok { rest := [] }

/-- The value that a group of arguments gives to an operand: its word. The first separator does
not count, wherever it stands. -/
def operandValue? (group : List (Argument κ)) : Option String :=
  ((group.map Argument.text).erase separatorText).head?

/-- The words at the front of the arguments that go to an operand, separators around them
included, and the rest; an operand that is not required may go without a word. -/
def takeWord (operand : Operand κ) (arguments : List (Argument κ)) :
    Option (List (Argument κ) × List (Argument κ)) :=
  let (before, rest) := arguments.span Argument.isSeparator
  match rest with
  | .word text :: rest =>
    let (after, rest) := rest.span Argument.isSeparator
    some (before ++ .word text :: after, rest)
  | rest => if operand.required then none else some (before, rest)

/-- Settle as many operands as the arguments can serve. -/
def takeOperands : List (Operand κ) → List (Argument κ) →
    List (Taken κ) × List (Operand κ) × List (Argument κ)
  | [], arguments => ([], [], arguments)
  | operand :: operands, arguments =>
    match takeWord operand arguments with
    | none => ([], operand :: operands, arguments)
    | some (group, rest) =>
      let (taken, operands, rest) := takeOperands operands rest
      (⟨operand.key, operand.name, operandValue? group⟩ :: taken, operands, rest)

/-- Meet one more option or operand, unless an option met before excludes it. -/
def Progress.meet [DecidableEq κ] (grammar : Grammar κ) (progress : Progress κ)
    (taken : Taken κ) : Progress κ :=
  if progress.refusal?.isSome then progress
  else
    match progress.taken.find? fun other => grammar.excludes taken.key other.key with
    | some other => { progress with refusal? := some (.conflict taken.name other.name) }
    | none => { progress with taken := progress.taken ++ [taken] }

/-- Settle operands with the arguments at the front. -/
def Progress.settle [DecidableEq κ] (grammar : Grammar κ) (progress : Progress κ)
    (arguments : List (Argument κ)) : Progress κ × List (Argument κ) :=
  let (taken, operands, rest) := takeOperands progress.operands arguments
  (taken.foldl (Progress.meet grammar) { progress with operands }, rest)

/-- The operands at the end of the command line, and what is left over then. -/
def Progress.finish [DecidableEq κ] (grammar : Grammar κ) (progress : Progress κ)
    (arguments : List (Argument κ)) : Progress κ :=
  let (progress, rest) := progress.settle grammar arguments
  { progress with leftOver := progress.leftOver ++ rest.map Argument.text }

/-- Read the arguments; `fuel` is at least their number. -/
def Progress.read [DecidableEq κ] (grammar : Grammar κ) :
    Nat → Progress κ → List (Argument κ) → Progress κ
  | 0, progress, arguments => progress.finish grammar arguments
  | fuel + 1, progress, arguments =>
    if progress.refusal?.isSome then progress
    else if !arguments.any Argument.isSwitch then progress.finish grammar arguments
    else
      let (words, options) := arguments.span fun argument => !argument.isSwitch
      let (settled, rest) :=
        if words.isEmpty then (progress, arguments) else progress.settle grammar arguments
      if rest.length < arguments.length then Progress.read grammar fuel settled rest
      else
        match readNext grammar options with
        | .error refusal => { settled with refusal? := some refusal }
        | .ok reading =>
          let left := settled.leftOver ++ words.map Argument.text ++ reading.leftOver
          let progress := reading.taken.foldl (Progress.meet grammar)
            { settled with leftOver := left }
          Progress.read grammar fuel progress reading.rest

/-- What there is to refuse when everything has been read. -/
def Progress.complaint? (progress : Progress κ) : Option Refusal :=
  let missing := (progress.operands.filter Operand.required).map Operand.name
  match progress.refusal? with
  | some refusal => some refusal
  | none =>
    if !missing.isEmpty then some (.missingOperands missing)
    else if !progress.leftOver.isEmpty then some (.unrecognized progress.leftOver)
    else none

/-- What a command line says. -/
def Grammar.parse [DecidableEq κ] (grammar : Grammar κ) (texts : List String) : Outcome κ :=
  match grammar.arguments texts with
  | .error refusal => { taken := [], refusal? := some refusal }
  | .ok arguments =>
    let start : Progress κ := { operands := grammar.operands }
    let progress := Progress.read grammar arguments.length start arguments
    { taken := progress.taken, refusal? := progress.complaint? }

end DebugLens.Options
