import DebugLens.Options.Basic
import DebugLens.Text.Digit

/-!
# The arguments of a command line

An argument that starts with a hyphen names an option: in full, by an unambiguous beginning of a
name with two hyphens, or by one letter. A text may be attached to the name, after an equals sign
or right after a letter. A negative number and a text with a space are words, unless they name an
option. After the first separator `--` every argument is a word.
-/
namespace DebugLens.Options

/-- What an argument is. -/
inductive Argument (κ : Type) where
  /-- A word, which may be a value or an operand. -/
  | word (text : String)
  /-- The separator after which there are only words. -/
  | separator
  /-- An option under one of its names, perhaps with a text attached to it. -/
  | switch (text : String) (switch : Switch κ) (name : String) (attached? : Option String)
  /-- The name of no option. -/
  | unknown (text : String)
deriving Repr

/-- The text of the separator. -/
def separatorText : String := "--"

namespace Argument

variable {κ : Type}

/-- The argument as it was given. -/
def text : Argument κ → String
  | word text => text
  | separator => separatorText
  | switch text _ _ _ => text
  | unknown text => text

/-- The argument starts with the name of an option, known or not. -/
def isSwitch : Argument κ → Bool
  | switch _ _ _ _ => true
  | unknown _ => true
  | _ => false

/-- The argument is the separator. -/
def isSeparator : Argument κ → Bool
  | separator => true
  | _ => false

end Argument

/-- The decimal digits at the front of a text, dropped. -/
def dropDigits (text : List Char) : List Char :=
  text.dropWhile fun c => (Text.decimalDigit? c).isSome

/-- Nothing is left, except perhaps one line end. -/
def isLineEnd (text : List Char) : Bool := text == [] || text == ['\n']

/-- The text after a hyphen makes a negative number: digits, or a point with digits behind it. -/
def isNumber (text : List Char) : Bool :=
  match dropDigits text with
  | '.' :: fraction => isLineEnd (dropDigits fraction) && !isLineEnd fraction
  | rest => isLineEnd rest && !isLineEnd text

/-- A text cut at its first equals sign. -/
def assignment? (text : String) : Option (String × String) :=
  match text.toList.span (· ≠ '=') with
  | (name, _ :: value) => some (String.ofList name, String.ofList value)
  | (_, []) => none

/-- The name of an option of one letter. -/
def letterName (letter : Char) : String := String.ofList ['-', letter]

/-- A name has two hyphens. -/
def isLongName (name : String) : Bool := separatorText.isPrefixOf name

namespace Grammar

variable {κ : Type}

/-- The options with a name that starts in a given way, each with that name. -/
def completions (grammar : Grammar κ) (start : String) : List (Switch κ × String) :=
  grammar.switches.flatMap fun switch =>
    (switch.names.filter start.isPrefixOf).map fun name => (switch, name)

/-- The options that an argument which is no full name may mean, with their names and what is
attached to them. -/
def candidates (grammar : Grammar κ) (text : String) :
    List (Switch κ × String × Option String) :=
  match text.toList with
  | '-' :: '-' :: _ =>
    let (start, attached?) := match assignment? text with
      | some (name, value) => (name, some value)
      | none => (text, none)
    (grammar.completions start).map fun (switch, name) => (switch, name, attached?)
  | '-' :: letter :: rest =>
    let name := letterName letter
    (grammar.switch? name).toList.map fun switch => (switch, name, some (String.ofList rest))
  | _ => []

/-- The option that an argument names in full, with what is attached to it. -/
def named? (grammar : Grammar κ) (text : String) :
    Option (Switch κ × String × Option String) :=
  match grammar.switch? text with
  | some switch => some (switch, text, none)
  | none => do
    let (name, value) ← assignment? text
    let switch ← grammar.switch? name
    return (switch, name, some value)

/-- What an argument in front of the separator is. -/
def argument (grammar : Grammar κ) (text : String) : Except Refusal (Argument κ) :=
  match text.toList with
  | '-' :: c :: rest =>
    match grammar.named? text with
    | some (switch, name, attached?) => .ok (.switch text switch name attached?)
    | none =>
      match grammar.candidates text with
      | [(switch, name, attached?)] => .ok (.switch text switch name attached?)
      | _ :: _ :: _ =>
        .error (.ambiguous text ((grammar.candidates text).map fun entry => entry.2.1))
      | [] =>
        if isNumber (c :: rest) || (c :: rest).contains ' ' then .ok (.word text)
        else .ok (.unknown text)
  | _ => .ok (.word text)

/-- The arguments of a command line. -/
def arguments (grammar : Grammar κ) : List String → Except Refusal (List (Argument κ))
  | [] => .ok []
  | text :: texts =>
    if text = separatorText then .ok (.separator :: texts.map .word)
    else do
      let first ← grammar.argument text
      let others ← grammar.arguments texts
      return first :: others

end Grammar

end DebugLens.Options
