/-!
# Shell words

A command line is split into words at spaces, tabs and line ends. A backslash takes the next
character literally, single quotes take everything literally, and inside double quotes a
backslash escapes only itself and the quote. Quotes open and close within a word, so a word may
be empty if it was quoted.
-/
namespace DebugLens.Text

/-- Why a line has no words. -/
inductive SplitError where
  /-- A quote is never closed. -/
  | openQuote
  /-- The line ends after an escaping backslash. -/
  | openEscape
deriving DecidableEq, Repr

/-- The wording of a splitting error. -/
def SplitError.message : SplitError → String
  | .openQuote => "No closing quotation"
  | .openEscape => "No escaped character"

/-- Where the splitter stands in a line. -/
inductive SplitState where
  /-- Between words. -/
  | between
  /-- In a word, outside quotes. -/
  | bare
  /-- In a word, inside the given quotes. -/
  | inside (quote : Char)
  /-- After an escaping backslash, inside the given quotes if any. -/
  | escaped (quote : Option Char)
deriving DecidableEq, Repr

/-- The characters that separate words. -/
def isWordBreak (c : Char) : Bool := c = ' ' || c = '\t' || c = '\r' || c = '\n'

/-- The two quotes. -/
def isQuote (c : Char) : Bool := c = '\'' || c = '"'

/-- The state after a character outside quotes that does not separate words, and what the
character adds to the word. -/
def SplitState.enter (c : Char) : SplitState × List Char :=
  if c = '\\' then (.escaped none, [])
  else if isQuote c then (.inside c, [])
  else (.bare, [c])

/-- The words of a line, given the state and the part of the current word already read. -/
def splitFrom : SplitState → List Char → List Char → Except SplitError (List (List Char))
  | .between, _, [] => .ok []
  | .between, _, c :: rest =>
    if isWordBreak c then splitFrom .between [] rest
    else splitFrom (SplitState.enter c).1 (SplitState.enter c).2 rest
  | .bare, word, [] => .ok [word]
  | .bare, word, c :: rest =>
    if isWordBreak c then do
      let words ← splitFrom .between [] rest
      return word :: words
    else splitFrom (SplitState.enter c).1 (word ++ (SplitState.enter c).2) rest
  | .inside _, _, [] => .error .openQuote
  | .inside quote, word, c :: rest =>
    if c = quote then splitFrom .bare word rest
    else if c = '\\' && quote = '"' then splitFrom (.escaped (some quote)) word rest
    else splitFrom (.inside quote) (word ++ [c]) rest
  | .escaped _, _, [] => .error .openEscape
  | .escaped none, word, c :: rest => splitFrom .bare (word ++ [c]) rest
  | .escaped (some quote), word, c :: rest =>
    let literal := if c = '\\' || c = quote then [c] else ['\\', c]
    splitFrom (.inside quote) (word ++ literal) rest

/-- The words of a line. -/
def shellWords (line : String) : Except SplitError (List String) :=
  (splitFrom .between [] line.toList).map fun words => words.map String.ofList

end DebugLens.Text
