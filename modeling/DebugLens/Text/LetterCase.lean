import DebugLens.Text.LetterCase.Ranges

/-!
# Lower-case text

Lowering follows the full Unicode mapping. Two characters are not lowered one by one: a capital
I with a dot keeps its dot as a combining mark, and a capital sigma takes its final form at the
end of a word, that is, after a cased character and not before one.
-/
namespace DebugLens.Text

/-- The lower-case form of a code point whose form is one code point. -/
def lowerSimple (c : CodePoint) : CodePoint :=
  match capitalRuns.find? fun run => run.first ≤ c.toNat && c.toNat ≤ run.last with
  | none => c
  | some run =>
    if (c.toNat - run.first) % run.stride = 0 then
      .char (Char.ofNat ((c.toNat : Int) + run.shift).toNat)
    else c

/-- The first character that case rules do not look past is a cased one. -/
def startsCased (text : Text) : Bool :=
  match text.dropWhile fun c => caseIgnorableRanges.holds c.toNat with
  | [] => false
  | c :: _ => casedRanges.holds c.toNat

/-- The lower-case form of a code point between the reversed text before it and the text after. -/
def lowerBetween (before : Text) (c : CodePoint) (after : Text) : Text :=
  if c = .char '\u03a3' then
    if startsCased before && !startsCased after then [.char '\u03c2'] else [.char '\u03c3']
  else if c = .char '\u0130' then [.char 'i', .char '\u0307']
  else [lowerSimple c]

/-- The lower-case form of a text that follows `before`, which is reversed. -/
def lowerAfter : Text → Text → Text
  | _, [] => []
  | before, c :: after => lowerBetween before c after ++ lowerAfter (c :: before) after

/-- The lower-case form of a text. -/
def lower (text : Text) : Text := lowerAfter [] text

/-- The lower-case form of a string. -/
def lowered (string : String) : String := (lower string).toString

end DebugLens.Text
