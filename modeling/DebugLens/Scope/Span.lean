import DebugLens.Text.Digit
import DebugLens.Text.Hex

/-!
# Spans of offsets

A span is a half-open range of offsets that are not negative. The unbounded span ends at the
largest 32-bit offset.
-/
namespace DebugLens

/-- Why there is no such span. -/
inductive SpanError where
  /-- An offset is negative. -/
  | negativeOffset
  /-- The start is negative or lies after the end. -/
  | disordered (start stop : Int)
deriving DecidableEq, Repr

/-- The wording of an error. -/
def SpanError.message : SpanError → String
  | .negativeOffset => "IL offset must be non-negative"
  | .disordered start stop =>
    match Text.decimalText? start, Text.decimalText? stop with
    | some start, some stop => "invalid IL span [" ++ start ++ ", " ++ stop ++ ")"
    | _, _ => Text.longIntegerMessage

/-- A half-open range of offsets. -/
structure Span where
  /-- The first offset. -/
  start : Nat
  /-- The offset after the last one. -/
  stop : Nat
  /-- The start does not lie after the end. -/
  start_le_stop : start ≤ stop := by omega
deriving DecidableEq, Repr

namespace Span

/-- The largest offset that an unbounded span reaches up to. -/
def greatestOffset : Nat := 0xFFFFFFFF

/-- The span without bounds. -/
def unbounded : Span where
  start := 0
  stop := greatestOffset
  start_le_stop := Nat.zero_le _

/-- The span with the given ends. -/
def ofEnds (start stop : Int) : Except SpanError Span :=
  if ordered : 0 ≤ start ∧ start ≤ stop then
    .ok { start := start.toNat, stop := stop.toNat, start_le_stop := by omega }
  else .error (.disordered start stop)

/-- The offset lies in the span. -/
def contains (span : Span) (offset : Int) : Bool := span.start ≤ offset && offset < span.stop

/-- The span has no bounds. -/
def isUnbounded (span : Span) : Bool := span = unbounded

/-- The ends of a span as they are shown. -/
def text (span : Span) : String :=
  if span.isUnbounded then "[0x0, max)"
  else "[0x" ++ Text.hexUpper 0 span.start ++ ", 0x" ++ Text.hexUpper 0 span.stop ++ ")"

end Span

end DebugLens
