import DebugLens.Scope.Basic
import DebugLens.Scope.Span

/-!
# Reuse spans

What is known about a method at an offset stays true until the offset crosses the boundary of a
scope. The reuse span is the part of an initial span around the offset that no boundary of a
scope cuts off.
-/
namespace DebugLens

/-- The ends of a span, while it is being narrowed. -/
structure Bounds where
  /-- The first offset. -/
  start : Int
  /-- The offset after the last one. -/
  stop : Int
deriving DecidableEq, Repr

/-- Bounds without what lies beyond the boundaries of a span, as seen from an offset. -/
def Bounds.narrow (offset : Int) (bounds : Bounds) (span : Span) : Bounds :=
  if offset < span.start then { bounds with stop := min bounds.stop span.start }
  else if span.stop ≤ offset then { bounds with start := max bounds.start span.stop }
  else ⟨max bounds.start span.start, min bounds.stop span.stop⟩

/-- The part of an initial span that no boundary of the given spans cuts off from an offset. -/
def reuseSpanWithin (offset : Int) (initial : Span) (spans : List Span) :
    Except SpanError Span :=
  if offset < 0 then .error .negativeOffset
  else
    let bounds := spans.foldl (Bounds.narrow offset) ⟨initial.start, initial.stop⟩
    Span.ofEnds bounds.start bounds.stop

namespace Scope

/-- The offset after the last one of a scope. -/
def stopExclusive (scope : Scope) (inclusive : Bool) : Int :=
  scope.stop + if inclusive then 1 else 0

/-- The span of a scope, unless its ends are out of order. -/
def span? (scope : Scope) (inclusive : Bool) : Option Span :=
  (Span.ofEnds scope.start (scope.stopExclusive inclusive)).toOption

/-- The spans of scopes, those with ends out of order being left out. -/
def spans (scopes : List Scope) (inclusive : Bool) : List Span :=
  scopes.filterMap fun scope => scope.span? inclusive

/-- The span in which an answer about an offset can be reused. Outside all scopes there is
nothing to bound it by. -/
def reuseSpan (scopes : List Scope) (inclusive : Bool) (offset : Int) : Except SpanError Span :=
  let spans := spans scopes inclusive
  if offset < 0 || !spans.any fun span => span.contains offset then .ok .unbounded
  else reuseSpanWithin offset .unbounded spans

end Scope

end DebugLens
