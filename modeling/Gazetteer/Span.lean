import Gazetteer.Text.Offset

/-! Spans: half-open ranges of offsets. -/
namespace Gazetteer

structure Span where
  start : Nat
  stop : Nat
  deriving Repr, DecidableEq

namespace Span

/-- The length of a span; a span that ends before it starts has none. -/
def length (s : Span) : Nat := s.stop - s.start

def isEmpty (s : Span) : Bool := s.length == 0

def display (s : Span) : String := toString s.start ++ ".." ++ toString s.stop

/-- The span of characters that the span of bytes covers, if both of its ends are places in
the text and in order. -/
def toCharSpan? (s : Span) (text : String) : Option Span := do
  let first ← Text.charIndex? text.toList s.start
  let last ← Text.charIndex? text.toList s.stop
  if s.start ≤ s.stop then some ⟨first, last⟩ else none

/-- The text that the span covers. -/
def slice? (s : Span) (text : String) : Option String :=
  (Text.slice? text.toList s.start s.stop).map String.ofList

end Span
end Gazetteer
