/-!
# Spans of characters

A property of characters is tabulated as a list of spans.  A span runs from a first to a last code
point in steps, so that the alternating capital and small letters of an alphabet take two spans.
-/

namespace JsonShape

/-- Every `step`-th code point from `first` to `last`. -/
structure Span where
  first : Nat
  last : Nat
  step : Nat

/-- Whether the character is one of the span. -/
def Span.holds (s : Span) (c : Char) : Bool :=
  s.first ≤ c.toNat && c.toNat ≤ s.last && (c.toNat - s.first) % s.step == 0

end JsonShape
