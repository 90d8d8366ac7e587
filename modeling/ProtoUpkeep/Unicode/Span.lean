/-!
# Sets of code points

The tables of character properties are lists of spans. A span has a step, because letters of one
case often stand at every second code point.
-/

namespace ProtoUpkeep

/-- The code points from `first` to `last` at distance `step`. -/
structure Span where
  /-- The first code point. -/
  first : Nat
  /-- A bound that no code point of the span exceeds. -/
  last : Nat
  /-- The distance between neighbours. -/
  step : Nat
deriving DecidableEq, Repr

/-- Whether `n` lies in the span. -/
def Span.has (s : Span) (n : Nat) : Bool :=
  s.first ≤ n && n ≤ s.last && (n - s.first) % s.step == 0

/-- A set of code points: the union of spans. -/
abbrev Spans := List Span

/-- Whether `n` lies in one of the spans. -/
def Spans.has (s : Spans) (n : Nat) : Bool := s.any (·.has n)

/-- The code points from `first` to `last`. -/
def Spans.between (first last : Nat) : Spans := [⟨first, last, 1⟩]

end ProtoUpkeep
