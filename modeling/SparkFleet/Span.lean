/-!
# Spans of time

A span is a whole number of nanoseconds.  In messages it is shown in the largest of the units
second, millisecond, microsecond and nanosecond that it reaches, with as many places as it needs.
-/

namespace SparkFleet

/-- A span of time. -/
structure Span where
  /-- Its length in nanoseconds. -/
  nanos : Nat
  deriving DecidableEq, Inhabited

namespace Span

/-- A number of seconds. -/
def seconds (n : Nat) : Span := ⟨n * 1000000000⟩

/-- A number of milliseconds. -/
def millis (n : Nat) : Span := ⟨n * 1000000⟩

/-- The whole milliseconds of a span. -/
def toMillis (s : Span) : Nat := s.nanos / 1000000

/-- One span after another. -/
def add (a b : Span) : Span := ⟨a.nanos + b.nanos⟩

instance : Add Span := ⟨add⟩

/-- The last `places` digits of a number, without the zeros at their end. -/
def places (n places : Nat) : List Char :=
  let digits := Nat.toDigits 10 n
  let padded := List.replicate (places - digits.length) '0' ++ digits
  (padded.reverse.dropWhile (· == '0')).reverse

/-- A number of nanoseconds in a unit of `10 ^ exponent` nanoseconds. -/
def inUnit (nanos exponent : Nat) (unit : String) : String :=
  let size := Nat.pow 10 exponent
  let whole := toString (nanos / size)
  match nanos % size with
  | 0 => whole ++ unit
  | rest => whole ++ "." ++ String.ofList (places rest exponent) ++ unit

/-- A span as it is shown in messages. -/
def text (s : Span) : String :=
  if 1000000000 ≤ s.nanos then inUnit s.nanos 9 "s"
  else if 1000000 ≤ s.nanos then inUnit s.nanos 6 "ms"
  else if 1000 ≤ s.nanos then inUnit s.nanos 3 "µs"
  else inUnit s.nanos 0 "ns"

end Span

end SparkFleet
