/-
Spans of time.

A span is a natural number of nanoseconds. `Span.seconds` is its length in seconds as a binary64 number, computed as
whole seconds plus nanoseconds over 10^9, each step rounded; `Span.secondsText` is the shortest decimal text of that.
`Span.compact` writes the span in its largest fitting unit, with as many decimals as it has.
-/
import CheckReport.Decimal.Integer
import CheckReport.Decimal.Shortest

namespace CheckReport.Time

structure Span where
  nanos : Nat
  deriving DecidableEq, Repr

namespace Span

/-- nanoseconds in a second -/
def perSecond : Nat := 1000000000

/-- greatest whole number of seconds that a span may have -/
def maxSeconds : Nat := Decimal.maxUnsigned64

def ofSeconds (s : Nat) : Span := ⟨s * perSecond⟩

/-- minutes as a span; a product that needs more than 64 bits stays at the greatest number of seconds -/
def ofMinutes (m : Nat) : Span := ofSeconds (min (60 * m) maxSeconds)

def wholeSeconds (t : Span) : Nat := t.nanos / perSecond

/-- nanoseconds beyond the whole seconds -/
def subsecond (t : Span) : Nat := t.nanos % perSecond

/-- length in seconds, rounded at each step -/
def seconds (t : Span) : Decimal.Binary64 :=
  (Decimal.Binary64.round t.wholeSeconds 1).add (Decimal.Binary64.round t.subsecond perSecond)

def secondsText (t : Span) : String := t.seconds.text

/-- the number `whole` and the decimals of `part / unit`, without zeros at the end; `unit` is a power of ten -/
def withDecimals (whole part unit : Nat) : String :=
  let digits := (toString (unit + part)).toList.drop 1
  let decimals := Decimal.Binary64.dropZeros digits
  toString whole ++ (if decimals.isEmpty then "" else "." ++ String.ofList decimals)

/-- the span in seconds, milliseconds, microseconds or nanoseconds -/
def compact (t : Span) : String :=
  if 0 < t.wholeSeconds then withDecimals t.wholeSeconds t.subsecond perSecond ++ "s"
  else if 1000000 ≤ t.nanos then withDecimals (t.nanos / 1000000) (t.nanos % 1000000) 1000000 ++ "ms"
  else if 1000 ≤ t.nanos then withDecimals (t.nanos / 1000) (t.nanos % 1000) 1000 ++ "µs"
  else withDecimals t.nanos 0 1 ++ "ns"

end Span

end CheckReport.Time
