/-
Instants.

An instant is a number of nanoseconds since the beginning of 1970 in UTC, negative before it. `since` is the distance
from an earlier instant, zero if it is later. `rfc3339` writes date and time in UTC with as many decimals of the second
as are needed, in groups of three.
-/
import CheckReport.Time.Span

namespace CheckReport.Time

structure Instant where
  nanos : Int
  deriving DecidableEq, Repr

namespace Instant

/-- the time passed since `start`, zero if `start` lies in the future -/
def since (now start : Instant) : Span := ⟨(now.nanos - start.nanos).toNat⟩

/-- the instant that lies the given number of seconds before -/
def before (now : Instant) (seconds : Int) : Instant := ⟨now.nanos - seconds * (Span.perSecond : Int)⟩

structure Date where
  year : Int
  month : Nat
  day : Nat
  deriving DecidableEq, Repr

/-- the date of a day counted from 1 January 1970; the year is taken to begin in March, so that the leap day ends it -/
def dateOf (days : Int) : Date :=
  let z := days + 719468
  let era := z.fdiv 146097
  let dayOfEra := (z - era * 146097).toNat
  let yearOfEra := (dayOfEra - dayOfEra / 1460 + dayOfEra / 36524 - dayOfEra / 146096) / 365
  let dayOfYear := dayOfEra - (365 * yearOfEra + yearOfEra / 4 - yearOfEra / 100)
  let shifted := (5 * dayOfYear + 2) / 153
  let day := dayOfYear - (153 * shifted + 2) / 5 + 1
  let month := if shifted < 10 then shifted + 3 else shifted - 9
  ⟨(yearOfEra : Int) + era * 400 + (if month ≤ 2 then 1 else 0), month, day⟩

/-- at least `width` digits -/
def padded (width n : Nat) : String :=
  let digits := (toString n).toList
  String.ofList (List.replicate (width - digits.length) '0' ++ digits)

def fractionText (nanos : Nat) : String :=
  if nanos = 0 then ""
  else if nanos % 1000000 = 0 then "." ++ padded 3 (nanos / 1000000)
  else if nanos % 1000 = 0 then "." ++ padded 6 (nanos / 1000)
  else "." ++ padded 9 nanos

def rfc3339 (t : Instant) : String :=
  let seconds := t.nanos.fdiv (Span.perSecond : Int)
  let nanos := (t.nanos - seconds * (Span.perSecond : Int)).toNat
  let days := seconds.fdiv 86400
  let rest := (seconds - days * 86400).toNat
  let date := dateOf days
  padded 4 date.year.toNat ++ "-" ++ padded 2 date.month ++ "-" ++ padded 2 date.day ++ "T" ++
    padded 2 (rest / 3600) ++ ":" ++ padded 2 (rest / 60 % 60) ++ ":" ++ padded 2 (rest % 60) ++
    fractionText nanos ++ "Z"

end Instant

end CheckReport.Time
