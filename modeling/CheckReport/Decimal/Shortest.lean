/-
The shortest decimal text of a binary64 number.

`shortest` gives the fewest significant digits such that the decimal number they form rounds back to the given number,
and of the candidates with that many digits the nearest, the greater one if two are equally near. `Binary64.text`
writes them without an exponent: zeros fill the places between the digits and the point, and an integer has no point.
-/
import CheckReport.Decimal.Binary64

namespace CheckReport.Decimal

namespace Binary64

/-- the lower and the upper bound of the reals that round to the number, over a common denominator, and whether the
bounds belong to them -/
structure Interval where
  low : Nat
  high : Nat
  den : Nat
  closed : Bool

def interval (x : Binary64) : Interval :=
  let (n, d) := x.fraction
  let (step, den) := if 0 ≤ x.exponent then (powerOfTwo x.exponent.toNat, d) else (1, d)
  let below := if x.mantissa = powerOfTwo 52 && leastExponent < x.exponent then 1 else 2
  ⟨4 * n - below * step, 4 * n + 2 * step, 4 * den, x.mantissa % 2 == 0⟩

/-- whether `digits · 10^place` rounds to the number -/
def roundsTo (i : Interval) (digits : Nat) (place : Int) : Bool :=
  let (n, d) := if 0 ≤ place then (digits * powerOfTen place.toNat, 1) else (digits, powerOfTen (-place).toNat)
  let value := n * i.den
  if i.closed then i.low * d ≤ value && value ≤ i.high * d else i.low * d < value && value < i.high * d

/-- number of decimal digits before the point of `num / den`, counted below zero for leading zeros after the point -/
def decimalOrder (num den : Nat) : Int :=
  if den ≤ num then ((toString (num / den)).length : Int)
  else 1 - ((toString ((den - 1) / num)).length : Int)

/-- the candidate with `count` digits that rounds back and is nearest, with its last digit's place -/
def candidate (x : Binary64) (count : Nat) : Option (Nat × Int) :=
  let (n, d) := x.fraction
  let place := decimalOrder n d - (count : Int)
  let (num, den) := if 0 ≤ place then (n, d * powerOfTen place.toNat) else (n * powerOfTen (-place).toNat, d)
  let down := num / den
  let i := x.interval
  let lower := roundsTo i down place
  let upper := roundsTo i (down + 1) place
  if lower && (!upper || 2 * (num % den) < den) then some (down, place)
  else if upper then some (down + 1, place)
  else none

/-- the first count of digits, from `count` on, that has a candidate -/
def search (x : Binary64) : Nat → Nat → Option (Nat × Int)
  | 0, _ => none
  | fuel + 1, count => (x.candidate count).or (x.search fuel (count + 1))

/-- the shortest digits and the place of the last one; 17 digits always suffice -/
def shortest (x : Binary64) : Nat × Int :=
  if x.mantissa = 0 then (0, 0) else (x.search 17 1).getD (x.mantissa, 0)

/-- zeros at the end of the digits, dropped -/
def dropZeros (cs : List Char) : List Char := (cs.reverse.dropWhile (· == '0')).reverse

/-- the decimal text without exponent -/
def text (x : Binary64) : String :=
  let (digits, place) := x.shortest
  let cs := (toString digits).toList
  if 0 ≤ place then String.ofList (cs ++ List.replicate (if digits = 0 then 0 else place.toNat) '0')
  else
    let k := (-place).toNat
    let padded := List.replicate (k + 1 - cs.length) '0' ++ cs
    let whole := padded.take (padded.length - k)
    let part := dropZeros (padded.drop (padded.length - k))
    String.ofList (if part.isEmpty then whole else whole ++ '.' :: part)

end Binary64

end CheckReport.Decimal
