/-
Rounding to 53 binary digits.

`Binary64` is a nonnegative number m · 2^q with m < 2^53, the finite numbers of the format binary64. `round` takes an
exact fraction to the nearest of them, ties to the even m; the fractions met here are far below the format's upper
limit, so there is no infinity. `add` is the exact sum followed by `round`, as the format prescribes.
-/
import CheckReport.Decimal.Power

namespace CheckReport.Decimal

/-- the number `mantissa · 2^exponent` -/
structure Binary64 where
  mantissa : Nat
  exponent : Int
  deriving DecidableEq, Repr

namespace Binary64

/-- least exponent of the format -/
def leastExponent : Int := -1074

/-- quotient rounded to the nearest integer, a tie to the even one -/
def divNearest (num den : Nat) : Nat :=
  let q := num / den
  let r := num % den
  if 2 * r < den then q else if den < 2 * r then q + 1 else if q % 2 = 0 then q else q + 1

/-- numerator and denominator of `num / den` divided by `2^e` -/
def scale (num den : Nat) (e : Int) : Nat × Nat :=
  if 0 ≤ e then (num, den * powerOfTwo e.toNat) else (num * powerOfTwo (-e).toNat, den)

/-- the exponent at which the quotient has 53 binary digits, but at least the least exponent -/
def exponentFor (num den : Nat) : Int :=
  let guess : Int := (Nat.log2 num : Int) - (Nat.log2 den : Int) - 52
  let (n, d) := scale num den guess
  max leastExponent (if n < d * powerOfTwo 52 then guess - 1 else guess)

/-- the number nearest to `num / den`, of two the one with even mantissa -/
def round (num den : Nat) : Binary64 :=
  if num = 0 then ⟨0, leastExponent⟩
  else
    let e := exponentFor num den
    let (n, d) := scale num den e
    let m := divNearest n d
    if m = powerOfTwo 53 then ⟨powerOfTwo 52, e + 1⟩ else ⟨m, e⟩

/-- the value as an exact fraction -/
def fraction (x : Binary64) : Nat × Nat :=
  if 0 ≤ x.exponent then (x.mantissa * powerOfTwo x.exponent.toNat, 1)
  else (x.mantissa, powerOfTwo (-x.exponent).toNat)

/-- rounded sum -/
def add (x y : Binary64) : Binary64 :=
  let (a, b) := x.fraction
  let (c, d) := y.fraction
  round (a * d + c * b) (b * d)

end Binary64

end CheckReport.Decimal
