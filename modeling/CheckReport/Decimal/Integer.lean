/-
Decimal integers as they are typed on a command line.

An integer is an optional sign and at least one ASCII digit; leading zeros are allowed and nothing else is. `int?` takes
either sign, `nat?` only a plus sign; both refuse what lies outside the given range.
-/

namespace CheckReport.Decimal

/-- greatest integer of 64 bits with sign -/
def maxSigned64 : Int := 9223372036854775807

/-- least integer of 64 bits with sign -/
def minSigned64 : Int := -9223372036854775808

/-- greatest integer of 64 bits without sign -/
def maxUnsigned64 : Nat := 18446744073709551615

def isDigit (c : Char) : Bool := '0' ≤ c && c ≤ '9'

def digitValue (c : Char) : Nat := c.toNat - '0'.toNat

/-- value of a digit sequence, most significant first -/
def valueOf (digits : List Char) : Nat := digits.foldl (fun n c => 10 * n + digitValue c) 0

/-- value of a nonempty sequence of digits and nothing else -/
def digits? (cs : List Char) : Option Nat :=
  if !cs.isEmpty && cs.all isDigit then some (valueOf cs) else none

/-- value of digits with an optional plus sign -/
def unsigned? : List Char → Option Nat
  | '+' :: cs => digits? cs
  | cs => digits? cs

/-- value of digits with an optional sign -/
def signed? : List Char → Option Int
  | '-' :: cs => (digits? cs).map fun n => -(n : Int)
  | cs => (unsigned? cs).map fun n => (n : Int)

/-- an integer between `least` and `greatest` -/
def int? (least greatest : Int) (s : String) : Option Int :=
  (signed? s.toList).filter fun n => least ≤ n && n ≤ greatest

/-- a natural number up to `greatest` -/
def nat? (greatest : Nat) (s : String) : Option Nat :=
  (unsigned? s.toList).filter fun n => n ≤ greatest

end CheckReport.Decimal
