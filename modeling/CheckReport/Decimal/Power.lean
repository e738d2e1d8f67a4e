/-
Powers of two and ten.
-/

namespace CheckReport.Decimal

def powerOfTwo (n : Nat) : Nat := Nat.pow 2 n

def powerOfTen (n : Nat) : Nat := Nat.pow 10 n

end CheckReport.Decimal
