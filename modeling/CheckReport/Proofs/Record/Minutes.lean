/-
Minutes as text.

The minutes of a time to live are written as decimal digits, and read as they are written.

- `digits?_toDigits`, `signed?_toDigits`, `nat?_toString`: the digits of a number are read as this number.
- `Ttl.int?_text`, `Ttl.text_injective`: so are minutes, and different minutes are written differently.
- `Ttl.isDigit_of_mem_text`, `Ttl.text_ne_empty`: they are written as at least one digit and nothing else.
-/
import CheckReport.Decimal.Integer
import CheckReport.Record.Argument
import Mathlib.Tactic

namespace CheckReport

namespace Decimal

theorem isDigit_of_mem_toDigits {n : ℕ} {c : Char} (h : c ∈ Nat.toDigits 10 n) : isDigit c = true :=
  Nat.isDigit_of_mem_toDigits (by decide) (by decide) h

theorem digits?_toDigits (n : ℕ) : digits? (Nat.toDigits 10 n) = some n := by
  have digits : (Nat.toDigits 10 n).all isDigit = true := List.all_eq_true.2 fun _ => isDigit_of_mem_toDigits
  have value : valueOf (Nat.toDigits 10 n) = n :=
    Nat.ofDigitChars_eq_foldl.symm.trans (Nat.ofDigitChars_toDigits (by decide) (by decide))
  rw [digits?, digits, value, if_pos]
  simp

theorem unsigned?_toDigits (n : ℕ) : unsigned? (Nat.toDigits 10 n) = some n := by
  unfold unsigned?
  split
  · rename_i cs sign
    -- a sign in front would be a digit
    have first : '+' ∈ Nat.toDigits 10 n := sign ▸ List.mem_cons_self
    exact absurd (isDigit_of_mem_toDigits first) (by decide)
  · exact digits?_toDigits n

theorem signed?_toDigits (n : ℕ) : signed? (Nat.toDigits 10 n) = some (n : ℤ) := by
  unfold signed?
  split
  · rename_i cs sign
    have first : '-' ∈ Nat.toDigits 10 n := sign ▸ List.mem_cons_self
    exact absurd (isDigit_of_mem_toDigits first) (by decide)
  · rw [unsigned?_toDigits]
    rfl

theorem nat?_toString {n greatest : ℕ} : nat? greatest (toString n) = if n ≤ greatest then some n else none := by
  rw [nat?, Nat.toString_eq_ofList_toDigits, String.toList_ofList, unsigned?_toDigits, Option.filter_some]
  simp

end Decimal

namespace Ttl

theorem toList_text (ttl : Ttl) : ttl.text.toList = Nat.toDigits 10 ttl.minutes := by
  rw [text, Nat.toString_eq_ofList_toDigits, String.toList_ofList]

theorem isDigit_of_mem_text {ttl : Ttl} {c : Char} (h : c ∈ ttl.text.toList) : Decimal.isDigit c = true := by
  rw [toList_text] at h
  exact Decimal.isDigit_of_mem_toDigits h

theorem text_ne_empty (ttl : Ttl) : ttl.text ≠ "" := by
  intro empty
  have digits := ttl.toList_text
  rw [empty] at digits
  exact Nat.toDigits_ne_nil digits.symm

theorem int?_text (ttl : Ttl) :
    Decimal.int? Decimal.minSigned64 Decimal.maxSigned64 ttl.text = some (ttl.minutes : ℤ) := by
  have bound := ttl.le_max
  unfold maxTtl at bound
  rw [Decimal.int?, toList_text, Decimal.signed?_toDigits]
  refine Option.filter_some_pos ?_
  rw [Bool.and_eq_true, decide_eq_true_iff, decide_eq_true_iff, Decimal.minSigned64, Decimal.maxSigned64]
  omega

theorem text_injective {one two : Ttl} (h : one.text = two.text) : one = two := by
  have minutes := one.int?_text
  rw [h, two.int?_text, Option.some_inj, Nat.cast_inj] at minutes
  cases one
  cases two
  simp only [Ttl.mk.injEq]
  exact minutes.symm

end Ttl

end CheckReport
