/-
Blank characters and trimming.

`isBlank` is the Unicode property White_Space. `trim` removes the blanks at both ends of a text and nothing else;
`isBlankText` holds of the texts that `trim` empties (`trimChars_eq_nil_iff`).
-/

namespace CheckReport.Text

/-- the characters with the Unicode property White_Space -/
def isBlank (c : Char) : Bool :=
  let n := c.toNat
  (9 ≤ n && n ≤ 13) || n == 0x20 || n == 0x85 || n == 0xA0 || n == 0x1680 || (0x2000 ≤ n && n ≤ 0x200A) ||
    n == 0x2028 || n == 0x2029 || n == 0x202F || n == 0x205F || n == 0x3000

/-- a text of blanks only (the empty text is one) -/
def isBlankText (s : String) : Bool := s.toList.all isBlank

/-- drop the blanks in front -/
def trimFront (cs : List Char) : List Char := cs.dropWhile isBlank

/-- drop the blanks at both ends -/
def trimChars (cs : List Char) : List Char := (trimFront (trimFront cs).reverse).reverse

/-- drop the blanks at both ends of a text -/
def trim (s : String) : String := String.ofList (trimChars s.toList)

theorem trimFront_eq_nil_iff (cs : List Char) : trimFront cs = [] ↔ cs.all isBlank = true := by
  induction cs with
  | nil => simp [trimFront]
  | cons c cs ih =>
    cases h : isBlank c
    · simp [trimFront, h]
    · rw [trimFront, List.dropWhile_cons_of_pos h, List.all_cons, h, Bool.true_and]
      exact ih

theorem all_isBlank_trimFront (cs : List Char) : (trimFront cs).all isBlank = cs.all isBlank := by
  induction cs with
  | nil => rfl
  | cons c cs ih =>
    cases h : isBlank c
    · simp [trimFront, h]
    · rw [trimFront, List.dropWhile_cons_of_pos h, List.all_cons, h, Bool.true_and]
      exact ih

theorem trimChars_eq_nil_iff (cs : List Char) : trimChars cs = [] ↔ cs.all isBlank = true := by
  rw [trimChars, List.reverse_eq_nil_iff, trimFront_eq_nil_iff, List.all_reverse, all_isBlank_trimFront]

end CheckReport.Text
