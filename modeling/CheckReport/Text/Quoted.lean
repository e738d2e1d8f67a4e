/-
Quoted text.

`quoted` writes a text on one line between double quotes: the two quoting characters, NUL, tab and the line marks get
a backslash, every other character that is not visible becomes its code point in hexadecimal, and the rest stays.
-/
import CheckReport.Text.Visible

namespace CheckReport.Text

/-- a code point written in lower-case hexadecimal -/
def hexOf (n : Nat) : List Char := Nat.toDigits 16 n

/-- how a quoted text shows one character -/
def quotedChar (c : Char) : List Char :=
  if c = Char.ofNat 0 then ['\\', '0']
  else if c = '\t' then ['\\', 't']
  else if c = '\r' then ['\\', 'r']
  else if c = '\n' then ['\\', 'n']
  else if c = '\\' then ['\\', '\\']
  else if c = '"' then ['\\', '"']
  else if isVisible c then [c]
  else ['\\', 'u', '\x7b'] ++ hexOf c.toNat ++ ['\x7d']

def quotedChars (cs : List Char) : List Char := '"' :: (cs.flatMap quotedChar ++ ['"'])

/-- the text between double quotes, on one line -/
def quoted (s : String) : String := String.ofList (quotedChars s.toList)

end CheckReport.Text
