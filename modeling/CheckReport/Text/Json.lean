/-
JSON objects, printed over several lines.

A report is an object whose members are texts, counts and lists of texts. `Object.render` writes the members in their
order, one per line and two spaces deep, list items one per line and four spaces deep.
-/
import CheckReport.Text.Quoted

namespace CheckReport.Text.Json

/-- value of one member -/
inductive Member where
  | text (s : String)
  | count (n : Nat)
  | texts (items : List String)
  deriving DecidableEq, Repr

/-- members in the order in which they are written -/
abbrev Object := List (String × Member)

def hex4 (n : Nat) : List Char :=
  let digits := hexOf n
  List.replicate (4 - digits.length) '0' ++ digits

/-- how a JSON string shows one character: only the quoting characters and the controls below U+0020 are escaped -/
def escapeChar (c : Char) : List Char :=
  if c = '"' then ['\\', '"']
  else if c = '\\' then ['\\', '\\']
  else if c = '\n' then ['\\', 'n']
  else if c = '\r' then ['\\', 'r']
  else if c = '\t' then ['\\', 't']
  else if c.toNat = 8 then ['\\', 'b']
  else if c.toNat = 12 then ['\\', 'f']
  else if c.toNat < 0x20 then ['\\', 'u'] ++ hex4 c.toNat
  else [c]

/-- a JSON string -/
def string (s : String) : String := String.ofList ('"' :: (s.toList.flatMap escapeChar ++ ['"']))

def Member.render : Member → String
  | .text s => string s
  | .count n => toString n
  | .texts [] => "[]"
  | .texts items => "[\n    " ++ ",\n    ".intercalate (items.map string) ++ "\n  ]"

/-- the object over several lines -/
def Object.render (members : Object) : String :=
  let lines := members.map fun (name, member) => "  " ++ string name ++ ": " ++ member.render
  "\x7b\n" ++ ",\n".intercalate lines ++ "\n\x7d"

end CheckReport.Text.Json
