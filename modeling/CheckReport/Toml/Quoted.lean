/-
Quoted TOML strings.

A string stands between one quote or three on each side. Between double quotes a backslash starts an escape; between
apostrophes every character stands for itself. A string between three quotes may run over several lines: a line end
counts as a line feed, the one right behind the opening is dropped, and so is one behind a backslash together with the
blanks and line ends that follow it. A string that needs no escape is written between double quotes on one line.
-/
import CheckReport.Toml.Front

namespace CheckReport.Toml

/-- a character that needs no escape wherever strings are concerned: a tab or one that is not a control -/
def isPlain (c : Char) : Bool := c = '\t' || (0x20 ≤ c.toNat && c.toNat ≠ 0x7F)

def hexValue? (c : Char) : Option Nat :=
  if '0' ≤ c && c ≤ '9' then some (c.toNat - '0'.toNat)
  else if 'a' ≤ c && c ≤ 'f' then some (c.toNat - 'a'.toNat + 10)
  else if 'A' ≤ c && c ≤ 'F' then some (c.toNat - 'A'.toNat + 10)
  else none

/-- the number that hexadecimal digits write -/
def hexNumber? (digits : List Char) : Option Nat :=
  digits.foldl (fun n c => match n, hexValue? c with
    | some n, some d => some (16 * n + d)
    | _, _ => none) (some 0)

/-- the character with a hexadecimal number -/
def hexChar? (digits : List Char) : Option Char :=
  match hexNumber? digits with
  | some n => if n.isValidChar then some (Char.ofNat n) else none
  | none => none

/-- what an escape of one letter stands for -/
def letterEscape? : Char → Option Char
  | 'b' => some (Char.ofNat 8)
  | 't' => some '\t'
  | 'n' => some '\n'
  | 'f' => some (Char.ofNat 12)
  | 'r' => some '\r'
  | '"' => some '"'
  | '\\' => some '\\'
  | _ => none

/-- the character whose number `count` hexadecimal digits behind `c` write -/
def hexEscape? (count : Nat) (c : Char) (r : List Char) : Option (Front Char (c :: r)) :=
  if (r.take count).length = count then
    (hexChar? (r.take count)).map fun x => ⟨x, r.drop count, Nat.lt_succ_of_le (length_drop_le count r)⟩
  else none

/-- the character that an escape stands for; `s` begins behind the backslash -/
def escape? : (s : List Char) → Option (Front Char s)
  | [] => none
  | c :: r =>
    if c = 'u' then hexEscape? 4 c r
    else if c = 'U' then hexEscape? 8 c r
    else (letterEscape? c).map fun x => .head x c r

/-- the rest of a string on one line, up to its closing quote -/
def lineBody (quote : Char) (s : List Char) : Option (Front (List Char) s) :=
  match s with
  | [] => none
  | c :: r =>
    if c = quote then some (.head [] c r)
    else if c = '\\' && quote = '"' then
      match escape? r with
      | none => none
      | some front => (lineBody quote front.rest).map fun body => (front.join List.cons body).after id c
    else if isPlain c then (lineBody quote r).map fun body => body.after (c :: ·) c
    else none
termination_by s.length
decreasing_by
  · exact front.rest_lt_cons c
  · exact Nat.lt_succ_self _

/-- the text behind a line-ending backslash and the blanks and line ends after it; nothing if no line ends there -/
def foldLine? (ended : Bool) : List Char → Option (List Char)
  | [] => if ended then some [] else none
  | '\n' :: r => foldLine? true r
  | '\r' :: '\n' :: r => foldLine? true r
  | c :: r => if isInlineBlank c then foldLine? ended r else if ended then some (c :: r) else none

theorem length_foldLine?_le {s r : List Char} (ended : Bool) (h : foldLine? ended s = some r) :
    r.length ≤ s.length := by
  fun_induction foldLine? ended s <;> grind

/-- the rest of a string over several lines: of a run of three to five quotes the last three close it -/
def linesBody (quote : Char) (s : List Char) : Option (Front (List Char) s) :=
  match s with
  | [] => none
  | c :: r =>
    if c = quote && r.take 2 = [quote, quote] then
      let more := (r.drop 2).take 2 |>.takeWhile (· = quote)
      some ⟨more, r.drop (2 + more.length), Nat.lt_succ_of_le (length_drop_le _ r)⟩
    else if c = '\\' && quote = '"' then
      match hf : foldLine? false r with
      | some behind =>
        (linesBody quote behind).map fun body =>
          body.map id (Nat.le_succ_of_le (length_foldLine?_le false hf))
      | none =>
        match escape? r with
        | none => none
        | some front => (linesBody quote front.rest).map fun body => (front.join List.cons body).after id c
    else if c = '\n' then (linesBody quote r).map fun body => body.after ('\n' :: ·) c
    else if c = '\r' then
      match r with
      | '\n' :: r' => (linesBody quote r').map fun body => (body.after ('\n' :: ·) '\n').after id c
      | _ => none
    else if isPlain c then (linesBody quote r).map fun body => body.after (c :: ·) c
    else none
termination_by s.length
decreasing_by
  · exact Nat.lt_succ_of_le (length_foldLine?_le false hf)
  · exact front.rest_lt_cons c
  · exact Nat.lt_succ_self _
  · exact Nat.lt_succ_of_lt (Nat.lt_succ_self _)
  · exact Nat.lt_succ_self _

/-- the text without a line end in front -/
def dropLineEnd : List Char → List Char
  | '\n' :: r => r
  | '\r' :: '\n' :: r => r
  | r => r

theorem length_dropLineEnd_le (s : List Char) : (dropLineEnd s).length ≤ s.length := by
  unfold dropLineEnd
  split <;> grind

/-- a string on one line; `s` begins with its quote -/
def lineString? (s : List Char) : Option (Front String s) :=
  match s with
  | '"' :: r => (lineBody '"' r).map fun body => body.after String.ofList '"'
  | '\'' :: r => (lineBody '\'' r).map fun body => body.after String.ofList '\''
  | _ => none

/-- a string of either kind; `s` begins with its quote -/
def string? (s : List Char) : Option (Front String s) :=
  match s with
  | '"' :: '"' :: '"' :: r =>
    (linesBody '"' (dropLineEnd r)).map fun body =>
      body.map String.ofList (Nat.le_trans (length_dropLineEnd_le r) (Nat.le_add_right r.length 3))
  | '\'' :: '\'' :: '\'' :: r =>
    (linesBody '\'' (dropLineEnd r)).map fun body =>
      body.map String.ofList (Nat.le_trans (length_dropLineEnd_le r) (Nat.le_add_right r.length 3))
  | s => lineString? s

/-! ## Writing -/

/-- a character that is written as it is between double quotes -/
def isLiteral (c : Char) : Bool := 0x20 ≤ c.toNat && c.toNat ≠ 0x7F && c ≠ '"' && c ≠ '\\'

/-- a string between double quotes, if all of its characters are written as they are -/
def quoted? (s : String) : Option String := if s.toList.all isLiteral then some ("\"" ++ s ++ "\"") else none

/-- an array of such strings: one stands beside its brackets, several stand on lines of their own -/
def array? (strings : List String) : Option String :=
  match strings.mapM quoted? with
  | none => none
  | some [] => some "[]"
  | some [item] => some ("[" ++ item ++ "]")
  | some items => some ("[\n" ++ String.join (items.map fun item => "    " ++ item ++ ",\n") ++ "]")

end CheckReport.Toml
