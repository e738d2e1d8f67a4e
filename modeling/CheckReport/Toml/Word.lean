/-
Bare TOML values.

A value without quotes and brackets is one word: a boolean, an integer, a real number, or a date, a time or both.
Integers fit into 64 bits with sign; a real number may not round to positive infinity unless it is written as infinity.
-/
import CheckReport.Decimal.Integer
import CheckReport.Decimal.Power
import CheckReport.Toml.Quoted
import CheckReport.Toml.Value

namespace CheckReport.Toml.Word

open Decimal (isDigit powerOfTen powerOfTwo valueOf)

/-- a character of a bare value -/
def isWordChar (c : Char) : Bool :=
  c.isAlphanum || c = '+' || c = '-' || c = '_' || c = '.' || c = ':'

/-- the digits of a group, between which single underscores may stand -/
def group? (ok : Char → Bool) : List Char → Option (List Char)
  | [] => none
  | [c] => if ok c then some [c] else none
  | c :: '_' :: r => if ok c then (group? ok r).map (c :: ·) else none
  | c :: r => if ok c then (group? ok r).map (c :: ·) else none

/-- the digits of a decimal integer without sign: no zero in front -/
def whole? (cs : List Char) : Option (List Char) :=
  match cs with
  | ['0'] => some cs
  | '0' :: _ => none
  | _ => group? isDigit cs

def withSign : List Char → Bool × List Char
  | '-' :: r => (true, r)
  | '+' :: r => (false, r)
  | r => (false, r)

def isHexDigit (c : Char) : Bool := (hexValue? c).isSome

def isOctalDigit (c : Char) : Bool := '0' ≤ c && c ≤ '7'

def isBinaryDigit (c : Char) : Bool := c = '0' || c = '1'

/-- the number that digits write in a base up to sixteen -/
def inBase (base : Nat) (digits : List Char) : Nat :=
  digits.foldl (fun n c => base * n + (hexValue? c).getD 0) 0

/-- an integer of any size -/
def unbounded? (word : List Char) : Option Int :=
  match word with
  | '0' :: 'x' :: r => (group? isHexDigit r).map fun digits => (inBase 16 digits : Int)
  | '0' :: 'o' :: r => (group? isOctalDigit r).map fun digits => (inBase 8 digits : Int)
  | '0' :: 'b' :: r => (group? isBinaryDigit r).map fun digits => (inBase 2 digits : Int)
  | _ =>
    let (negative, digits) := withSign word
    (whole? digits).map fun digits => if negative then -(valueOf digits : Int) else (valueOf digits : Int)

def integer? (word : List Char) : Option Int :=
  (unbounded? word).filter fun n => Decimal.minSigned64 ≤ n && n ≤ Decimal.maxSigned64

/-- whether `n * 10 ^ e` rounds to infinity in binary64 -/
def overflows (n : Nat) (e : Int) : Bool :=
  let bound := powerOfTwo 1024 - powerOfTwo 970
  let places := (Nat.toDigits 10 n).length
  if n = 0 then false
  else if 400 < (places : Int) + e then true
  else if (places : Int) + e < 300 then false
  else if 0 ≤ e then bound ≤ n * powerOfTen e.toNat
  else bound * powerOfTen (-e).toNat ≤ n

/-- the exponent behind a letter e -/
def exponent? (cs : List Char) : Option Int :=
  let (negative, digits) := withSign cs
  (group? isDigit digits).map fun digits => if negative then -(valueOf digits : Int) else (valueOf digits : Int)

/-- digits of the fraction, and the exponent, of what follows the whole part of a real number -/
def fraction? : List Char → Option (List Char × Int)
  | '.' :: r =>
    let isTail (c : Char) : Bool := c = 'e' || c = 'E'
    match group? isDigit (r.takeWhile (!isTail ·)), r.dropWhile (!isTail ·) with
    | some digits, [] => some (digits, 0)
    | some digits, _ :: e => (exponent? e).map fun e => (digits, e)
    | none, _ => none
  | c :: r => if c = 'e' || c = 'E' then (exponent? r).map fun e => ([], e) else none
  | [] => none

/-- a real number -/
def isReal (word : List Char) : Bool :=
  let (negative, rest) := withSign word
  if rest = ['i', 'n', 'f'] || rest = ['n', 'a', 'n'] then true
  else
    let inWhole (c : Char) : Bool := isDigit c || c = '_'
    match whole? (rest.takeWhile inWhole), fraction? (rest.dropWhile inWhole) with
    | some digits, some (decimals, e) =>
      negative || !overflows (valueOf (digits ++ decimals)) (e - decimals.length)
    | _, _ => false

/-- the value of two digits, if it lies within bounds -/
def pair? (least greatest : Nat) (a b : Char) : Option Nat :=
  if isDigit a && isDigit b then (some (valueOf [a, b])).filter fun n => least ≤ n && n ≤ greatest else none

def daysIn (year month : Nat) : Nat :=
  if month = 2 then (if (year % 4 = 0 && year % 100 ≠ 0) || year % 400 = 0 then 29 else 28)
  else if month = 4 || month = 6 || month = 9 || month = 11 then 30
  else 31

def isDate : List Char → Bool
  | [y1, y2, y3, y4, '-', m1, m2, '-', d1, d2] =>
    [y1, y2, y3, y4].all isDigit &&
      match pair? 1 12 m1 m2 with
      | some month => (pair? 1 (daysIn (valueOf [y1, y2, y3, y4]) month) d1 d2).isSome
      | none => false
  | _ => false

/-- an offset from universal time -/
def isOffset : List Char → Bool
  | ['Z'] => true
  | ['z'] => true
  | [sign, h1, h2, ':', m1, m2] =>
    (sign = '+' || sign = '-') && (pair? 0 23 h1 h2).isSome && (pair? 0 59 m1 m2).isSome
  | _ => false

/-- a time of day, with an offset if `offset` holds and one is written -/
def isTime (offset : Bool) : List Char → Bool
  | h1 :: h2 :: ':' :: m1 :: m2 :: ':' :: s1 :: s2 :: r =>
    let ended (r : List Char) : Bool := r.isEmpty || (offset && isOffset r)
    (pair? 0 23 h1 h2).isSome && (pair? 0 59 m1 m2).isSome && (pair? 0 60 s1 s2).isSome &&
      match r with
      | '.' :: d :: r => isDigit d && ended (r.dropWhile isDigit)
      | r => ended r
  | _ => false

def isMoment (word : List Char) : Bool :=
  isTime false word ||
    (isDate (word.take 10) &&
      match word.drop 10 with
      | [] => true
      | c :: time => (c = 'T' || c = 't') && isTime true time)

/-- the value that a word writes -/
def value? (word : List Char) : Option Value :=
  if word = ['t', 'r', 'u', 'e'] then some (.boolean true)
  else if word = ['f', 'a', 'l', 's', 'e'] then some (.boolean false)
  else if isMoment word then some (.moment (String.ofList word))
  else
    match integer? word with
    | some n => some (.integer n)
    | none => if isReal word then some (.real (String.ofList word)) else none

/-- a date with a time of day behind a space -/
def spaced? (word rest : List Char) : Option (List Char) :=
  match rest with
  | ' ' :: d :: r =>
    if isDate word && isDigit d then some (d :: r.takeWhile isWordChar) else none
  | _ => none

/-- a bare value; `s` begins with it -/
def read? (s : List Char) : Option (Front Value s) :=
  match s with
  | [] => none
  | c :: r =>
    if !isWordChar c then none
    else
      let word := c :: r.takeWhile isWordChar
      let rest := r.dropWhile isWordChar
      have fits : rest.length ≤ r.length := length_dropWhile_le isWordChar r
      match spaced? word rest with
      | none => (value? word).map fun value => ⟨value, rest, Nat.lt_succ_of_le fits⟩
      | some time =>
        if isTime true time then
          some ⟨.moment (String.ofList (word ++ ' ' :: time)), rest.drop (time.length + 1),
            Nat.lt_succ_of_le (Nat.le_trans (length_drop_le _ rest) fits)⟩
        else none

end CheckReport.Toml.Word
