/-
Reading TOML documents.

A document is a sequence of statements, one a line: a key with its value, the header of a table, or the header of one
more table of an array. `statements?` reads them, `document?` carries them out. Arrays and braces may be nested, and
keys may have parts, up to a bound.
-/
import CheckReport.Toml.Word

namespace CheckReport.Toml

/-- greatest number of parts of a key, and of arrays and braces around a value -/
def maxDepth : Nat := 79

def isKeyChar (c : Char) : Bool := c.isAlphanum || c = '_' || c = '-'

/-- one part of a key -/
def keyPart? (s : List Char) : Option (Front String s) :=
  match s with
  | [] => none
  | c :: r =>
    if isKeyChar c then
      some ⟨String.ofList (c :: r.takeWhile isKeyChar), r.dropWhile isKeyChar,
        Nat.lt_succ_of_le (length_dropWhile_le isKeyChar r)⟩
    else lineString? (c :: r)

/-- the parts of a key, with blanks around each -/
def keyParts? (s : List Char) : Option (Front (List String) s) :=
  match (keyPart? (skipBlanks s)).map Front.trim with
  | none => none
  | some part =>
    match mark? '.' part.rest with
    | none => some (part.map ([·]) (Nat.le_refl _))
    | some dot => (keyParts? dot.rest).map fun more => part.join List.cons (dot.join (fun _ parts => parts) more)
termination_by s.length
decreasing_by exact Nat.lt_trans dot.shorter part.shorter

/-- a path and the key at its end -/
structure Key where
  path : List String
  last : String
  deriving DecidableEq, Repr

def key? (s : List Char) : Option (Front Key s) :=
  match keyParts? s with
  | none => none
  | some parts =>
    if maxDepth < parts.value.length then none
    else parts.value.getLast?.map fun last => parts.map (fun parts => ⟨parts.dropLast, last⟩) (Nat.le_refl _)

/-- a reader of values -/
abbrev ValueReader := (s : List Char) → Option (Front Value s)

/-- the rest of an array, behind its bracket or a comma -/
def items? (value? : ValueReader) (s : List Char) : Option (Front (List Value) s) :=
  match behindLines? (mark? ']') s with
  | some closing => some (closing.map (fun _ => []) (Nat.le_refl _))
  | none =>
    match (behindLines? value? s).bind Front.skipLines? with
    | none => none
    | some item =>
      match mark? ',' item.rest with
      | some comma =>
        (items? value? comma.rest).map fun more => item.join List.cons (comma.join (fun _ items => items) more)
      | none => (mark? ']' item.rest).map fun closing => item.join (fun item _ => [item]) closing
termination_by s.length
decreasing_by exact Nat.lt_trans comma.shorter item.shorter

/-- a key with its value, up to the value's end -/
def assignment? (value? : ValueReader) (s : List Char) : Option (Front (Key × Value) s) :=
  match key? s with
  | none => none
  | some key =>
    match mark? '=' key.rest with
    | none => none
    | some equals =>
      (value? (skipBlanks equals.rest)).map fun value =>
        key.join Prod.mk (equals.join (fun _ value => value) (value.map id (length_skipBlanks_le equals.rest)))

/-- the rest of a table between braces, behind its brace or a comma -/
def members? (value? : ValueReader) (members : Members) (s : List Char) : Option (Front Members s) :=
  match (assignment? value? s).map fun front => front.skipBlanks with
  | none => none
  | some front =>
    match members.assign front.value.1.path front.value.1.last front.value.2 with
    | none => none
    | some members =>
      match mark? ',' front.rest with
      | some comma =>
        (members? value? members comma.rest).map fun all =>
          front.join (fun _ all => all) (comma.join (fun _ all => all) all)
      | none => (mark? '}' front.rest).map fun closing => front.join (fun _ _ => members) closing
termination_by s.length
decreasing_by exact Nat.lt_trans comma.shorter front.shorter

/-- a value inside which at most `depth` arrays and braces are nested -/
def value? (depth : Nat) (s : List Char) : Option (Front Value s) :=
  match s with
  | [] => none
  | c :: r =>
    if c = '"' || c = '\'' then (string? (c :: r)).map fun front => front.map .text (Nat.le_refl _)
    else if c = '[' then
      match depth with
      | 0 => none
      | depth + 1 => (items? (value? depth) r).map fun front => front.after .array c
    else if c = '{' then
      match depth with
      | 0 => none
      | depth + 1 =>
        match mark? '}' (skipBlanks r) with
        | some closing =>
          some (closing.map (fun _ => .table .inlined []) (Nat.le_succ_of_le (length_skipBlanks_le r)))
        | none => (members? (value? depth) [] r).map fun front => front.after (.table .inlined) c
    else Word.read? (c :: r)

/-- what one line says -/
inductive Statement where
  | assign (key : Key) (value : Value)
  | openTable (key : Key)
  | openArray (key : Key)

/-- a key between brackets, behind the opening one -/
def header? (s : List Char) : Option (Front Key s) :=
  match key? s with
  | none => none
  | some key => (mark? ']' key.rest).map fun closing => key.join (fun key _ => key) closing

/-- one statement; `s` begins with it -/
def statement? (s : List Char) : Option (Front Statement s) :=
  match s with
  | '[' :: '[' :: r =>
    match header? r with
    | none => none
    | some key =>
      (mark? ']' key.rest).map fun closing =>
        ((key.join (fun key _ => .openArray key) closing).after id '[').after id '['
  | '[' :: r => (header? r).map fun key => key.after .openTable '['
  | s =>
    (assignment? (value? maxDepth) s).map fun front =>
      front.map (fun (key, value) => .assign key value) (Nat.le_refl _)

/-- the statements of a document, in order -/
def statements? (s : List Char) : Option (List Statement) :=
  match h : skipLines false s with
  | none => none
  | some [] => some []
  | some (c :: r) =>
    have := length_skipLines_le false h
    match (statement? (c :: r)).bind Front.closeLine? with
    | none => none
    | some front => (statements? front.rest).map (front.value :: ·)
termination_by s.length
decreasing_by exact Nat.lt_of_lt_of_le front.shorter ‹_›

/-- carry out statements; `address` is the path of the last header -/
def carryOut (address : List String) (members : Members) : List Statement → Option Members
  | [] => some members
  | .assign key value :: rest =>
    match members.assignUnder address key.path key.last value with
    | some members => carryOut address members rest
    | none => none
  | .openTable key :: rest =>
    match members.openTable key.path key.last with
    | some members => carryOut (key.path ++ [key.last]) members rest
    | none => none
  | .openArray key :: rest =>
    match members.openArray key.path key.last with
    | some members => carryOut (key.path ++ [key.last]) members rest
    | none => none

/-- the mark that may stand in front of a document -/
def byteOrderMark : Char := Char.ofNat 0xFEFF

def skipMark : List Char → List Char
  | [] => []
  | c :: r => if c = byteOrderMark then r else c :: r

/-- the table that a document writes -/
def document? (text : String) : Option Members :=
  match statements? (skipMark text.toList) with
  | some statements => carryOut [] [] statements
  | none => none

end CheckReport.Toml
