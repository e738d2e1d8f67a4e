/-
TOML values.

A document is a table: a list of members in the order in which their keys appear first. A table remembers where it comes
from, because that decides what a later line may add to it (`Members.assign`, `Members.openTable`,
`Members.openArray`). Every key is given once.
-/

namespace CheckReport.Toml

/-- where a table comes from -/
inductive Origin where
  /-- written between braces -/
  | inlined
  /-- named by a header, or an element of an array of tables, or the document -/
  | header
  /-- passed by on the way to what a header names -/
  | implied
  /-- passed by on the way to what a dotted key names -/
  | dotted
  deriving DecidableEq, Repr

inductive Value where
  | text (s : String)
  | integer (n : Int)
  | real (written : String)
  | boolean (b : Bool)
  | moment (written : String)
  | array (items : List Value)
  | tables (items : List (List (String × Value)))
  | table (origin : Origin) (members : List (String × Value))

/-! Values are compared by recursion; what is inside a value comes in lists of three kinds. -/

namespace Value

mutual

def decEq (one other : Value) : Decidable (one = other) :=
  match one with
  | .text s => match other with
    | .text t => decidable_of_decidable_of_iff (p := s = t) (by simp)
    | .integer _ | .real _ | .boolean _ | .moment _ | .array _ | .tables _ | .table _ _ => .isFalse nofun
  | .integer m => match other with
    | .integer n => decidable_of_decidable_of_iff (p := m = n) (by simp)
    | .text _ | .real _ | .boolean _ | .moment _ | .array _ | .tables _ | .table _ _ => .isFalse nofun
  | .real s => match other with
    | .real t => decidable_of_decidable_of_iff (p := s = t) (by simp)
    | .text _ | .integer _ | .boolean _ | .moment _ | .array _ | .tables _ | .table _ _ => .isFalse nofun
  | .boolean a => match other with
    | .boolean b => decidable_of_decidable_of_iff (p := a = b) (by simp)
    | .text _ | .integer _ | .real _ | .moment _ | .array _ | .tables _ | .table _ _ => .isFalse nofun
  | .moment s => match other with
    | .moment t => decidable_of_decidable_of_iff (p := s = t) (by simp)
    | .text _ | .integer _ | .real _ | .boolean _ | .array _ | .tables _ | .table _ _ => .isFalse nofun
  | .array items => match other with
    | .array others => match decEqItems items others with
      | .isTrue h => .isTrue (by rw [h])
      | .isFalse h => .isFalse (by simpa using h)
    | .text _ | .integer _ | .real _ | .boolean _ | .moment _ | .tables _ | .table _ _ => .isFalse nofun
  | .tables items => match other with
    | .tables others => match decEqTables items others with
      | .isTrue h => .isTrue (by rw [h])
      | .isFalse h => .isFalse (by simpa using h)
    | .text _ | .integer _ | .real _ | .boolean _ | .moment _ | .array _ | .table _ _ => .isFalse nofun
  | .table origin members => match other with
    | .table origin' members' => match decEqMembers members members' with
      | .isTrue h => decidable_of_decidable_of_iff (p := origin = origin') (by simp [h])
      | .isFalse h => .isFalse (by simp [h])
    | .text _ | .integer _ | .real _ | .boolean _ | .moment _ | .array _ | .tables _ => .isFalse nofun

def decEqItems : (items others : List Value) → Decidable (items = others)
  | [], [] => .isTrue rfl
  | [], _ :: _ => .isFalse nofun
  | _ :: _, [] => .isFalse nofun
  | x :: xs, y :: ys => match decEq x y, decEqItems xs ys with
    | .isTrue h, .isTrue h' => .isTrue (by rw [h, h'])
    | .isFalse h, _ => .isFalse (by simp [h])
    | _, .isFalse h => .isFalse (by simp [h])

def decEqMembers : (members others : List (String × Value)) → Decidable (members = others)
  | [], [] => .isTrue rfl
  | [], _ :: _ => .isFalse nofun
  | _ :: _, [] => .isFalse nofun
  | (key, x) :: xs, (key', y) :: ys => match decEq x y, decEqMembers xs ys with
    | .isTrue h, .isTrue h' => decidable_of_decidable_of_iff (p := key = key') (by simp [h, h'])
    | .isFalse h, _ => .isFalse (by simp [h])
    | _, .isFalse h => .isFalse (by simp [h])

def decEqTables : (tables others : List (List (String × Value))) → Decidable (tables = others)
  | [], [] => .isTrue rfl
  | [], _ :: _ => .isFalse nofun
  | _ :: _, [] => .isFalse nofun
  | x :: xs, y :: ys => match decEqMembers x y, decEqTables xs ys with
    | .isTrue h, .isTrue h' => .isTrue (by rw [h, h'])
    | .isFalse h, _ => .isFalse (by simp [h])
    | _, .isFalse h => .isFalse (by simp [h])

end

instance : DecidableEq Value := decEq

end Value

/-- the members of a table, by key -/
abbrev Members := List (String × Value)

namespace Members

/-- put a value in place of the one that the key has -/
def replace (members : Members) (key : String) (value : Value) : Members :=
  members.map fun member => if member.1 = key then (key, value) else member

/-- what a path is the path of -/
inductive Way where
  | ofHeader
  | ofKey
  deriving DecidableEq, Repr

/-- origin of the tables that a path passes by and makes -/
def Way.makes : Way → Origin
  | .ofHeader => .implied
  | .ofKey => .dotted

/-- whether a path may pass through a table: a header through every one that is not closed by its braces, a dotted key
only through those that no header names -/
def Way.enters (origin : Origin) : Way → Bool
  | .ofHeader => origin ≠ .inlined
  | .ofKey => origin = .implied || origin = .dotted

/-- change the table at the end of a path, making those that are missing; an array of tables stands for its last one -/
def change (way : Way) (edit : Origin → Members → Option Members) (origin : Origin) (members : Members) :
    List String → Option Members
  | [] => edit origin members
  | key :: path =>
    match members.lookup key with
    | none =>
      match change way edit way.makes [] path with
      | some inner => some (members ++ [(key, .table way.makes inner)])
      | none => none
    | some (.table there inner) =>
      if !way.enters there then none
      else
        match change way edit there inner path with
        | some inner => some (members.replace key (.table there inner))
        | none => none
    | some (.tables items) =>
      match change way edit .header (items.getLast?.getD []) path with
      | some inner => some (members.replace key (.tables (items.dropLast ++ [inner])))
      | none => none
    | some _ => none

/-- give a key its value; a dotted key may only end in a table that dotted keys made -/
def assign (path : List String) (key : String) (value : Value) (members : Members) : Option Members :=
  let edit (origin : Origin) (inner : Members) : Option Members :=
    if origin ≠ .dotted && !path.isEmpty then none
    else if (inner.lookup key).isSome then none
    else some (inner ++ [(key, value)])
  change .ofKey edit .header members path

/-- begin the table that a header names: it is new, or a header passed it by before -/
def openTable (path : List String) (key : String) (members : Members) : Option Members :=
  let edit (_ : Origin) (inner : Members) : Option Members :=
    match inner.lookup key with
    | none => some (inner ++ [(key, .table .header [])])
    | some (.table .implied there) => some (inner.replace key (.table .header there))
    | some _ => none
  change .ofHeader edit .header members path

/-- begin one more table of the array of tables that a header names -/
def openArray (path : List String) (key : String) (members : Members) : Option Members :=
  let edit (_ : Origin) (inner : Members) : Option Members :=
    match inner.lookup key with
    | none => some (inner ++ [(key, .tables [[]])])
    | some (.tables items) => some (inner.replace key (.tables (items ++ [[]])))
    | some _ => none
  change .ofHeader edit .header members path

/-- give a key its value in the table that the last header named -/
def assignUnder (address path : List String) (key : String) (value : Value) (members : Members) : Option Members :=
  change .ofHeader (fun _ inner => assign path key value inner) .header members address

end Members

end CheckReport.Toml
