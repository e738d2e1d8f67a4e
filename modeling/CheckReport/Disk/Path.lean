/-
Paths.

A path is a sequence of bytes. The file system reads its `names`: what stands between the slashes, and an empty name at
the end if the path ends in a slash. Its `components` are the names that count when paths are measured: a `.` is dropped
unless a relative path starts with it. `parent?` takes the last component off, and `join` puts a path behind a directory
(`join_of_isAbsolute`).
-/
import CheckReport.Text.Utf8

namespace CheckReport

open Text.Utf8 (Bytes)

namespace Disk

/-- what a directory calls one of its entries -/
abbrev Name := Bytes

def slash : UInt8 := 0x2F

/-- the name behind a slash at the end: what stands before it has to be a directory -/
def noName : Name := []

/-- the directory itself -/
def hereName : Name := [0x2E]

/-- the directory above -/
def upName : Name := [0x2E, 0x2E]

end Disk

structure Path where
  bytes : Bytes
  deriving DecidableEq, Repr

namespace Path

open Disk (Name slash noName hereName)

def ofString (s : String) : Path := ⟨Text.Utf8.encode s⟩

/-- the path as messages show it -/
def display (p : Path) : String := Text.Utf8.lossy p.bytes

/-- the path as a text, if it is one -/
def text? (p : Path) : Option String := Text.Utf8.decode? p.bytes

def isEmpty (p : Path) : Bool := p.bytes.isEmpty

def isAbsolute (p : Path) : Bool := p.bytes.head? == some slash

def endsInSlash (p : Path) : Bool := p.bytes.getLast? == some slash

def hasNul (p : Path) : Bool := p.bytes.contains 0

/-- what stands between the separators, empty parts included -/
def splitAtByte (mark : UInt8) : Bytes → List Bytes
  | [] => [[]]
  | b :: bs =>
    if b = mark then [] :: splitAtByte mark bs
    else
      match splitAtByte mark bs with
      | [] => [[b]]
      | part :: parts => (b :: part) :: parts

/-- the nonempty names between the slashes -/
def bareNames (p : Path) : List Name := (splitAtByte slash p.bytes).filter (!·.isEmpty)

/-- the names that a look-up follows one after another -/
def names (p : Path) : List Name :=
  if p.endsInSlash then p.bareNames ++ [noName] else p.bareNames

/-- the names without those that stay in place -/
def components (p : Path) : List Name :=
  match p.isAbsolute, p.bareNames with
  | false, first :: rest => first :: rest.filter (· ≠ hereName)
  | _, all => all.filter (· ≠ hereName)

/-- number of components, the root being one -/
def depth (p : Path) : Nat := p.components.length + (if p.isAbsolute then 1 else 0)

/-- the path of the given names -/
def ofNames (absolute : Bool) (names : List Name) : Path :=
  ⟨(if absolute then [slash] else []) ++ [slash].intercalate names⟩

/-- a part between slashes that stays in place -/
def isIdle (part : Bytes) : Bool := part.isEmpty || part == hereName

/-- the parts up to the last one that does not stay in place -/
def withoutIdleEnd (parts : List Bytes) : List Bytes := (parts.reverse.dropWhile isIdle).reverse

/-- the path without its last component and the idle parts around that; the text before it stays as it is written -/
def parent? (p : Path) : Option Path :=
  let parts := splitAtByte slash p.bytes
  let lead := if parts.head? = some hereName then [hereName] else []
  let body := withoutIdleEnd (if p.isAbsolute then parts.tail else parts.drop lead.length)
  if body.isEmpty then if lead.isEmpty then none else some ⟨[]⟩
  else some (ofNames p.isAbsolute (lead ++ withoutIdleEnd body.dropLast))

/-- the nearest `n` paths above a path, nearest first -/
def above : Nat → Path → List Path
  | 0, _ => []
  | n + 1, p =>
    match p.parent? with
    | none => []
    | some q => q :: above n q

/-- all paths above a path, nearest first -/
def ancestors (p : Path) : List Path := above p.components.length p

/-- the path `q` as seen from the directory `p` -/
def join (p q : Path) : Path :=
  if q.isAbsolute then q
  else if p.isEmpty || p.endsInSlash then ⟨p.bytes ++ q.bytes⟩
  else ⟨p.bytes ++ slash :: q.bytes⟩

theorem join_of_isAbsolute (p q : Path) (h : q.isAbsolute = true) : p.join q = q := by
  simp [join, h]

end Path

end CheckReport
