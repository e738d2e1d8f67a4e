/-
Nodes of a file tree.

A node is a file, a directory, a symbolic link or a device, with an owner, a mode and the time of its last change. What
a user may do with it is decided by one class of the mode: the owner's, the group's or that of the others.
-/
import CheckReport.Disk.Path
import CheckReport.Time.Instant

namespace CheckReport.Disk

open Text.Utf8 (Bytes)

/-- what one class of users may do -/
structure Rights where
  read : Bool
  write : Bool
  execute : Bool
  deriving DecidableEq, Repr

/-- the rights of a three-bit number -/
def Rights.ofBits (n : Nat) : Rights := ⟨n.testBit 2, n.testBit 1, n.testBit 0⟩

structure Mode where
  owner : Rights
  group : Rights
  other : Rights
  deriving DecidableEq, Repr

/-- the mode of a nine-bit number, the owner's bits highest -/
def Mode.ofBits (n : Nat) : Mode := ⟨.ofBits (n / 64), .ofBits (n / 8), .ofBits n⟩

/-- mode of a new file: the owner writes, all read -/
def Mode.newFile : Mode := .ofBits 0o644

/-- mode of a new directory: the owner writes, all read and search -/
def Mode.newDirectory : Mode := .ofBits 0o755

structure User where
  id : Nat
  group : Nat
  deriving DecidableEq, Repr

/-- a device that takes every byte or refuses every byte -/
inductive Device where
  | null
  | full
  deriving DecidableEq, Repr

inductive Content where
  | file (data : Bytes)
  | directory
  | link (target : Path)
  | device (kind : Device)
  deriving DecidableEq, Repr

structure Node where
  content : Content
  mode : Mode
  owner : User
  modified : Time.Instant
  deriving DecidableEq, Repr

namespace Node

/-- the rights of a user: the first class that holds the user decides, whatever the others grant -/
def rights (node : Node) (user : User) : Rights :=
  if user.id = node.owner.id then node.mode.owner
  else if user.group = node.owner.group then node.mode.group
  else node.mode.other

def isFile (node : Node) : Bool :=
  match node.content with
  | .file _ => true
  | _ => false

def isDirectory (node : Node) : Bool := node.content == .directory

end Node

end CheckReport.Disk
