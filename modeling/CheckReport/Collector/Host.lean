/-
Hosts that run programs.

A host is a disk, the paths that its surroundings name, and the programs that lie on the disk. It keeps a list of the
programs that were started. `find?` looks for a program file by its name.
-/
import CheckReport.Disk.Operations

namespace CheckReport

open Disk (Location)
open Text.Utf8 (Bytes)

/-- how a run of a program goes: it ends by itself with a code, is ended by a signal, or goes on for ever -/
inductive Ending where
  | exited (code : Nat)
  | killed
  | running
  deriving DecidableEq, Repr

/-- what a run prints and how it goes -/
structure Response where
  stdout : Bytes
  stderr : Bytes
  ending : Ending
  deriving DecidableEq, Repr

/-- what a program does when it is started, given the disk, the number of earlier launches on the host and the
arguments, or the fault for which it does not start -/
abbrev Program := Disk → Nat → List Bytes → Except Disk.Fault Response

/-- a program that was started -/
structure Launch where
  location : Location
  arguments : List Bytes
  ending : Ending
  deriving DecidableEq, Repr

structure Host where
  disk : Disk
  /-- the user's home directory -/
  home : Option Path
  /-- the directories to look for programs in, divided by colons -/
  searchPath : Bytes
  /-- the programs among the files of the disk -/
  program? : Location → Option Program
  /-- first launch first -/
  launches : List Launch

namespace Host

/-- a host with nothing on its disk but the root directory -/
def bare : Host :=
  let root : Disk.Node := ⟨.directory, .newDirectory, ⟨0, 0⟩, ⟨0⟩⟩
  ⟨⟨⟨some root, .empty⟩, [], ⟨0, 0⟩, ⟨0⟩⟩, none, [], fun _ => none, []⟩

def colon : UInt8 := 0x3A

def searchEntries (host : Host) : List Path := (Path.splitAtByte colon host.searchPath).map fun bytes => ⟨bytes⟩

/-- the home directory in place of a leading `~` -/
def expandHome (host : Host) (dir : Path) : Path :=
  if !dir.isAbsolute && dir.components.head? = some [0x7E] then
    dir.components.tail.foldl (fun path name => path.join ⟨name⟩) (host.home.getD ⟨[]⟩)
  else dir

/-- where a program of this name may lie: a name with a directory counts from the working directory, any other is sought
in the search path -/
def candidates (host : Host) (name : Path) : List Path :=
  if 1 < name.depth then [host.disk.workingPath.join name]
  else host.searchEntries.map fun dir => (host.expandHome dir).join name

/-- the first candidate that is an executable file -/
def find? (host : Host) (name : Path) : Option Path := (host.candidates name).find? host.disk.isExecutable

end Host

end CheckReport
