/-
Sweeping orphaned records.

A record that was never submitted stays in its directory. A sweep takes away the records of a directory whose last
change lies at least a given span back. It looks at regular files with a record's name only; a record that it cannot
look at or take away is logged and counted, and one that vanishes meanwhile is passed over. The list of a directory may
break off: the sweep then fails, with the records gone that it has taken away before.
-/
import CheckReport.Disk.Operations
import CheckReport.Error
import CheckReport.Log

namespace CheckReport.Sweep

open Disk (Name)

/-- how the name of a record ends -/
def recordSuffix : Name := Text.Utf8.encode ".snff"

/-- a nonempty name in front of the ending of records -/
def isRecord (name : Name) : Bool := recordSuffix.isSuffixOf name && recordSuffix.length < name.length

/-- what a sweep sees of an entry -/
structure Sight where
  isFile : Bool
  modified : Time.Instant
  deriving DecidableEq, Repr

/-- what a directory tells of its entries, one after another: their names, and the fault that broke off the list, if one
did -/
structure Listing where
  names : List Name
  fault? : Option Disk.Fault
  deriving DecidableEq, Repr

/-- a list that was told to its end -/
def Listing.whole (names : List Name) : Listing := ⟨names, none⟩

/-- the directory that is swept -/
structure Directory (σ : Type) where
  list : σ → Except Disk.Fault Listing
  inspect : Name → σ → Except Disk.Fault Sight
  remove : Name → σ → Except Disk.Fault Unit × σ

/-- what becomes of a record -/
inductive Fate where
  /-- no regular file, or gone -/
  | skipped
  | kept
  | removed
  | failed
  deriving DecidableEq, Repr

/-- old enough to be taken away -/
def expired (now : Time.Instant) (maxAge : Time.Span) (modified : Time.Instant) : Bool :=
  maxAge.nanos ≤ (now.since modified).nanos

/-- when the record that is seen was last changed; nothing if it is no regular file or is gone -/
def changed? : Except Disk.Fault Sight → Except Error (Option Time.Instant)
  | .ok sight => .ok (if sight.isFile then some sight.modified else none)
  | .error .notFound => .ok none
  | .error fault => .error (.file fault)

/-- whether the attempt to remove a record took it away, or came too late -/
def taken? : Except Disk.Fault Unit → Except Error Bool
  | .ok () => .ok true
  | .error .notFound => .ok false
  | .error fault => .error (.file fault)

variable {σ : Type} (directory : Directory σ)

/-- look at one record and take it away if it is old enough; neither failure stops the sweep -/
def sweepRecord (now : Time.Instant) (maxAge : Time.Span) (name : Name) (world : σ) : Fate × σ × List Log.Entry :=
  match Log.failOpen Error.message "sweep::stat" (changed? (directory.inspect name world)) with
  | (none, log) => (.failed, world, log)
  | (some none, log) => (.skipped, world, log)
  | (some (some modified), log) =>
    if !expired now maxAge modified then (.kept, world, log)
    else
      let (answer, after) := directory.remove name world
      match Log.failOpen Error.message "sweep::remove" (taken? answer) with
      | (none, more) => (.failed, after, log ++ more)
      | (some true, more) => (.removed, after, log ++ more)
      | (some false, more) => (.skipped, after, log ++ more)

/-- counts of a sweep, and the names of the records that it took away -/
structure Tally where
  scanned : Nat
  removed : List Name
  failed : Nat
  deriving DecidableEq, Repr

namespace Tally

def empty : Tally := ⟨0, [], 0⟩

def text (tally : Tally) : String :=
  s!"{tally.scanned} scanned, {tally.removed.length} removed, {tally.failed} failed"

/-- the tally with one more record -/
def add (tally : Tally) (name : Name) : Fate → Tally
  | .skipped => tally
  | .kept => { tally with scanned := tally.scanned + 1 }
  | .removed => { tally with scanned := tally.scanned + 1, removed := tally.removed ++ [name] }
  | .failed => { tally with scanned := tally.scanned + 1, failed := tally.failed + 1 }

end Tally

/-- sweep the given records one after another -/
def sweepAll (now : Time.Instant) (maxAge : Time.Span) (tally : Tally) (world : σ) :
    List Name → Tally × σ × List Log.Entry
  | [] => (tally, world, [])
  | name :: names =>
    let (fate, after, log) := sweepRecord directory now maxAge name world
    let (total, last, later) := sweepAll now maxAge (tally.add name fate) after names
    (total, last, log ++ later)

/-- what comes of a sweep of what was told: its tally, or the fault that broke off the list -/
def Listing.close (listing : Listing) (tally : Tally) : Except Disk.Fault (Option Tally) :=
  match listing.fault? with
  | none => .ok (some tally)
  | some fault => .error fault

/-- sweep a directory: nothing if there is no such directory; no tally, and no log, if it cannot be listed. If the list
breaks off there is no tally either, but the records that were told before are swept all the same -/
def sweepNames (now : Time.Instant) (maxAge : Time.Span) (world : σ) :
    Except Disk.Fault (Option Tally) × σ × List Log.Entry :=
  match directory.list world with
  | .error .notFound => (.ok none, world, [])
  | .error fault => (.error fault, world, [])
  | .ok listing =>
    let (tally, after, log) := sweepAll directory now maxAge Tally.empty world (listing.names.filter isRecord)
    (listing.close tally, after, log)

/-- a directory of a disk; its list is told to the end -/
def Directory.ofPath (dir : Path) : Directory Disk where
  list disk := (disk.list dir).map .whole
  inspect name disk :=
    match disk.lookup .entry (dir.join ⟨name⟩) with
    | .error fault => .error fault
    | .ok (_, node) => .ok ⟨node.isFile, node.modified⟩
  remove name disk := disk.remove (dir.join ⟨name⟩)

theorem Directory.ofPath_list_ok {dir : Path} {disk : Disk} {names : List Name} (h : disk.list dir = .ok names) :
    (ofPath dir).list disk = .ok (.whole names) := congrArg (Except.map Listing.whole) h

theorem Directory.ofPath_list_error {dir : Path} {disk : Disk} {fault : Disk.Fault} (h : disk.list dir = .error fault) :
    (ofPath dir).list disk = .error fault := congrArg (Except.map Listing.whole) h

end CheckReport.Sweep
