/-
Starting programs.

`run` starts a program as the system does: it looks the program's file up, goes on with the interpreter if the file is a
script, refuses what is neither, and hands the program its arguments. The launch is noted on the host. A program that
cannot be started leaves the host as it was (`run_error`).
-/
import CheckReport.Collector.Host
import CheckReport.Collector.Script

namespace CheckReport.Host

open Disk (Location)
open Text.Utf8 (Bytes)

/-- greatest number of bytes in an argument -/
def maxArgument : Nat := 131071

/-- number of files that starting a program looks at: scripts, and at last a program that is none -/
def maxFiles : Nat := 6

/-- a file that the user may execute -/
def executable (host : Host) (path : Path) : Except Disk.Fault (Location × Bytes) :=
  match host.disk.lookup .target path with
  | .error fault => .error fault
  | .ok (loc, node) =>
    match node.content with
    | .file data => if (node.rights host.disk.user).execute then .ok (loc, data) else .error .accessDenied
    | _ => .error .accessDenied

/-- a program that can be started, and the arguments for it -/
structure Start where
  location : Location
  program : Program
  arguments : List Bytes

/-- what to start for the file at a path; for a script it is the interpreter, which gets the script's path in front of
the arguments, and in front of that the script's own argument -/
def load (host : Host) (files : Nat) (path : Path) (arguments : List Bytes) : Except Disk.Fault Start :=
  match host.executable path with
  | .error fault => .error fault
  | .ok (loc, data) =>
    if arguments.any (maxArgument < ·.length) then .error .argumentTooLong
    else
      match files with
      | 0 => .error .linkLoop
      | files + 1 =>
        match host.program? loc with
        | some program => .ok ⟨loc, program, arguments⟩
        | none =>
          match Script.ofBytes? data with
          | some script =>
            host.load files script.interpreter (script.argument.toList ++ path.bytes :: arguments)
          | none => .error .execFormat

/-- the first of the files that can be started; one that is missing or forbidden is passed over, and a forbidden one is
the fault to report if none is found -/
def loadFirst (host : Host) (arguments : List Bytes) (denied : Bool) (last : Disk.Fault) :
    List Path → Except Disk.Fault Start
  | [] => .error (if denied then .accessDenied else last)
  | path :: rest =>
    match host.load maxFiles path arguments with
    | .ok start => .ok start
    | .error .accessDenied => host.loadFirst arguments true .accessDenied rest
    | .error .notFound => host.loadFirst arguments denied .notFound rest
    | .error .notDirectory => host.loadFirst arguments denied .notDirectory rest
    | .error fault => .error fault

/-- an entry of the search path that no path can be as long as -/
def isOversized (entry : Path) : Bool := Disk.maxPath < entry.bytes.length

/-- the directories in which a program to start is sought; an oversized entry counts as the working directory, and as
none at all at the end -/
def startDirectories (host : Host) : List Path :=
  let entries := host.searchEntries
  (if entries.getLast?.any isOversized then entries.dropLast else entries).map fun entry =>
    if isOversized entry then ⟨[]⟩ else entry

/-- the file of a name in a directory; a name that is too long may be cut as long as it stays too long -/
def fileIn (name dir : Path) : Path :=
  let cut := name.bytes.take (Disk.maxName + 2)
  if dir.isEmpty then ⟨cut⟩ else ⟨dir.bytes ++ Disk.slash :: cut⟩

/-- what a name stands for when it is started: a name with a slash is a path -/
def loadNamed (host : Host) (name : Path) (arguments : List Bytes) : Except Disk.Fault Start :=
  if name.isEmpty then .error .notFound
  else if name.bytes.contains Disk.slash then host.load maxFiles name arguments
  else host.loadFirst arguments false .notFound (host.startDirectories.map (fileIn name))

/-- start a program and take what it does -/
def run (host : Host) (name : Path) (arguments : List Bytes) : Except Disk.Fault Response × Host :=
  if name.hasNul || arguments.any (·.contains 0) then (.error .nulInArgument, host)
  else
    match host.loadNamed name arguments with
    | .error fault => (.error fault, host)
    | .ok start =>
      match start.program host.disk host.launches.length start.arguments with
      | .error fault => (.error fault, host)
      | .ok response =>
        let launch : Launch := ⟨start.location, start.arguments, response.ending⟩
        (.ok response, { host with launches := host.launches ++ [launch] })

theorem run_error (host : Host) (name : Path) (arguments : List Bytes) (fault : Disk.Fault)
    (h : (host.run name arguments).1 = .error fault) : (host.run name arguments).2 = host := by
  grind [run]

end CheckReport.Host
