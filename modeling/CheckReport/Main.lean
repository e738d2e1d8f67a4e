/-
The program.

The outer layer copies what a command may need from the machine onto a disk, lets the library carry out the command
line there, and does to the machine what was done to the disk. It starts no other program, so that every collector is
unavailable to it. The owner's rights to files are found out when they are used. Ages are measured by the clock of the
file system.
-/
import CheckReport.CommandLine.Execution

namespace CheckReport.Machine

open CommandLine

/-- every user may do everything as far as the disk is concerned -/
def openMode : Disk.Mode := .ofBits 0o777

def someone : Disk.User := ⟨0, 0⟩

def instant (time : IO.FS.SystemTime) : Time.Instant := ⟨time.sec * 1000000000 + (time.nsec.toNat : Int)⟩

/-- an action that may find nothing -/
def attempt {α : Type} (action : IO α) : IO (Option α) := do
  try
    let value ← action
    return some value
  catch _ => return none

def fileNode (place : String) (kind : IO.FS.FileType) (modified : Time.Instant) : IO Disk.Node := do
  let content : Disk.Content ← match kind with
    | .dir => pure .directory
    | .symlink => pure (.link ⟨[]⟩)
    | _ => do
      let data ← attempt (IO.FS.readBinFile place)
      pure (.file ((data.map ByteArray.toList).getD []))
  return ⟨content, openMode, someone, modified⟩

/-- the location that the names of an absolute path lead to if no link lies on the way -/
def locationOf (path : Path) : Disk.Location :=
  path.bareNames.foldl (fun loc name =>
    if name = Disk.hereName then loc else if name = Disk.upName then loc.tail else name :: loc) []

/-- the path of a location on the machine -/
def placeOf (loc : Disk.Location) : String := (Path.ofNames true loc.reverse).display

/-- put what lies at a location onto the disk; the directories above it are there already -/
def copyNode (disk : Disk) (loc : Disk.Location) : IO Disk := do
  let place := placeOf loc
  match ← attempt do (← IO.FS.realPath place).metadata with
  | none => return disk
  | some data =>
    let node ← fileNode place data.type (instant data.modified)
    return disk.put loc node

/-- put what a path names and the directories above it onto the disk -/
def copyPath (disk : Disk) (path : Path) : IO Disk := do
  let loc := locationOf path
  let places := (List.range loc.length).map loc.drop
  places.reverse.foldlM copyNode disk

/-- put what a path names and the entries of that directory onto the disk -/
def copyDirectory (disk : Disk) (path : Path) : IO Disk := do
  let disk ← copyPath disk path
  let entries ← attempt do (← IO.FS.realPath path.display).readDir
  (entries.getD #[]).foldlM (fun disk entry => do
    match ← attempt entry.path.symlinkMetadata with
    | none => return disk
    | some data =>
      let node ← fileNode entry.path.toString data.type (instant data.modified)
      return disk.put (Text.Utf8.encode entry.fileName :: locationOf path) node) disk

/-- the present time by the clock of the file system -/
def now : IO Time.Instant := do
  let (_, path) ← IO.FS.createTempFile
  let data ← path.metadata
  IO.FS.removeFile path
  return instant data.modified

/-- do to the machine what was done to a disk -/
def applyChanges (before after : Disk) : IO Unit := do
  for (loc, node) in after.nodes do
    let place := placeOf loc
    if (before.node? loc).map Disk.Node.content ≠ some node.content then
      match node.content with
      | .directory => IO.FS.createDirAll place
      | .file data => IO.FS.writeBinFile place ⟨data.toArray⟩
      | _ => pure ()
  for (loc, _) in before.nodes do
    if (after.node? loc).isNone then
      IO.FS.removeFile (placeOf loc)

/-- all of a stream -/
partial def readAll (stream : IO.FS.Stream) (earlier : List UInt8) : IO (List UInt8) := do
  let more ← stream.read 65536
  if more.isEmpty then return earlier else readAll stream (earlier ++ more.toList)

/-- the host of an invocation -/
def host (invocation : Option Invocation) : IO Host := do
  let workingDirectory := Path.ofString (← IO.currentDir).toString
  let home := (← IO.getEnv "HOME").filter (!·.isEmpty)
  let searchPath := (← IO.getEnv "PATH").getD ""
  let root : Disk.Node := ⟨.directory, openMode, someone, ⟨0⟩⟩
  let empty : Disk := ⟨⟨some root, .empty⟩, locationOf workingDirectory, someone, ← now⟩
  let bare : Host :=
    { disk := ← copyPath empty workingDirectory
      home := home.map Path.ofString
      searchPath := Text.Utf8.encode searchPath
      program? := fun _ => some fun _ _ _ => .error .cannotStart
      launches := [] }
  match invocation with
  | none => return bare
  | some invocation =>
    let disk ← copyPath bare.disk (workingDirectory.join invocation.config)
    let settings := (Settings.load invocation.config disk).toOption.getD Settings.defaults
    match invocation.command with
    | .initConfig path =>
      return { bare with disk := ← copyPath disk (workingDirectory.join (path.getD invocation.config)) }
    | .sweep dir _ _ =>
      match dir.or (settings.records.directory bare.home).toOption with
      | some dir => return { bare with disk := ← copyDirectory disk (workingDirectory.join dir) }
      | none => return { bare with disk := disk }
    | _ =>
      let candidates := bare.candidates (Path.ofString settings.collector.program)
      let disk ← candidates.foldlM (fun disk path => copyPath disk (workingDirectory.join path)) disk
      return { bare with disk := disk }

/-- standard input, as far as an invocation reads it -/
def input (invocation : Option Invocation) : IO (List UInt8) := do
  match invocation.map Invocation.command with
  | some (.run _ _ _ true _) => readAll (← IO.getStdin) []
  | _ => return []

/-- name of the level from which on entries are logged -/
def level (invocation : Option Invocation) (host : Host) : String :=
  match invocation with
  | none => Settings.defaults.log.level
  | some invocation =>
    if invocation.verbose then "debug"
    else ((Settings.load invocation.config host.disk).toOption.getD Settings.defaults).log.level

end CheckReport.Machine

section Program

open CheckReport CheckReport.CommandLine

def main (words : List String) : IO UInt32 := do
  let invocation := (Invocation.ofArguments words).toOption
  let host ← Machine.host invocation
  let ended := interpret words (← Machine.input invocation) host
  Machine.applyChanges host.disk ended.host.disk
  for entry in ended.log do
    if entry.level.shownUnder (Machine.level invocation host) then
      IO.eprintln s!"{entry.level.name} {entry.message}"
  IO.print ended.output
  match ended.failure with
  | some failure => IO.eprintln s!"ERROR: {failure.text}"
  | none => if ended.code = unusableCode then IO.eprint (helpText .top)
  return ended.code.toUInt32

end Program
