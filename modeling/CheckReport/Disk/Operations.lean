/-
File operations.

Reading operations answer from a disk. Writing operations answer and give the disk that they leave; one that fails
leaves the disk as it was (`write_error`, `makeDirectory_error`, `remove_error`), except that `makeDirectories` keeps
the directories it made before it failed. A file that is written changes at the disk's present time.
-/
import CheckReport.Disk.Walk

namespace CheckReport.Disk

open Text.Utf8 (Bytes)

/-- something is at the path and can be looked up, links followed -/
def isPresent (disk : Disk) (path : Path) : Bool := (disk.lookup .target path).isOk

def isDirectory (disk : Disk) (path : Path) : Bool :=
  match disk.lookup .target path with
  | .ok (_, node) => node.isDirectory
  | .error _ => false

/-- a regular file, links followed, that the user may execute -/
def isExecutable (disk : Disk) (path : Path) : Bool :=
  match disk.lookup .target path with
  | .ok (_, node) => node.isFile && (node.rights disk.user).execute
  | .error _ => false

/-- the bytes of a file -/
def read (disk : Disk) (path : Path) : Except Fault Bytes :=
  match disk.lookup .target path with
  | .error fault => .error fault
  | .ok (_, node) =>
    if !(node.rights disk.user).read then .error .accessDenied
    else
      match node.content with
      | .file data => .ok data
      | .directory => .error .isDirectory
      | _ => .ok []

/-- the text of a file -/
def readText (disk : Disk) (path : Path) : Except Fault String :=
  match disk.read path with
  | .error fault => .error fault
  | .ok data =>
    match Text.Utf8.decode? data with
    | some text => .ok text
    | none => .error .notUtf8

/-- the names in a directory -/
def list (disk : Disk) (path : Path) : Except Fault (List Name) :=
  match disk.lookup .target path with
  | .error fault => .error fault
  | .ok (loc, node) =>
    if !node.isDirectory then .error .notDirectory
    else if !(node.rights disk.user).read then .error .accessDenied
    else .ok (disk.treeAt loc).below.names

/-- the directory that holds the last name of a path, and that name; no name if the path ends with the directory -/
def parentOf (disk : Disk) (path : Path) : Except Fault (Location × Option Name) :=
  match checkPath path with
  | .error fault => .error fault
  | .ok () =>
    let above := path.bareNames.dropLast ++ [hereName]
    match disk.follow .target path above with
    | .error fault => .error fault
    | .ok (.missing _ _) => .error .notFound
    | .ok (.found loc _) => .ok (loc, path.bareNames.getLast?.filter fun name => name ≠ hereName && name ≠ upName)

/-- the user may make and remove entries of the directory -/
def mayChange (disk : Disk) (dir : Location) : Bool :=
  match disk.node? dir with
  | some node => (node.rights disk.user).write && (node.rights disk.user).execute
  | none => false

/-- what writing does: `edit` gives the new bytes of a file from its old ones, `onNull` the answer of the null device -/
structure Writing where
  edit : Bytes → Bytes
  onNull : Except Fault Unit

/-- open a file, make it if it is missing, and write it -/
def write (disk : Disk) (path : Path) (writing : Writing) : Except Fault Unit × Disk :=
  match disk.resolve .file path with
  | .error fault => (.error fault, disk)
  | .ok (.missing dir name) =>
    if disk.mayChange dir then
      (.ok (), disk.put (name :: dir) ⟨.file (writing.edit []), .newFile, disk.user, disk.now⟩)
    else (.error .accessDenied, disk)
  | .ok (.found loc node) =>
    if node.isDirectory then (.error .isDirectory, disk)
    else if !(node.rights disk.user).write then (.error .accessDenied, disk)
    else
      match node.content with
      | .file data =>
        (.ok (), disk.put loc { node with content := .file (writing.edit data), modified := disk.now })
      | .device .full => (.error .noSpace, disk)
      | _ => (writing.onNull, disk)

/-- write behind the bytes that a file holds and wait until they are stored, which the null device cannot promise -/
def append (disk : Disk) (path : Path) (data : Bytes) : Except Fault Unit × Disk :=
  disk.write path ⟨(· ++ data), .error .invalidRequest⟩

/-- write in place of what a file holds -/
def overwrite (disk : Disk) (path : Path) (data : Bytes) : Except Fault Unit × Disk :=
  disk.write path ⟨fun _ => data, .ok ()⟩

def makeDirectory (disk : Disk) (path : Path) : Except Fault Unit × Disk :=
  match disk.parentOf path with
  | .error fault => (.error fault, disk)
  | .ok (_, none) => (.error .alreadyExists, disk)
  | .ok (dir, some name) =>
    if maxName < name.length then (.error .nameTooLong, disk)
    else if (disk.node? (name :: dir)).isSome then (.error .alreadyExists, disk)
    else if !disk.mayChange dir then (.error .accessDenied, disk)
    else (.ok (), disk.put (name :: dir) ⟨.directory, .newDirectory, disk.user, disk.now⟩)

/-- make the first directory, and before it those of the others that it lacks -/
def makeAll (disk : Disk) : List Path → Except Fault Unit × Disk
  | [] => (.error .notFound, disk)
  | path :: above =>
    if path.isEmpty then (.ok (), disk)
    else
      match disk.makeDirectory path with
      | (.ok (), made) => (.ok (), made)
      | (.error .notFound, _) =>
        match disk.makeAll above with
        | (.error fault, made) => (.error fault, made)
        | (.ok (), made) =>
          match made.makeDirectory path with
          | (.ok (), done) => (.ok (), done)
          | (.error fault, _) => (if made.isDirectory path then .ok () else .error fault, made)
      | (.error fault, _) => (if disk.isDirectory path then .ok () else .error fault, disk)

/-- make a directory with all that it lacks above -/
def makeDirectories (disk : Disk) (path : Path) : Except Fault Unit × Disk :=
  disk.makeAll (path :: path.ancestors)

/-- take a file away; a link is taken away itself -/
def remove (disk : Disk) (path : Path) : Except Fault Unit × Disk :=
  match disk.lookup .entry path with
  | .error fault => (.error fault, disk)
  | .ok (loc, node) =>
    if !disk.mayChange loc.tail then (.error .accessDenied, disk)
    else if node.isDirectory then (.error .isDirectory, disk)
    else (.ok (), disk.erase loc)

theorem write_error (disk : Disk) (path : Path) (writing : Writing) (fault : Fault)
    (h : (disk.write path writing).1 = .error fault) : (disk.write path writing).2 = disk := by
  grind [write]

theorem makeDirectory_error (disk : Disk) (path : Path) (fault : Fault)
    (h : (disk.makeDirectory path).1 = .error fault) : (disk.makeDirectory path).2 = disk := by
  grind [makeDirectory]

theorem remove_error (disk : Disk) (path : Path) (fault : Fault)
    (h : (disk.remove path).1 = .error fault) : (disk.remove path).2 = disk := by
  grind [remove]

end CheckReport.Disk
