/-
Settings on a disk.

`load` reads the settings of a file; where no file can be seen, the defaults hold. `writeDefault` writes a file that
gives the defaults, and makes the directories above it.
-/
import CheckReport.Disk.Operations
import CheckReport.Settings.Document

namespace CheckReport.Settings

def load (path : Path) (disk : Disk) : Except Fault Settings :=
  if !disk.isPresent path then .ok defaults
  else
    match disk.readText path with
    | .error fault => .error (.unreadable path fault)
    | .ok text =>
      match ofText? text with
      | none => .error (.malformed path)
      | some settings =>
        match settings.collector.check with
        | .error _ => .error (.zeroTimeoutIn path)
        | .ok () => .ok settings

def writeDefault (path : Path) (disk : Disk) : Except Disk.Fault Unit × Disk :=
  match path.parent? with
  | none => disk.overwrite path (Text.Utf8.encode defaultText)
  | some dir =>
    match disk.makeDirectories dir with
    | (.error fault, made) => (.error fault, made)
    | (.ok (), made) => made.overwrite path (Text.Utf8.encode defaultText)

end CheckReport.Settings
