/-
Record files.

The handle of a record is the path of its file. An observation is appended as one line; reading gives the lines back.
-/
import CheckReport.Disk.Operations
import CheckReport.Record.Argument
import CheckReport.Text.Lines

namespace CheckReport

/-- where the record lies -/
def Handle.path (handle : Handle) : Path := .ofString handle.text

namespace Record

/-- the bytes that an observation adds to its record -/
def lineBytes (text : String) : Text.Utf8.Bytes := Text.Utf8.encode text ++ [0x0A]

/-- add one observation; the file is made if it is missing -/
def appendLine (handle : Handle) (text : String) (disk : Disk) : Except Disk.Fault Unit × Disk :=
  disk.append handle.path (lineBytes text)

/-- the lines of a record -/
def readLines (handle : Handle) (disk : Disk) : Except Disk.Fault (List String) :=
  match disk.readText handle.path with
  | .ok text => .ok (Text.lines text)
  | .error fault => .error fault

end Record

end CheckReport
