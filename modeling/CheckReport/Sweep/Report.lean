/-
Reports of sweeps.

A report says where and when records were swept, how many were looked at, which were taken away and how many could not
be. It is written as text or as a JSON object; the object needs every path to be a text.
-/
import CheckReport.Sweep.Basic
import CheckReport.Text.Json

namespace CheckReport.Sweep

structure Report where
  dir : Path
  sweptAt : Time.Instant
  scanned : Nat
  removed : List Path
  failed : Nat
  deriving DecidableEq, Repr

namespace Report

def ofTally (dir : Path) (sweptAt : Time.Instant) (tally : Tally) : Report :=
  ⟨dir, sweptAt, tally.scanned, tally.removed.map fun name => dir.join ⟨name⟩, tally.failed⟩

def summary (report : Report) : String :=
  s!"{report.dir.display}: {report.scanned} records scanned, {report.removed.length} removed, {report.failed} failed"

/-- the report as text, one line and one more for each removed record -/
def text (report : Report) : List String :=
  report.summary :: report.removed.map fun path => "  removed " ++ path.display

/-- why a report is not written as an object -/
def unwritable : String := "path contains invalid UTF-8 characters"

/-- the report as an object -/
def object? (report : Report) : Option Text.Json.Object :=
  match report.dir.text?, report.removed.mapM Path.text? with
  | some dir, some removed =>
    some [("dir", .text dir), ("swept_at", .text report.sweptAt.rfc3339), ("scanned", .count report.scanned),
      ("removed", .texts removed), ("failed", .count report.failed)]
  | _, _ => none

end Report

/-- sweep a directory of a disk -/
def sweep (dir : Path) (maxAge : Time.Span) (disk : Disk) : Except Error Report × Disk × List Log.Entry :=
  match sweepNames (Directory.ofPath dir) disk.now maxAge disk with
  | (.error fault, after, log) => (.error (.file fault), after, log)
  | (.ok none, after, log) => (.ok (.ofTally dir disk.now .empty), after, log)
  | (.ok (some tally), after, log) =>
    (.ok (.ofTally dir disk.now tally), after, log ++ [Log.info s!"Swept {dir.display}: {tally.text}"])

end CheckReport.Sweep
