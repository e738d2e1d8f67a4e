/-
Faults of settings.

A fault says why no settings, no record directory or no collector could be had.
-/
import CheckReport.Disk.Fault
import CheckReport.Disk.Path

namespace CheckReport.Settings

inductive Fault where
  | unreadable (path : Path) (fault : Disk.Fault)
  | malformed (path : Path)
  | zeroTimeout
  | zeroTimeoutIn (path : Path)
  | programNotFound (program : String)
  | noHome
  deriving DecidableEq, Repr

/-- what stands in front of each message -/
def Fault.heading : String := "Configuration error: "

def Fault.zeroTimeoutText : String := "collector.timeout_secs must be greater than 0"

def Fault.message : Fault → String
  | .unreadable path fault => s!"Failed to read {path.display}: {fault.message}"
  | .malformed path => s!"Failed to parse {path.display}"
  | .zeroTimeout => zeroTimeoutText
  | .zeroTimeoutIn path => s!"{path.display}: {heading}{zeroTimeoutText}"
  | .programNotFound program => s!"collector program '{program}' not found: cannot find binary path"
  | .noHome => "Could not determine home directory"

end CheckReport.Settings
