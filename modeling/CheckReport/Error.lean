/-
Errors.

An error is the cause for which an operation stopped. The collector causes two of them, each in a phase of a record's
life: it could not be reached in time, or it answered no. Of arguments and settings that are refused an error keeps the
text of the fault, which may be any text where the services come from outside. `message` is the text that is shown,
`exitCode` the number with which a program ends that stops on the error: the collector's own number where it gave one,
else a number by the convention of sysexits. Only a collector that could not be reached is worth the same call again
(`retryable_iff`).
-/
import CheckReport.Record.Argument
import CheckReport.Settings.Fault

namespace CheckReport

/-- step of a record's life -/
inductive Phase where
  | begin
  | append
  | finish
  deriving DecidableEq, Repr

def Phase.name : Phase → String
  | .begin => "begin"
  | .append => "append"
  | .finish => "end"

inductive Error where
  | unavailable (phase : Phase) (reason : String)
  | rejected (phase : Phase) (code : Option Int) (diagnostic : String)
  | invalidState (operation state : String)
  | invalidArgument (text : String)
  | settings (text : String)
  | file (fault : Disk.Fault)
  deriving DecidableEq, Repr

namespace Error

/-- how a program ended: no code if a signal ended it -/
def endingText : Option Int → String
  | some code => s!"exit code {code}"
  | none => "terminated by signal"

def message : Error → String
  | .unavailable phase reason => s!"{phase.name} failed: collector unavailable: {reason}"
  | .rejected phase code diagnostic => s!"{phase.name} failed: collector rejected ({endingText code}): {diagnostic}"
  | .invalidState operation state => s!"Invalid state: cannot {operation} while session is {state}"
  | .invalidArgument text => s!"Invalid argument: {text}"
  | .settings text => s!"{Settings.Fault.heading}{text}"
  | .file fault => s!"I/O error: {fault.message}"

def retryable : Error → Bool
  | .unavailable _ _ => true
  | _ => false

def phase? : Error → Option Phase
  | .unavailable phase _ => some phase
  | .rejected phase _ _ => some phase
  | _ => none

def exitCode : Error → Int
  | .rejected _ (some code) _ => if code = 0 then 1 else code
  | .rejected _ none _ => 1
  | .unavailable _ _ => 69
  | .invalidArgument _ => 64
  | .invalidState _ _ => 70
  | .file _ => 74
  | .settings _ => 78

theorem retryable_iff (e : Error) : e.retryable = true ↔ ∃ phase reason, e = .unavailable phase reason := by
  cases e <;> simp [retryable]

theorem exitCode_ne_zero (e : Error) : e.exitCode ≠ 0 := by
  cases e with
  | rejected phase code diagnostic => cases code <;> grind [exitCode]
  | _ => simp [exitCode]

end Error

end CheckReport
