/-
Failures of a command.

A failure is a cause under the headings of what was being done. It decides the exit code: an error of the library brings
its own, which must fit into a byte, and everything else ends with 1. It is shown on one line, the outermost heading
first; the fault of a file is shown once for the error and once for itself.
-/
import CheckReport.Error
import CheckReport.Sweep.Report

namespace CheckReport.CommandLine

inductive Cause where
  /-- an error of an operation -/
  | operation (e : Error)
  /-- standard input is no text -/
  | input (fault : Text.Utf8.Fault)
  /-- a report that no object can hold -/
  | report
  deriving DecidableEq, Repr

structure Failure where
  headings : List String
  cause : Cause
  deriving DecidableEq, Repr

namespace Cause

/-- what a cause says, and what that cause's own cause says -/
def messages : Cause → List String
  | .operation (.file fault) => [(Error.file fault).message, fault.message]
  | .operation e => [e.message]
  | .input fault => [fault.message]
  | .report => [Sweep.Report.unwritable]

def exitCode : Cause → Nat
  | .operation e => if 0 ≤ e.exitCode && e.exitCode ≤ 255 then e.exitCode.toNat else 1
  | _ => 1

end Cause

namespace Failure

/-- an error under one heading -/
def under (heading : String) (e : Error) : Failure := ⟨[heading], .operation e⟩

/-- an error without a heading -/
def plain (e : Error) : Failure := ⟨[], .operation e⟩

def text (failure : Failure) : String := ": ".intercalate (failure.headings ++ failure.cause.messages)

def exitCode (failure : Failure) : Nat := failure.cause.exitCode

end Failure

end CheckReport.CommandLine
