/-
Answers of a collector that was run.

An answer is what one run printed and how it ended. An answer to an open call gives a handle if the run succeeded and
printed exactly one line that is not blank (`Answer.handle`); an answer to a submit call counts by its success alone
(`Answer.submitted`). Every other answer is a rejection that carries the exit code.
-/
import CheckReport.Error
import CheckReport.Text.Lines

namespace CheckReport

/-- what a run printed, its exit code if it has one, and whether it succeeded -/
structure Answer where
  stdout : String
  stderr : String
  code : Option Int
  success : Bool
  deriving DecidableEq, Repr

namespace Answer

/-- what the run has to say: its output, or its complaints if there is none -/
def diagnostic (answer : Answer) : String :=
  if Text.isBlankText answer.stdout then Text.trim answer.stderr else Text.trim answer.stdout

/-- the output lines that are not blank, trimmed -/
def lines (answer : Answer) : List String :=
  ((Text.lines answer.stdout).map Text.trim).filter fun line => !line.toList.isEmpty

/-- the handle that an open call printed -/
def handle (answer : Answer) : Except Error Handle :=
  if !answer.success then .error (.rejected .begin answer.code answer.diagnostic)
  else
    match answer.lines with
    | [] =>
      .error (.rejected .begin answer.code ("collector printed no record handle: " ++ Text.trim answer.stderr))
    | [line] =>
      match Handle.parse line with
      | .ok handle => .ok handle
      | .error fault => .error (.rejected .begin answer.code (Error.invalidArgument fault.message).message)
    | _ =>
      .error (.rejected .begin answer.code ("collector printed more than one line: " ++ Text.trim answer.stdout))

/-- whether a submit call was accepted -/
def submitted (answer : Answer) : Except Error Unit :=
  if answer.success then .ok () else .error (.rejected .finish answer.code answer.diagnostic)

end Answer

end CheckReport
