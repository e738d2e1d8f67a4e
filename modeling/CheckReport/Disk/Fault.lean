/-
Faults of file operations.

A fault is the cause for which a file or a program could not be used. Those that the system numbers carry the number
in their text.
-/

namespace CheckReport.Disk

inductive Fault where
  | notFound
  | argumentTooLong
  | execFormat
  | accessDenied
  | alreadyExists
  | notDirectory
  | isDirectory
  | invalidRequest
  | noSpace
  | nameTooLong
  | linkLoop
  | notUtf8
  | nulInPath
  | nulInArgument
  | cannotStart
  | other (text : String)
  deriving DecidableEq, Repr

namespace Fault

def message : Fault → String
  | .notFound => "No such file or directory (os error 2)"
  | .argumentTooLong => "Argument list too long (os error 7)"
  | .execFormat => "Exec format error (os error 8)"
  | .accessDenied => "Permission denied (os error 13)"
  | .alreadyExists => "File exists (os error 17)"
  | .notDirectory => "Not a directory (os error 20)"
  | .isDirectory => "Is a directory (os error 21)"
  | .invalidRequest => "Invalid argument (os error 22)"
  | .noSpace => "No space left on device (os error 28)"
  | .nameTooLong => "File name too long (os error 36)"
  | .linkLoop => "Too many levels of symbolic links (os error 40)"
  | .notUtf8 => "stream did not contain valid UTF-8"
  | .nulInPath => "file name contained an unexpected NUL byte"
  | .nulInArgument => "nul byte found in provided data"
  | .cannotStart => "programs cannot be started here"
  | .other text => text

end Fault

end CheckReport.Disk
