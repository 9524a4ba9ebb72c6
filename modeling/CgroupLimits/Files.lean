/-! The files that the program can see.

    `Files` tells for each path what opening it gives: a reason for failure, a directory, or the
    bytes of a file. Everything that reads takes such a view and nothing else, so two views that
    agree on the paths a function opens give it the same answer. -/

namespace CgroupLimits

/-- Why a path cannot be opened. -/
inductive OpenFailure
  | missing
  | notDirectory
  | nameTooLong
  | zeroByte
  deriving DecidableEq, Repr

/-- The wording of a failure to open. -/
def OpenFailure.message : OpenFailure → String
  | .missing => "No such file or directory (os error 2)"
  | .notDirectory => "Not a directory (os error 20)"
  | .nameTooLong => "File name too long (os error 36)"
  | .zeroByte => "file name contained an unexpected NUL byte"

/-- Why what was opened cannot be read as text. -/
inductive ReadFailure
  | isDirectory
  | notText
  deriving DecidableEq, Repr

/-- The wording of a failure to read. -/
def ReadFailure.message : ReadFailure → String
  | .isDirectory => "Is a directory (os error 21)"
  | .notText => "stream did not contain valid UTF-8"

/-- What opening a path gives. A directory opens, and every read of it fails. -/
inductive Opened
  | failed (cause : OpenFailure)
  | directory
  | file (bytes : List UInt8)
  deriving DecidableEq, Repr

/-- What each path opens to. -/
abbrev Files := String → Opened

end CgroupLimits
