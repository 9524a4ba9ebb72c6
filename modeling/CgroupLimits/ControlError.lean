import CgroupLimits.Files

/-! Why a control file gives no value. -/

namespace CgroupLimits

/-- Why a control file gives no value. -/
inductive ControlError
  | noDirectory
  | cannotOpen (path : String) (cause : OpenFailure)
  | unreadable (path : String) (cause : ReadFailure)
  | empty (path : String)
  | lineTooLong (path : String) (most : Nat)
  | unexpected (path content : String)
  | keyMissing (path key : String)
  deriving DecidableEq, Repr

/-- The wording of an error. -/
def ControlError.message : ControlError → String
  | .noDirectory => "controller has no resolved subsystem path"
  | .cannotOpen path cause => s!"failed to open file `{path}`: {cause.message}"
  | .unreadable path cause => s!"failed to read `{path}`: {cause.message}"
  | .empty path => s!"file `{path}` is empty"
  | .lineTooLong path most => s!"line in `{path}` exceeds {most} bytes"
  | .unexpected path content => s!"unexpected content in `{path}`: `{content}`"
  | .keyMissing path key => s!"key `{key}` not found in `{path}`"

end CgroupLimits
