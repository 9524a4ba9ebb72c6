import CgroupLimits.Numeral

/-! What can be wrong with a row of numbers and names in a table under the proc root. -/

namespace CgroupLimits

/-- Why a line is no row. -/
inductive RowFault
  | fieldCount (expected found : Nat) (line : String)
  | invalidNumber (value line : String) (cause : NumeralFault)
  deriving DecidableEq, Repr

/-- The wording of a fault. -/
def RowFault.message : RowFault → String
  | .fieldCount expected found line =>
    s!"expected {expected} fields, found {found} in line: `{line}`"
  | .invalidNumber value line cause =>
    s!"invalid number `{value}` in line: `{line}`: {cause.message}"

/-- Reads a number up to `bound` that stands in `line`. -/
def RowFault.number (bound : Nat) (line value : String) : Except RowFault Nat :=
  (Numeral.unsigned bound value).mapError (.invalidNumber value line)

end CgroupLimits
