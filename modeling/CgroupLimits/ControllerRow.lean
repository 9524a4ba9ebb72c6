import CgroupLimits.RowFault
import CgroupLimits.Table

/-! The kernel's table of controllers.

    Each row has four words: a controller's name, the hierarchy it is on, the number of cgroups
    there, and a one if the kernel has it enabled. A line whose very first character is `#` is a
    comment. -/

namespace CgroupLimits

/-- What the kernel says of a controller. Hierarchy 0 is the unified one. -/
structure ControllerRow where
  name : String
  hierarchy : Nat
  cgroupCount : Nat
  enabled : Bool
  deriving DecidableEq, Repr

namespace ControllerRow

/-- Reads a line; a comment holds no row. -/
def parse (line : String) : Except RowFault (Option ControllerRow) :=
  if line.toList.head? = some '#' then .ok none
  else
    match Text.words line with
    | [name, hierarchy, cgroupCount, enabled] => do
      let hierarchy ← RowFault.number Numeral.max32 line hierarchy
      let cgroupCount ← RowFault.number Numeral.max32 line cgroupCount
      let enabled ← RowFault.number Numeral.max32 line enabled
      return some { name, hierarchy, cgroupCount, enabled := enabled = 1 }
    | words => .error (.fieldCount 4 words.length line)

/-- The rows in a stream of bytes; `origin` is the file that errors name. -/
def ofBytes (origin : String) (bytes : List UInt8) :
    Except (TableError RowFault) (List ControllerRow) :=
  Table.ofBytes parse origin bytes

/-- The rows in a file. -/
def ofFile (files : Files) (path : String) : Except (TableError RowFault) (List ControllerRow) :=
  Table.ofFile parse files path

end ControllerRow

end CgroupLimits
