import CgroupLimits.RowFault
import CgroupLimits.Table
import CgroupLimits.Text.Cut

/-! The cgroups that the process is a member of.

    Each line is a hierarchy's number, the controllers of that hierarchy, and the path of the
    process's cgroup in it, with a colon between. The path takes the rest of the line, further
    colons and all. The unified hierarchy has the number 0 and names no controllers. -/

namespace CgroupLimits

/-- The cgroup of the process in one hierarchy. -/
structure Membership where
  hierarchy : Nat
  controllers : List String
  path : String
  deriving DecidableEq, Repr

namespace Membership

/-- Whether this is the process's cgroup in the unified hierarchy. -/
def isUnified (m : Membership) : Bool := m.hierarchy == 0 && m.controllers.isEmpty

/-- The three parts of a line. -/
def parts? (line : String) : Option (String × String × String) := do
  let (hierarchy, behind) ← Text.cut? ":" line
  let (controllers, path) ← Text.cut? ":" behind
  return (hierarchy, controllers, path)

/-- Reads a line. -/
def parse (line : String) : Except RowFault (Option Membership) :=
  match parts? line with
  | none => .error (.fieldCount 3 (Text.split (· == ':') line).length line)
  | some (hierarchy, controllers, path) => do
    let hierarchy ← RowFault.number Numeral.max32 line hierarchy
    return some { hierarchy, controllers := Text.fields (· == ',') controllers, path }

/-- The memberships in a stream of bytes; `origin` is the file that errors name. -/
def ofBytes (origin : String) (bytes : List UInt8) :
    Except (TableError RowFault) (List Membership) :=
  Table.ofBytes parse origin bytes

/-- The memberships in a file. -/
def ofFile (files : Files) (path : String) : Except (TableError RowFault) (List Membership) :=
  Table.ofFile parse files path

end Membership

end CgroupLimits
