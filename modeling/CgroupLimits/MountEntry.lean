import CgroupLimits.Text.Blank
import CgroupLimits.Text.Cut

/-! One line of the table of mounts.

    A line has two halves, before and behind the first ` - `, each a row of words. The first half
    has six fields and any number of optional ones behind them, the second three fields, behind
    which further words are passed over. -/

namespace CgroupLimits

/-- A mount as the kernel lists it. -/
structure MountEntry where
  mountId : String
  parentId : String
  device : String
  root : String
  mountPoint : String
  options : String
  optionalFields : List String
  fileSystem : String
  source : String
  superOptions : String
  deriving DecidableEq, Repr

/-- The fields that every line has. -/
inductive MountField
  | mountId
  | parentId
  | device
  | root
  | mountPoint
  | options
  | fileSystem
  | source
  | superOptions
  deriving DecidableEq, Repr

/-- The name that messages give a field. -/
def MountField.name : MountField → String
  | .mountId => "mount_id"
  | .parentId => "parent_id"
  | .device => "major:minor"
  | .root => "root"
  | .mountPoint => "mount_point"
  | .options => "mount_options"
  | .fileSystem => "fs_type"
  | .source => "source"
  | .superOptions => "super_options"

/-- Why a line is no mount. -/
inductive MountFault
  | noSeparator (line : String)
  | missingBefore (field : MountField) (line : String)
  | missingBehind (field : MountField) (line : String)
  deriving DecidableEq, Repr

/-- The wording of a fault. -/
def MountFault.message : MountFault → String
  | .noSeparator line => s!"missing separator ` - ` in line: `{line}`"
  | .missingBefore field line =>
    s!"missing `{field.name}` in pre-separator section of line: `{line}`"
  | .missingBehind field line =>
    s!"missing `{field.name}` in post-separator section of line: `{line}`"

namespace MountEntry

/-- What stands between the two halves of a line. -/
def separator : String := " - "

/-- The first field before the separator that a half of `given` words lacks. -/
def lackingBefore : Nat → MountField
  | 0 => .mountId
  | 1 => .parentId
  | 2 => .device
  | 3 => .root
  | 4 => .mountPoint
  | _ => .options

/-- The first field behind the separator that a half of `given` words lacks. -/
def lackingBehind : Nat → MountField
  | 0 => .fileSystem
  | 1 => .source
  | _ => .superOptions

/-- Reads a line. -/
def parse (line : String) : Except MountFault MountEntry :=
  match Text.cut? separator line with
  | none => .error (.noSeparator line)
  | some (before, behind) =>
    match Text.words before with
    | mountId :: parentId :: device :: root :: mountPoint :: options :: optionalFields =>
      match Text.words behind with
      | fileSystem :: source :: superOptions :: _ =>
        .ok { mountId, parentId, device, root, mountPoint, options, optionalFields,
              fileSystem, source, superOptions }
      | given => .error (.missingBehind (lackingBehind given.length) line)
    | given => .error (.missingBefore (lackingBefore given.length) line)

/-- The super options one by one. -/
def superOptionList (entry : MountEntry) : List String :=
  Text.fields (· == ',') entry.superOptions

end MountEntry

end CgroupLimits
