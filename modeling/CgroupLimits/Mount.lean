import CgroupLimits.Journal
import CgroupLimits.MountEntry
import CgroupLimits.Table

/-! The cgroup mounts of the process, from the table of all its mounts.

    A mount of the file system `cgroup2` is the unified hierarchy; one of the file system `cgroup`
    is a hierarchy of the first version and carries the controllers that its super options name.
    All other mounts are passed over. Each cgroup mount found is logged, also in front of a bad
    line. -/

namespace CgroupLimits

/-- A mounted hierarchy: of version 1 with its super options, or the unified one of version 2. -/
inductive MountKind
  | v1 (controllers : List String)
  | v2
  deriving DecidableEq, Repr

/-- A cgroup mount: the directory of the hierarchy at `root` is seen at `mountPoint`. -/
structure Mount where
  kind : MountKind
  root : String
  mountPoint : String
  deriving DecidableEq, Repr

namespace Mount

/-- Whether the mount carries the controller of this name by its super options. -/
def carries (mount : Mount) (controller : String) : Bool :=
  match mount.kind with
  | .v1 controllers => controllers.contains controller
  | .v2 => false

/-- Whether the mount is the unified hierarchy. -/
def isUnified (mount : Mount) : Bool := mount.kind = .v2

/-- The file system that a mount of this kind has. -/
def fileSystem (mount : Mount) : String :=
  match mount.kind with
  | .v1 _ => "cgroup"
  | .v2 => "cgroup2"

/-- The cgroup mount that an entry describes. -/
def ofEntry? (entry : MountEntry) : Option Mount :=
  if entry.fileSystem = "cgroup2" then some ⟨.v2, entry.root, entry.mountPoint⟩
  else if entry.fileSystem = "cgroup" then
    some ⟨.v1 entry.superOptionList, entry.root, entry.mountPoint⟩
  else none

/-- Reads the cgroup mount, if any, of one line. -/
def parse (line : String) : Except MountFault (Option Mount) :=
  (MountEntry.parse line).map ofEntry?

/-- Logs that a mount was found. -/
def announce (mount : Mount) : Logged Unit :=
  .say .trace .mounts
    s!"Found {mount.fileSystem} mount with root `{mount.root}` at `{mount.mountPoint}`"

/-- The cgroup mounts in a stream of bytes; `origin` is the file that errors name. -/
def ofBytes (origin : String) (bytes : List UInt8) :
    Logged (Except (TableError MountFault) (List Mount)) := do
  let scan := Table.scan parse bytes
  scan.entries.forM announce
  return scan.result origin

/-- The cgroup mounts in a file. -/
def ofFile (files : Files) (path : String) :
    Logged (Except (TableError MountFault) (List Mount)) :=
  Table.withBytes files path (fun cause => pure (.error cause)) (ofBytes path)

@[simp] theorem value_ofBytes (origin : String) (bytes : List UInt8) :
    (ofBytes origin bytes).value = Table.ofBytes parse origin bytes := rfl

end Mount

end CgroupLimits
