import CgroupLimits.Journal
import CgroupLimits.Path

/-! The directory that holds the control files of a cgroup.

    A mount shows the part of a hierarchy below its root at its mount point. A cgroup's directory
    is therefore the mount point followed by what remains of the cgroup's path behind the mount's
    root, segment by segment. A root that is not in front of the path leaves the cgroup without a
    directory: none is guessed. -/

namespace CgroupLimits

/-- What the tables tell of a cgroup's place: the root and the point of the mount, and the path of
    the cgroup in its hierarchy. -/
structure Location where
  root : String
  mountPoint : String
  cgroupPath : String
  deriving DecidableEq, Repr

/-- Why a cgroup has no directory. -/
inductive LocationFault
  | rootTooDeep (rootDepth pathDepth : Nat)
  | rootElsewhere
  deriving DecidableEq, Repr

namespace Location

/-- The cgroup's directory, or why it has none. -/
def resolve (l : Location) : Except LocationFault String :=
  let root := Path.segments l.root
  let path := Path.segments l.cgroupPath
  if path.length < root.length then .error (.rootTooDeep root.length path.length)
  else if path.take root.length = root then
    .ok ((path.drop root.length).foldl Path.join l.mountPoint)
  else .error .rootElsewhere

/-- The cgroup's directory, if it has one. -/
def directory? (l : Location) : Option String := l.resolve.toOption

/-- The wording of the reason why a cgroup has no directory. -/
def faultMessage (l : Location) : LocationFault → String
  | .rootTooDeep rootDepth pathDepth =>
    s!"Mount root `{l.root}` has {rootDepth} segments, cgroup path `{l.cgroupPath}` only {pathDepth}"
  | .rootElsewhere => s!"Mount root `{l.root}` is not a prefix of cgroup path `{l.cgroupPath}`"

/-- Logs why a cgroup has no directory. -/
def explain (l : Location) : Logged Unit :=
  match l.resolve with
  | .ok _ => pure ()
  | .error fault => .say .debug .location (l.faultMessage fault)

/-- Logs what became of a location. -/
def announce (l : Location) : Logged Unit := do
  l.explain
  match l.directory? with
  | some directory => .say .debug .location s!"Controller path resolved to `{directory}`"
  | none =>
    .say .debug .location
      (s!"Unable to resolve controller path: root=`{l.root}`, mount_point=`{l.mountPoint}`, " ++
        s!"cgroup_path=`{l.cgroupPath}`")

end Location

end CgroupLimits
