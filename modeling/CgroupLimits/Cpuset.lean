import CgroupLimits.ControlDirectory

/-! What the cpuset controller tells: on which processors and memory nodes the cgroup may run.

    Version 2 leaves a set empty that was not configured and has the set in force in a second
    file, which is then read in its place. -/

namespace CgroupLimits.Cpuset

/-- The set in the file `name`, else, if `inForce` asks for it, that in the second file. -/
def set (d : ControlDirectory) (files : Files) (inForce : Bool) (name : String) :
    Logged (Option String) := do
  match ← d.word files name name with
  | some set => return some set
  | none =>
    let second := name ++ ".effective"
    if inForce then d.word files second second else return none

/-- The processors. -/
def processors (d : ControlDirectory) (files : Files) (inForce : Bool) : Logged (Option String) :=
  set d files inForce "cpuset.cpus"

/-- The memory nodes. -/
def memoryNodes (d : ControlDirectory) (files : Files) (inForce : Bool) : Logged (Option String) :=
  set d files inForce "cpuset.mems"

end CgroupLimits.Cpuset
