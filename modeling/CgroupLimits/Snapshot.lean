import CgroupLimits.Creation

/-! What a set of paths opened to, and which paths the program looks at.

    A program that has to fetch files before it can think about them opens the paths of
    `Settings.paths`, then those of `Subsystem.pathsFrom`: nothing else is ever looked at. -/

namespace CgroupLimits

/-- Paths with what they opened to. -/
structure Snapshot where
  entries : List (String × Opened)
  deriving DecidableEq, Repr

/-- The files of a snapshot; a path that was not opened is missing. -/
def Snapshot.view (s : Snapshot) : Files := fun path =>
  (s.entries.lookup path).getD (.failed .missing)

/-- The tables that are looked at to make a subsystem. -/
def Settings.paths (s : Settings) : List String :=
  [s.controllersPath, s.membershipsPath, s.mountsPath, Path.join s.procRoot "self/status",
   Path.join s.procRoot "meminfo"]

/-- The control files of the cpu controller. -/
def Cpu.fileNames : Version → List String
  | .v1 => ["cpu.cfs_quota_us", "cpu.cfs_period_us", "cpu.shares"]
  | .v2 => ["cpu.max", "cpu.weight"]

/-- The control files of the memory controller. -/
def Memory.fileNames : Version → List String
  | .v1 =>
    ["memory.limit_in_bytes", "memory.usage_in_bytes", "memory.memsw.limit_in_bytes",
     "memory.memsw.usage_in_bytes", "memory.swappiness", "memory.soft_limit_in_bytes",
     "memory.max_usage_in_bytes", "memory.stat"]
  | .v2 =>
    ["memory.max", "memory.current", "memory.swap.max", "memory.swap.current", "memory.low",
     "memory.peak", "memory.stat"]

/-- The control files of the cpuset controller. -/
def Cpuset.fileNames : List String :=
  ["cpuset.cpus", "cpuset.cpus.effective", "cpuset.mems", "cpuset.mems.effective"]

/-- The control files of the pids controller. -/
def Tasks.fileNames : List String := ["pids.max", "pids.current"]

/-- The paths of the files of these names in a control directory. -/
def ControlDirectory.paths (d : ControlDirectory) (names : List String) : List String :=
  names.filterMap fun name => (d.path name).toOption

/-- The control files that queries of a subsystem look at. -/
def Subsystem.paths (s : Subsystem) : List String :=
  s.cpu.paths (Cpu.fileNames s.version) ++ s.memory.paths (Memory.fileNames s.version) ++
    s.cpuset.paths Cpuset.fileNames ++ (s.pids.elim [] (·.paths Tasks.fileNames))

/-- The control files that are looked at once the tables are known. -/
def Subsystem.pathsFrom (tables : Files) (settings : Settings) (fallbackProcessors : Nat) :
    List String :=
  match (Subsystem.ofFiles tables settings fallbackProcessors).value with
  | .ok s => s.paths
  | .error _ => []

end CgroupLimits
