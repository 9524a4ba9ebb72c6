import CgroupLimits.Cache
import CgroupLimits.Cpu
import CgroupLimits.Cpuset
import CgroupLimits.Detection
import CgroupLimits.Host
import CgroupLimits.Memory
import CgroupLimits.Processors
import CgroupLimits.Report
import CgroupLimits.Settings
import CgroupLimits.Tasks

/-! The subsystem: all queries about limits and usage in one place.

    A subsystem is a value. A query takes the files and the clock readings as they are and gives
    its answer; the two cached queries, the processor count and the memory limit, give the
    subsystem back with their cache as it is afterwards. No query changes anything else. -/

namespace CgroupLimits

/-- The clock readings of a query, for each cache that it may use; a report uses both. -/
structure Clock.Spans where
  processors : Clock.Span
  memoryLimit : Clock.Span
  deriving DecidableEq, Repr

namespace Clock.Spans

instance : Coe Int Clock.Spans := ⟨fun now => ⟨now, now⟩⟩

instance (now : Nat) : OfNat Clock.Spans now := ⟨(now : Int)⟩

end Clock.Spans

/-- The control directories of a process, with what its queries compare with and keep. -/
structure Subsystem where
  version : Version
  host : Host
  cpu : ControlDirectory
  memory : ControlDirectory
  cpuset : ControlDirectory
  pids : Option ControlDirectory
  grace : Nat
  cpuCache : Cache
  memoryCache : Cache
  deriving DecidableEq, Repr

namespace Subsystem

/-- The kind of container, after the version. -/
def containerType (s : Subsystem) : String :=
  match s.version with
  | .v1 => "cgroupv1"
  | .v2 => "cgroupv2"

/-! ### Queries that are read anew each time -/

/-- The processor time per period. -/
def cpuQuota (s : Subsystem) (files : Files) : Logged Int := Cpu.quota s.version s.cpu files

/-- The length of a period. -/
def cpuPeriod (s : Subsystem) (files : Files) : Logged Int := Cpu.period s.version s.cpu files

/-- The shares of the cgroup. -/
def cpuShares (s : Subsystem) (files : Files) : Logged Int := Cpu.shares s.version s.cpu files

/-- The set of processors. In version 2 the set in force stands in for one not configured. -/
def cpusetProcessors (s : Subsystem) (files : Files) : Logged (Option String) :=
  Cpuset.processors s.cpuset files (s.version = .v2)

/-- The set of memory nodes. In version 2 the set in force stands in for one not configured. -/
def cpusetMemoryNodes (s : Subsystem) (files : Files) : Logged (Option String) :=
  Cpuset.memoryNodes s.cpuset files (s.version = .v2)

/-- The memory in use. -/
def memoryUsage (s : Subsystem) (files : Files) : Logged Int :=
  Memory.usage s.version s.memory files

/-- The limit on memory and swap together. -/
def swapLimit (s : Subsystem) (files : Files) : Logged Int :=
  Memory.swapLimit s.version s.memory files s.host.memory s.host.swap

/-- The memory and swap in use. -/
def swapUsage (s : Subsystem) (files : Files) : Logged Int :=
  Memory.swapUsage s.version s.memory files s.host.memory s.host.swap

/-- The limit that is enforced only when memory is short. -/
def softLimit (s : Subsystem) (files : Files) : Logged Int :=
  Memory.softLimit s.version s.memory files s.host.memory

/-- The most memory that was in use. -/
def peakUsage (s : Subsystem) (files : Files) : Logged Int :=
  Memory.peakUsage s.version s.memory files

/-- The anonymous memory in use. -/
def residentUsage (s : Subsystem) (files : Files) : Logged Int :=
  Memory.residentUsage s.version s.memory files

/-- The memory in use for cached files. -/
def cacheUsage (s : Subsystem) (files : Files) : Logged Int :=
  Memory.cacheUsage s.version s.memory files

/-- The most tasks that there may be; unknown without a pids controller. -/
def tasksMost (s : Subsystem) (files : Files) : Logged Int :=
  match s.pids with
  | some d => Tasks.most d files
  | none => pure Metric.unknown

/-- The tasks that there are; unknown without a pids controller. -/
def tasksCurrent (s : Subsystem) (files : Files) : Logged Int :=
  match s.pids with
  | some d => Tasks.current d files
  | none => pure Metric.unknown

/-! ### Queries that are cached -/

/-- The processor count as the control files have it now. -/
def readProcessors (s : Subsystem) (files : Files) : Logged Int := do
  let quota ← s.cpuQuota files
  let period ← s.cpuPeriod files
  let shares ← s.cpuShares files
  return (← Processors.active quota period shares s.host.processors : Nat)

/-- The memory limit as the control files have it now. -/
def readMemoryLimit (s : Subsystem) (files : Files) : Logged Int :=
  Memory.limit s.version s.memory files s.host.memory

/-- A cached value as a count; one that is no count of 32 bits gives that of the host. -/
def asCount (s : Subsystem) (value : Int) : Nat :=
  if 0 ≤ value ∧ value ≤ Numeral.max32 then value.toNat else s.host.processors

/-- How many processors the process may use. -/
def activeProcessors (s : Subsystem) (files : Files) (now : Clock.Spans) :
    Logged (Nat × Subsystem) := do
  let (value, cache) ← s.cpuCache.get now.processors s.grace (s.readProcessors files)
  return (s.asCount value, { s with cpuCache := cache })

/-- The limit on memory. -/
def memoryLimit (s : Subsystem) (files : Files) (now : Clock.Spans) :
    Logged (Int × Subsystem) := do
  let (value, cache) ← s.memoryCache.get now.memoryLimit s.grace (s.readMemoryLimit files)
  return (value, { s with memoryCache := cache })

/-- The answers to all queries, in the order of the report. -/
def report (s : Subsystem) (files : Files) (now : Clock.Spans) : Logged (Report × Subsystem) := do
  let (activeProcessors, s) ← s.activeProcessors files now
  let cpuQuota ← s.cpuQuota files
  let cpuPeriod ← s.cpuPeriod files
  let cpuShares ← s.cpuShares files
  let cpusetProcessors ← s.cpusetProcessors files
  let cpusetMemoryNodes ← s.cpusetMemoryNodes files
  let (memoryLimit, s) ← s.memoryLimit files now
  let memoryUsage ← s.memoryUsage files
  let swapLimit ← s.swapLimit files
  let swapUsage ← s.swapUsage files
  let softLimit ← s.softLimit files
  let peakUsage ← s.peakUsage files
  let residentUsage ← s.residentUsage files
  let cacheUsage ← s.cacheUsage files
  let tasksMost ← s.tasksMost files
  let tasksCurrent ← s.tasksCurrent files
  return ({ containerType := s.containerType, activeProcessors, cpuQuota, cpuPeriod, cpuShares,
            cpusetProcessors, cpusetMemoryNodes, memoryLimit, memoryUsage, swapLimit, swapUsage,
            softLimit, peakUsage, residentUsage, cacheUsage, tasksMost, tasksCurrent }, s)

end Subsystem

end CgroupLimits
