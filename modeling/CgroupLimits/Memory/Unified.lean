import CgroupLimits.ControlDirectory

/-! What the memory controller of version 2 tells.

    Swap has a limit and a usage of its own here, so what holds for memory and swap together is a
    sum; it is unknown as soon as the part about memory is. -/

namespace CgroupLimits.Memory.Unified

/-- The limit on memory; `bound` is the memory of the host. -/
def limit (d : ControlDirectory) (files : Files) (bound : Nat) : Logged Int :=
  d.limitMetric files "memory.max" "Memory Limit" bound

/-- The memory in use. -/
def usage (d : ControlDirectory) (files : Files) : Logged Int :=
  d.numberMetric files "memory.current" "Memory Usage"

/-- The limit on memory and swap together. -/
def swapLimit (d : ControlDirectory) (files : Files) (hostMemory : Nat) : Logged Int := do
  match ← d.limit files "memory.swap.max" "Swap Limit" Numeral.max64 with
  | none =>
    .say .trace .cgroup
      "Memory and Swap Limit has been reset to the memory limit because swap is not supported"
    limit d files hostMemory
  | some .unlimited => return Metric.unknown
  | some (.value swap) =>
    let memory ← limit d files hostMemory
    return if memory = Metric.unknown then Metric.unknown
      else Metric.add memory (Metric.ofAmount swap)

/-- The memory and swap in use. -/
def swapUsage (d : ControlDirectory) (files : Files) : Logged Int := do
  let memory ← usage d files
  if memory = Metric.unknown then return Metric.unknown
  match ← d.number files "memory.swap.current" "Swap Usage" with
  | some swap => return Metric.add memory (Metric.ofAmount swap)
  | none => return memory

/-- The limit below which memory is protected. -/
def softLimit (d : ControlDirectory) (files : Files) (bound : Nat) : Logged Int :=
  d.limitMetric files "memory.low" "Memory Soft Limit" bound

/-- The most memory that was in use. -/
def peakUsage (d : ControlDirectory) (files : Files) : Logged Int :=
  d.numberMetric files "memory.peak" "Maximum Memory Usage"

/-- The anonymous memory in use. -/
def residentUsage (d : ControlDirectory) (files : Files) : Logged Int :=
  d.keyMetric files "memory.stat" "anon" "RSS Usage"

/-- The memory in use for cached files. -/
def cacheUsage (d : ControlDirectory) (files : Files) : Logged Int :=
  d.keyMetric files "memory.stat" "file" "Cache Usage"

end CgroupLimits.Memory.Unified
