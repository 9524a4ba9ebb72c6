import CgroupLimits.ControlDirectory

/-! What the memory controller of version 1 tells.

    A cgroup's own limit may be no limit at all while one of its ancestors has one: then the
    statistics give the least limit on the way up, if that is below what the host has. The limit
    on memory and swap together falls back to the limit on memory where swap is not accounted, or
    not used. -/

namespace CgroupLimits.Memory.Legacy

/-- The limit in a file, or the inherited one under `key` in the statistics if the file has no
    limit below `bound`. -/
def inherited (d : ControlDirectory) (files : Files) (name key what : String) (bound : Nat) :
    Logged (Option Limit) := do
  match ← d.limit files name what bound with
  | none => return none
  | some (.value n) => return some (.value n)
  | some .unlimited =>
    match ← d.key files "memory.stat" key key with
    | some n => return some (if n < bound then .value n else .unlimited)
    | none => return some .unlimited

/-- The limit on memory; `bound` is the memory of the host. -/
def limit (d : ControlDirectory) (files : Files) (bound : Nat) : Logged Int :=
  Metric.ofLimitReading <$>
    inherited d files "memory.limit_in_bytes" "hierarchical_memory_limit" "Memory Limit" bound

/-- The memory in use. -/
def usage (d : ControlDirectory) (files : Files) : Logged Int :=
  d.numberMetric files "memory.usage_in_bytes" "Memory Usage"

/-- Logs why the limit on memory stands for that on memory and swap. -/
def announceReset (reason : String) : Logged Unit :=
  .say .trace .cgroup
    s!"Memory and Swap Limit has been reset to the memory limit because {reason}"

/-- The limit on memory and swap together. -/
def swapLimit (d : ControlDirectory) (files : Files) (hostMemory hostSwap : Nat) : Logged Int := do
  let reading ← inherited d files "memory.memsw.limit_in_bytes" "hierarchical_memsw_limit"
    "Memory and Swap Limit" (min (hostMemory + hostSwap) Numeral.max64)
  match reading with
  | none =>
    announceReset "swap is not supported"
    limit d files hostMemory
  | some .unlimited => return Metric.unknown
  | some (.value n) =>
    match ← d.number files "memory.swappiness" "Swappiness" with
    | some 0 =>
      announceReset "swappiness is 0"
      limit d files hostMemory
    | _ => return Metric.ofAmount n

/-- The memory and swap in use: that of memory, unless the limits leave room for swap. -/
def swapUsage (d : ControlDirectory) (files : Files) (hostMemory hostSwap : Nat) : Logged Int := do
  let both ← swapLimit d files hostMemory hostSwap
  let memory ← limit d files hostMemory
  if 0 < both ∧ 0 < memory ∧ memory < both then
    d.numberMetric files "memory.memsw.usage_in_bytes" "Memory and Swap Usage"
  else usage d files

/-- The limit that is enforced only when memory is short. -/
def softLimit (d : ControlDirectory) (files : Files) (bound : Nat) : Logged Int :=
  d.limitMetric files "memory.soft_limit_in_bytes" "Memory Soft Limit" bound

/-- The most memory that was in use. -/
def peakUsage (d : ControlDirectory) (files : Files) : Logged Int :=
  d.numberMetric files "memory.max_usage_in_bytes" "Maximum Memory Usage"

/-- The anonymous memory in use. -/
def residentUsage (d : ControlDirectory) (files : Files) : Logged Int :=
  d.keyMetric files "memory.stat" "rss" "RSS Usage"

/-- The memory in use for cached files. -/
def cacheUsage (d : ControlDirectory) (files : Files) : Logged Int :=
  d.keyMetric files "memory.stat" "cache" "Cache Usage"

end CgroupLimits.Memory.Legacy
