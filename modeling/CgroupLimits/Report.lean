import CgroupLimits.Text.Json

/-! A snapshot of all that is known about the limits and the usage of the process. -/

namespace CgroupLimits

/-- The answers to all queries at one time. -/
structure Report where
  containerType : String
  activeProcessors : Nat
  cpuQuota : Int
  cpuPeriod : Int
  cpuShares : Int
  cpusetProcessors : Option String
  cpusetMemoryNodes : Option String
  memoryLimit : Int
  memoryUsage : Int
  swapLimit : Int
  swapUsage : Int
  softLimit : Int
  peakUsage : Int
  residentUsage : Int
  cacheUsage : Int
  tasksMost : Int
  tasksCurrent : Int
  deriving DecidableEq, Repr

namespace Report

/-- The fields of the report with their written values, in the order in which they are answered. -/
def fields (r : Report) : List (String × String) :=
  [("container_type", Text.Json.string r.containerType),
   ("active_processor_count", toString r.activeProcessors),
   ("cpu_quota", toString r.cpuQuota),
   ("cpu_period", toString r.cpuPeriod),
   ("cpu_shares", toString r.cpuShares),
   ("cpuset_cpus", Text.Json.string? r.cpusetProcessors),
   ("cpuset_memory_nodes", Text.Json.string? r.cpusetMemoryNodes),
   ("memory_limit", toString r.memoryLimit),
   ("memory_usage", toString r.memoryUsage),
   ("memory_and_swap_limit", toString r.swapLimit),
   ("memory_and_swap_usage", toString r.swapUsage),
   ("memory_soft_limit", toString r.softLimit),
   ("memory_max_usage", toString r.peakUsage),
   ("rss_usage", toString r.residentUsage),
   ("cache_usage", toString r.cacheUsage),
   ("pids_max", toString r.tasksMost),
   ("pids_current", toString r.tasksCurrent)]

/-- The report as text. -/
def render (r : Report) : String := Text.Json.object r.fields

end Report

end CgroupLimits
