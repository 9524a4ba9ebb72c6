import CgroupLimits.Memory.Legacy
import CgroupLimits.Memory.Unified
import CgroupLimits.Version

/-! What the memory controller tells, whichever version it is of.

    All amounts are in bytes. A limit at or above what the host has is no limit and is unknown. -/

namespace CgroupLimits.Memory

/-- The limit on memory; `bound` is the memory of the host. -/
def limit (version : Version) (d : ControlDirectory) (files : Files) (bound : Nat) : Logged Int :=
  match version with
  | .v1 => Legacy.limit d files bound
  | .v2 => Unified.limit d files bound

/-- The memory in use. -/
def usage (version : Version) (d : ControlDirectory) (files : Files) : Logged Int :=
  match version with
  | .v1 => Legacy.usage d files
  | .v2 => Unified.usage d files

/-- The limit on memory and swap together. -/
def swapLimit (version : Version) (d : ControlDirectory) (files : Files)
    (hostMemory hostSwap : Nat) : Logged Int :=
  match version with
  | .v1 => Legacy.swapLimit d files hostMemory hostSwap
  | .v2 => Unified.swapLimit d files hostMemory

/-- The memory and swap in use. -/
def swapUsage (version : Version) (d : ControlDirectory) (files : Files)
    (hostMemory hostSwap : Nat) : Logged Int :=
  match version with
  | .v1 => Legacy.swapUsage d files hostMemory hostSwap
  | .v2 => Unified.swapUsage d files

/-- The limit that is enforced only when memory is short. -/
def softLimit (version : Version) (d : ControlDirectory) (files : Files) (bound : Nat) :
    Logged Int :=
  match version with
  | .v1 => Legacy.softLimit d files bound
  | .v2 => Unified.softLimit d files bound

/-- The most memory that was in use. -/
def peakUsage (version : Version) (d : ControlDirectory) (files : Files) : Logged Int :=
  match version with
  | .v1 => Legacy.peakUsage d files
  | .v2 => Unified.peakUsage d files

/-- The anonymous memory in use. -/
def residentUsage (version : Version) (d : ControlDirectory) (files : Files) : Logged Int :=
  match version with
  | .v1 => Legacy.residentUsage d files
  | .v2 => Unified.residentUsage d files

/-- The memory in use for cached files. -/
def cacheUsage (version : Version) (d : ControlDirectory) (files : Files) : Logged Int :=
  match version with
  | .v1 => Legacy.cacheUsage d files
  | .v2 => Unified.cacheUsage d files

end CgroupLimits.Memory
