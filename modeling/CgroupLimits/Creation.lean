import CgroupLimits.Subsystem

/-! Making a subsystem from what detection found.

    A subsystem exists exactly where detection gives a version. In version 1 each controller has
    its own directory and `pids` is used if it is bound; in version 2 all share one directory and
    `pids` is used if the kernel has it enabled. Both caches start empty. -/

namespace CgroupLimits.Subsystem

/-- The control directory of a controller, if detection bound it to a mount and a path. -/
def locate (settings : Settings) (bindings : Bindings) (c : Controller) :
    Logged (Option ControlDirectory) :=
  match (bindings.get c).location? with
  | none => pure none
  | some location => do
    location.announce
    return some ⟨location, settings.maxLineLength⟩

/-- A subsystem of version 1. -/
def ofLegacy (settings : Settings) (host : Host) (bindings : Bindings) :
    Logged (Option Subsystem) := do
  let pids ← if (bindings.get .pids).complete then locate settings bindings .pids else pure none
  let cpu ← locate settings bindings .cpu
  let memory ← locate settings bindings .memory
  let cpuset ← locate settings bindings .cpuset
  return do
    return { version := .v1, host, cpu := ← cpu, memory := ← memory, cpuset := ← cpuset, pids,
             grace := settings.cacheTimeout, cpuCache := .empty, memoryCache := .empty }

/-- A subsystem of version 2. -/
def ofUnified (settings : Settings) (host : Host) (bindings : Bindings) :
    Logged (Option Subsystem) := do
  let shared ← locate settings bindings .memory
  return shared.map fun d =>
    { version := .v2, host, cpu := d, memory := d, cpuset := d,
      pids := if (bindings.get .pids).enabled then some d else none,
      grace := settings.cacheTimeout, cpuCache := .empty, memoryCache := .empty }

/-- The subsystem for a host, or the verdict that leaves none. -/
def create (files : Files) (settings : Settings) (host : Host) :
    Logged (Except Verdict Subsystem) := do
  let detection ← detect files settings.controllersPath settings.membershipsPath
    settings.mountsPath
  match detection.verdict.version? with
  | none =>
    .say .debug .cgroup s!"Not running with cgroup limits: {detection.verdict.message}"
    return .error detection.verdict
  | some version =>
    let subsystem? ← match version with
      | .v1 => ofLegacy settings host detection.bindings
      | .v2 => ofUnified settings host detection.bindings
    match subsystem? with
    | some subsystem => return .ok subsystem
    | none => return .error detection.verdict

/-- The subsystem for the host that the files tell of. -/
def ofFiles (files : Files) (settings : Settings) (fallbackProcessors : Nat) :
    Logged (Except Verdict Subsystem) := do
  let host ← Host.detect files settings.procRoot fallbackProcessors
  create files settings host

/-- What the program prints: a report, or `null` where there is no subsystem. -/
def summary (files : Files) (settings : Settings) (fallbackProcessors : Nat) (now : Clock.Spans) :
    Logged String := do
  match ← ofFiles files settings fallbackProcessors with
  | .error _ => return "null"
  | .ok subsystem =>
    let (report, _) ← subsystem.report files now
    return report.render

end CgroupLimits.Subsystem
