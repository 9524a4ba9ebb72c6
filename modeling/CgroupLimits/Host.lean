import CgroupLimits.CpuList
import CgroupLimits.Journal
import CgroupLimits.Path
import CgroupLimits.RowFault
import CgroupLimits.Table

/-! What the host has: processors, memory and swap.

    The processors are those the process may run on, as its status file lists them; memory and
    swap are totals of the memory table. Each of the three is read on its own and has a value to
    fall back to, so a defect in one source never shows in another. -/

namespace CgroupLimits

/-- The resources of the host; memory and swap in bytes. -/
structure Host where
  processors : Nat
  memory : Nat
  swap : Nat
  deriving DecidableEq, Repr

/-- Why a line about the host cannot be read. -/
inductive HostFault
  | row (fault : RowFault)
  | cpuList (list : String)
  deriving DecidableEq, Repr

/-- The wording of a fault. -/
def HostFault.message : HostFault → String
  | .row fault => fault.message
  | .cpuList list => CpuList.message list

/-- Why a value of the host cannot be had. -/
inductive HostError
  | table (error : TableError HostFault)
  | missingKey (path key : String)
  deriving DecidableEq, Repr

/-- The wording of an error. -/
def HostError.message : HostError → String
  | .table error => error.message HostFault.message
  | .missingKey path key => s!"missing key `{key}` in file `{path}`"

namespace Host

/-- The value of the first line that has one; all lines have to be good. -/
def firstValue (entry : String → Except HostFault (Option Nat)) (key : String) (files : Files)
    (path : String) : Except HostError Nat :=
  match Table.ofFile entry files path with
  | .error error => .error (.table error)
  | .ok [] => .error (.missingKey path key)
  | .ok (value :: _) => .ok value

/-- The beginning of the line that lists the allowed processors. -/
def allowedKey : String := "Cpus_allowed_list:"

/-- The number of allowed processors, in a line that lists them. -/
def allowedCount (line : String) : Except HostFault (Option Nat) :=
  match Text.after? allowedKey line with
  | none => .ok none
  | some list =>
    match CpuList.count? (Text.trim list) with
    | some count => .ok (some count)
    | none => .error (.cpuList (Text.trim list))

/-- The amount of `key` in bytes, in a line for it. The unit `kB` stands for 1024 bytes. -/
def amount (key line : String) : Except HostFault (Option Nat) :=
  match Text.cut? ":" line with
  | none => .ok none
  | some (name, value) =>
    if name = key then
      let words := Text.words value
      match RowFault.number Numeral.max64 line (words.headD "") with
      | .error fault => .error (.row fault)
      | .ok number =>
        let unit := if words[1]? = some "kB" then 1024 else 1
        .ok (some (min (number * unit) Numeral.max64))
    else .ok none

/-- The allowed processors; `fallback` where the status file does not tell. -/
def detectProcessors (files : Files) (procRoot : String) (fallback : Nat) : Logged Nat := do
  match firstValue allowedCount allowedKey files (Path.join procRoot "self/status") with
  | .ok count => return if 0 < count then count else fallback
  | .error error =>
    .say .debug .host s!"Failed to read allowed cpus: {error.message}"
    return fallback

/-- A total of the memory table; `fallback` where the table does not tell. -/
def detectAmount (files : Files) (procRoot key : String) (level : Level) (what : String)
    (fallback : Nat) : Logged Nat := do
  match firstValue (amount key) key files (Path.join procRoot "meminfo") with
  | .ok bytes => return bytes
  | .error error =>
    .say level .host s!"Failed to read host {what}: {error.message}"
    return fallback

/-- The resources as a log record shows them. -/
def render (host : Host) : String :=
  s!"HostResources \x7b processors: {host.processors}, physical_memory: {host.memory}, " ++
    s!"swap: {host.swap} \x7d"

/-- The resources that the files under a proc root tell of. -/
def detect (files : Files) (procRoot : String) (fallbackProcessors : Nat) : Logged Host := do
  let processors ← detectProcessors files procRoot fallbackProcessors
  let memory ← detectAmount files procRoot "MemTotal" .warn "memory" Numeral.max64
  let swap ← detectAmount files procRoot "SwapTotal" .debug "swap" 0
  let host : Host := { processors, memory, swap }
  .say .debug .host s!"Host resources: {host.render}"
  return host

end Host

end CgroupLimits
