import CgroupLimits.Duration
import CgroupLimits.Journal
import CgroupLimits.Numeral
import CgroupLimits.Path
import CgroupLimits.Text.Quoted

/-! What a user can set through the environment.

    Three variables override three defaults, each on its own. A malformed number leaves its
    default and is logged, as is a line length of zero. -/

namespace CgroupLimits

/-- Where the kernel's tables are, how long a cached metric lasts in nanoseconds, and the most
    bytes that a line of a control file may have. -/
structure Settings where
  procRoot : String
  cacheTimeout : Nat
  maxLineLength : Nat
  deriving DecidableEq, Repr

namespace Settings

/-- How long a cached metric lasts unless set otherwise. -/
def defaultCacheTimeout : Nat := 20 * Duration.millisecond

/-- The most bytes in a line unless set otherwise. -/
def defaultMaxLineLength : Nat := 1024

/-- What holds for an empty environment. -/
def default : Settings := ⟨"/proc", defaultCacheTimeout, defaultMaxLineLength⟩

/-- The variable that names the proc root. -/
def procRootKey : String := "CGROUP_PROBE_PROC_ROOT"

/-- The variable that holds the cache timeout in milliseconds. -/
def cacheTimeoutKey : String := "CGROUP_PROBE_CACHE_TIMEOUT_MS"

/-- The variable that holds the most bytes in a line. -/
def maxLineLengthKey : String := "CGROUP_PROBE_MAX_LINE_LEN"

/-- The number in a variable, with blanks around it, if the variable is set and well formed. -/
def number? (lookup : String → Option String) (key : String) : Logged (Option Nat) :=
  match lookup key with
  | none => pure none
  | some raw =>
    match Numeral.unsigned Numeral.max64 (Text.trim raw) with
    | .ok n => pure (some n)
    | .error fault => do
      .say .warn .settings s!"Ignoring malformed `{key}={raw}`: {fault.message}"
      return none

/-- The settings as a log record shows them. -/
def render (s : Settings) : String :=
  let root := Text.quoted s.procRoot
  let timeout := Duration.render s.cacheTimeout
  s!"Config \x7b proc_root: {root}, cache_timeout: {timeout}, max_line_len: {s.maxLineLength} \x7d"

/-- The settings that an environment asks for. -/
def ofEnvironment (lookup : String → Option String) : Logged Settings := do
  let procRoot := (lookup procRootKey).getD default.procRoot
  let milliseconds ← number? lookup cacheTimeoutKey
  let cacheTimeout := (milliseconds.map (· * Duration.millisecond)).getD default.cacheTimeout
  let wanted ← number? lookup maxLineLengthKey
  if wanted = some 0 then .say .warn .settings s!"Ignoring `{maxLineLengthKey}=0`"
  let maxLineLength := (wanted.filter (0 < ·)).getD default.maxLineLength
  let settings : Settings := { procRoot, cacheTimeout, maxLineLength }
  .say .debug .settings s!"Using {settings.render}"
  return settings

/-- The table of controllers. -/
def controllersPath (s : Settings) : String := Path.join s.procRoot "cgroups"

/-- The table of the process's cgroups. -/
def membershipsPath (s : Settings) : String := Path.join s.procRoot "self/cgroup"

/-- The table of the process's mounts. -/
def mountsPath (s : Settings) : String := Path.join s.procRoot "self/mountinfo"

/-- Whether two settings mean the same: roots are compared by shape. -/
def same (s t : Settings) : Bool :=
  Path.shape s.procRoot == Path.shape t.procRoot && s.cacheTimeout == t.cacheTimeout &&
    s.maxLineLength == t.maxLineLength

end Settings

end CgroupLimits
