import CgroupLimits.Version

/-! The outcome of looking for cgroups: one of the two versions, or why neither is usable. -/

namespace CgroupLimits

/-- The outcome of detection. -/
inductive Verdict
  | unset
  | v1
  | v2
  | invalidV2
  | invalidV1
  | noMount
  | invalid
  deriving DecidableEq, Repr

namespace Verdict

/-- All outcomes. -/
def all : List Verdict := [.unset, .v1, .v2, .invalidV2, .invalidV1, .noMount, .invalid]

/-- The wording of an outcome. -/
def message : Verdict → String
  | .unset => "unset"
  | .v1 => "cgroup v1"
  | .v2 => "cgroup v2"
  | .invalidV2 => "invalid cgroup v2"
  | .invalidV1 => "invalid cgroup v1"
  | .noMount => "no cgroup mount"
  | .invalid => "invalid cgroup configuration"

/-- The version that can be used. -/
def version? : Verdict → Option Version
  | .v1 => some .v1
  | .v2 => some .v2
  | _ => none

/-- Whether a version can be used. -/
def valid (v : Verdict) : Bool := v.version?.isSome

/-- The verdict for a version that can be used. -/
def ofVersion : Version → Verdict
  | .v1 => .v1
  | .v2 => .v2

theorem version?_eq_some_iff {v : Verdict} {version : Version} :
    v.version? = some version ↔ v = ofVersion version := by
  cases v <;> cases version <;> simp [version?, ofVersion]

/-- What is said when no version can be used. -/
def unavailableMessage (v : Verdict) : String := s!"no cgroup subsystem available: {v.message}"

end Verdict

end CgroupLimits
