import CgroupLimits.ControlDirectory

/-! What the pids controller tells: how many tasks there may be, and how many there are. -/

namespace CgroupLimits.Tasks

/-- The most tasks that the cgroup may have. -/
def most (d : ControlDirectory) (files : Files) : Logged Int :=
  d.limitMetric files "pids.max" "Maximum number of tasks" Numeral.max64

/-- The tasks that the cgroup has. -/
def current (d : ControlDirectory) (files : Files) : Logged Int :=
  d.numberMetric files "pids.current" "Current number of tasks"

end CgroupLimits.Tasks
