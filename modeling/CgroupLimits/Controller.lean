/-! The controllers that matter for limits, and tables with one entry for each.

    All but `pids` are required: kernels have them wherever they have cgroups, while `pids` came
    later. Names are exact, so `cpu` is neither `cpuset` nor `cpuacct` (`ofName?_name`). -/

namespace CgroupLimits

/-- A controller of the kernel. -/
inductive Controller
  | cpuset
  | cpu
  | cpuacct
  | memory
  | pids
  deriving DecidableEq, Repr

namespace Controller

/-- All controllers, in the order in which they are looked at. -/
def all : List Controller := [.cpuset, .cpu, .cpuacct, .memory, .pids]

/-- The name the kernel gives a controller. -/
def name : Controller → String
  | .cpuset => "cpuset"
  | .cpu => "cpu"
  | .cpuacct => "cpuacct"
  | .memory => "memory"
  | .pids => "pids"

/-- Whether the program needs the controller. -/
def required (c : Controller) : Bool := c ≠ .pids

/-- The controller of a name. -/
def ofName? (name : String) : Option Controller := all.find? (·.name == name)

@[simp] theorem ofName?_name (c : Controller) : ofName? c.name = some c := by
  cases c <;> decide

theorem mem_all (c : Controller) : c ∈ all := by
  cases c <;> decide

end Controller

/-- One value for each controller. -/
structure PerController (α : Type) where
  cpuset : α
  cpu : α
  cpuacct : α
  memory : α
  pids : α
  deriving DecidableEq, Repr

namespace PerController

variable {α β : Type}

/-- The same value for every controller. -/
def replicate (a : α) : PerController α := ⟨a, a, a, a, a⟩

/-- The value for a controller. -/
def get (t : PerController α) : Controller → α
  | .cpuset => t.cpuset
  | .cpu => t.cpu
  | .cpuacct => t.cpuacct
  | .memory => t.memory
  | .pids => t.pids

/-- Changes the value for one controller. -/
def modify (t : PerController α) (c : Controller) (f : α → α) : PerController α :=
  match c with
  | .cpuset => { t with cpuset := f t.cpuset }
  | .cpu => { t with cpu := f t.cpu }
  | .cpuacct => { t with cpuacct := f t.cpuacct }
  | .memory => { t with memory := f t.memory }
  | .pids => { t with pids := f t.pids }

/-- Changes the value for every controller. -/
def map (f : α → β) (t : PerController α) : PerController β :=
  ⟨f t.cpuset, f t.cpu, f t.cpuacct, f t.memory, f t.pids⟩

@[simp] theorem get_map (f : α → β) (t : PerController α) (c : Controller) :
    (t.map f).get c = f (t.get c) := by
  cases c <;> rfl

theorem get_modify (t : PerController α) (c d : Controller) (f : α → α) :
    (t.modify c f).get d = if d = c then f (t.get d) else t.get d := by
  cases c <;> cases d <;> rfl

end PerController

end CgroupLimits
