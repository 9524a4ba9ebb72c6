import CgroupLimits.Journal
import CgroupLimits.Shares

/-! How many processors a cgroup may keep busy.

    A quota per period comes first, shares come second, and either is rounded up to whole
    processors. The answer is at least one and at most what the host has. -/

namespace CgroupLimits.Processors

/-- The quotient rounded up, for positive numbers. -/
def roundUp (a b : Int) : Int := a / b + if a % b = 0 then 0 else 1

/-- The processors that the settings of the cgroup amount to, if they set a limit at all. -/
def limit? (quota period shares : Int) : Option Int :=
  if 0 < quota ∧ 0 < period then some (roundUp quota period)
  else if 0 < shares then some (roundUp shares Shares.perProcessor)
  else none

/-- The processors that a process may use on a host with `host` of them. -/
def active (quota period shares : Int) (host : Nat) : Logged Nat :=
  let host := max 1 host
  match limit? quota period shares with
  | none => pure host
  | some limit => do
    let count := (max 1 (min limit host)).toNat
    .say .trace .cgroup s!"CPU limit {limit} results in {count} active processors"
    return count

theorem active_pos (quota period shares : Int) (host : Nat) :
    1 ≤ (active quota period shares host).value := by
  unfold active
  split
  · simp only [Logged.value_pure]
    omega
  · simp only [Logged.value_bind, Logged.value_pure]
    omega

theorem active_le (quota period shares : Int) (host : Nat) :
    (active quota period shares host).value ≤ max 1 host := by
  unfold active
  split
  · simp only [Logged.value_pure]
    omega
  · simp only [Logged.value_bind, Logged.value_pure]
    omega

end CgroupLimits.Processors
