import CgroupLimits.ControlDirectory
import CgroupLimits.Shares
import CgroupLimits.Version

/-! What the cpu controller tells: quota, period and shares.

    Version 1 has a file for each; version 2 has quota and period in one file and a weight in
    place of shares. A quota without limit and shares at their default are unknown. -/

namespace CgroupLimits.Cpu

/-- The processor time per period, in microseconds. -/
def quota (version : Version) (d : ControlDirectory) (files : Files) : Logged Int :=
  match version with
  | .v1 => do
    let reading ← ControlDirectory.observe "CPU Quota" toString
      (d.readSigned files "cpu.cfs_quota_us")
    return match reading with
      | some quota => if quota < 0 then Metric.unknown else quota
      | none => Metric.unknown
  | .v2 => do
    let reading ← ControlDirectory.observe "CPU Quota" Limit.render
      (d.readLimitOfTwo files "cpu.max" .first Numeral.max64)
    return Metric.ofLimitReading reading

/-- The length of a period, in microseconds. -/
def period (version : Version) (d : ControlDirectory) (files : Files) : Logged Int :=
  match version with
  | .v1 => d.numberMetric files "cpu.cfs_period_us" "CPU Period"
  | .v2 => do
    let reading ← ControlDirectory.observe "CPU Period" toString
      (d.readNumberOfTwo files "cpu.max" .second)
    return Metric.ofReading reading

/-- The shares of the cgroup, unless they are what every cgroup gets. -/
def shares (version : Version) (d : ControlDirectory) (files : Files) : Logged Int :=
  match version with
  | .v1 => do
    let shares ← d.numberMetric files "cpu.shares" "CPU Shares"
    return if shares = Shares.perProcessor then Metric.unknown else shares
  | .v2 => do
    match ← d.number files "cpu.weight" "CPU Weight" with
    | some weight => Shares.ofWeight weight
    | none => return Metric.unknown

end CgroupLimits.Cpu
