import CgroupLimits.Journal
import CgroupLimits.Metric

/-! CPU shares, and the weights that stand for them in version 2.

    Shares go from 2 to 262144 with 1024 for one processor; weights go from 1 to 10000 with 100 as
    the default. A weight is scaled to shares along a straight line, and above one processor the
    result moves to the nearest whole number of processors, the lower one in a tie. -/

namespace CgroupLimits.Shares

/-- The shares of one processor, which are also those a cgroup has by default. -/
def perProcessor : Nat := 1024

/-- The weight that a cgroup has by default. -/
def defaultWeight : Nat := 100

/-- The greatest weight. -/
def greatestWeight : Nat := 10000

/-- A weight on the scale of shares. -/
def scaled (weight : Nat) : Nat := (262142 * weight - 1) / 9999 + 2

/-- Shares moved to the nearest whole number of processors, if they are for more than one. -/
def snapped (shares : Nat) : Nat :=
  if shares ≤ perProcessor then shares
  else
    let lower := shares / perProcessor * perProcessor
    let upper := lower + perProcessor
    if shares - lower ≤ upper - shares then lower else upper

/-- The shares that a weight stands for; the default weight and one out of range stand for none. -/
def ofWeight (weight : Nat) : Logged Int :=
  if weight = defaultWeight then pure Metric.unknown
  else if weight = 0 ∨ greatestWeight < weight then do
    .say .debug .cgroup s!"CPU Weight {weight} is out of range"
    return Metric.unknown
  else return snapped (scaled weight)

end CgroupLimits.Shares
