import CgroupLimits.Numeral

/-! Metrics: what the program answers about limits and usage.

    A metric is an integer of 64 bits: the number itself, cut off at the greatest signed value, or
    `unknown` where there is no number to give. A limit that is not set is unknown too, for a
    caller has nothing to obey. -/

namespace CgroupLimits

/-- A limit as a control file states it. -/
inductive Limit
  | value (n : Nat)
  | unlimited
  deriving DecidableEq, Repr

namespace Metric

/-- The answer where there is no number. -/
def unknown : Int := -1

/-- The greatest answer. -/
def greatest : Int := Numeral.max63

/-- The least integer of 64 bits. -/
def least : Int := -greatest - 1

/-- The metric of an amount. -/
def ofAmount (n : Nat) : Int := min (n : Int) greatest

/-- The metric of a limit. -/
def ofLimit : Limit → Int
  | .value n => ofAmount n
  | .unlimited => unknown

/-- The sum of two metrics, cut off at both ends of their range. -/
def add (a b : Int) : Int := max least (min (a + b) greatest)

/-- The metric of a reading that may have failed. -/
def ofReading (reading : Option Nat) : Int := reading.elim unknown ofAmount

/-- The metric of a limit that may not have been read. -/
def ofLimitReading (reading : Option Limit) : Int := reading.elim unknown ofLimit

theorem ofAmount_nonneg (n : Nat) : 0 ≤ ofAmount n := by
  simp only [ofAmount, greatest, Numeral.max63]
  omega

theorem ofAmount_ne_unknown (n : Nat) : ofAmount n ≠ unknown := by
  have := ofAmount_nonneg n
  simp only [unknown]
  omega

theorem ofAmount_le_greatest (n : Nat) : ofAmount n ≤ greatest := Int.min_le_right _ _

/-- A metric of an amount loses nothing below the greatest one. -/
theorem ofAmount_eq {n : Nat} (h : n ≤ Numeral.max63) : ofAmount n = n := by
  simp only [ofAmount, greatest]
  omega

end Metric

/-- A limit as a log record shows it. -/
def Limit.render : Limit → String
  | .value n => s!"Value({n})"
  | .unlimited => "Unlimited"

end CgroupLimits
