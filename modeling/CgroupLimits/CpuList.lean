import CgroupLimits.Numeral
import CgroupLimits.Text.Blank
import CgroupLimits.Text.Cut

/-! Lists of processors such as `0-3,8`.

    A list has parts with commas between, each a number or a closed range of numbers. Parts may
    come in any order, overlap and repeat: what counts is how many processors are in at least one
    of them. The count sweeps the sorted ranges from below and adds for each what lies above all
    earlier ones. -/

namespace CgroupLimits.CpuList

/-- A number in a list, with blanks around it. -/
def number? (s : String) : Option Nat :=
  (Numeral.unsigned Numeral.max32 (Text.trim s)).toOption

/-- One part of a list: the least and the greatest processor in it. -/
def range? (part : String) : Option (Nat × Nat) := do
  let (first, last) := (Text.cut? "-" part).getD (part, part)
  let first ← number? first
  let last ← number? last
  if first ≤ last then some (first, last) else none

/-- The ranges of a list, as they stand. -/
def ranges? (list : String) : Option (List (Nat × Nat)) :=
  (Text.split (· == ',') (Text.trim list)).mapM range?

/-- The number of processors from `next` on that are in one of the ranges, which come sorted. -/
def sweep (next : Nat) : List (Nat × Nat) → Nat
  | [] => 0
  | (first, last) :: ranges =>
    if last < next then sweep next ranges
    else last + 1 - max first next + sweep (last + 1) ranges

/-- The order of the sweep: by the least processor, then by the greatest. -/
def earlier (a b : Nat × Nat) : Bool := a.1 < b.1 || (a.1 == b.1 && a.2 ≤ b.2)

/-- How many processors the ranges hold, up to the greatest count of 32 bits. -/
def size (ranges : List (Nat × Nat)) : Nat :=
  min (sweep 0 (ranges.mergeSort earlier)) Numeral.max32

/-- How many processors a list names, or nothing if it is no list. -/
def count? (list : String) : Option Nat := (ranges? list).map size

/-- The wording for a text that is no list. -/
def message (list : String) : String := s!"invalid cpu list `{list}`"

end CgroupLimits.CpuList
