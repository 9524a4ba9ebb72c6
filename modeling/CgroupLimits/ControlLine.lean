import CgroupLimits.ControlError
import CgroupLimits.Line
import CgroupLimits.Metric
import CgroupLimits.Text.Blank

/-! Control files of a single line.

    Such a file holds one word, or two, in its first line; what stands behind that line is not
    looked at. A word is taken as a number, as a signed number, or as a limit: `max`, a negative
    number and a number at or above the caller's bound are all no limit. -/

namespace CgroupLimits

/-- Which of two words. -/
inductive Position
  | first
  | second
  deriving DecidableEq, Repr

namespace ControlLine

/-- The first line of an open file. -/
def first (path : String) (most : Nat) : Opened → Except ControlError String
  | .failed cause => .error (.cannotOpen path cause)
  | .directory => .error (.unreadable path .isDirectory)
  | .file bytes =>
    match (Line.read most bytes).1 with
    | .line text => .ok text
    | .ended => .error (.empty path)
    | .tooLong => .error (.lineTooLong path most)
    | .notText => .error (.unreadable path .notText)

/-- The word of a line that has just one. -/
def word (path line : String) : Except ControlError String :=
  match Text.words line with
  | [w] => .ok w
  | _ => .error (.unexpected path line)

/-- One of the words of a line that has just two. -/
def wordOfTwo (position : Position) (path line : String) : Except ControlError String :=
  match Text.words line with
  | [w, v] => .ok (match position with
    | .first => w
    | .second => v)
  | _ => .error (.unexpected path line)

/-- A word as an amount of 64 bits. -/
def number (path w : String) : Except ControlError Nat :=
  (Numeral.unsigned Numeral.max64 w).mapError fun _ => .unexpected path w

/-- A word as a signed amount of 64 bits. -/
def signed (path w : String) : Except ControlError Int :=
  (Numeral.signed Numeral.max63 w).mapError fun _ => .unexpected path w

/-- A word as a limit below `bound`. -/
def limit (bound : Nat) (path w : String) : Except ControlError Limit :=
  if w = "max" then .ok .unlimited
  else if w.toList.head? = some '-' then (signed path w).map fun _ => .unlimited
  else (number path w).map fun n => if n < bound then .value n else .unlimited

end ControlLine

end CgroupLimits
