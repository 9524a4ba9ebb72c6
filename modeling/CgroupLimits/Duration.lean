/-! Lengths of time as log records show them.

    A length is a number of nanoseconds. It is shown in the largest unit that it fills, with as
    many decimal places as it needs and no more. -/

namespace CgroupLimits.Duration

/-- The nanoseconds in a millisecond. -/
def millisecond : Nat := 1000000

/-- The nanoseconds in a second. -/
def second : Nat := 1000000000

/-- The digits of `n` filled up with zeros in front to `width` places. -/
def padded (width n : Nat) : List Char :=
  let digits := Nat.toDigits 10 n
  List.replicate (width - digits.length) '0' ++ digits

/-- The decimal places of the fraction `n / 10 ^ width`, without zeros at the end. -/
def places (width n : Nat) : List Char :=
  ((padded width n).reverse.dropWhile (· == '0')).reverse

/-- A number of units, each of `10 ^ width` nanoseconds. -/
def inUnits (width nanos : Nat) (unit : String) : String :=
  let one := Nat.pow 10 width
  let fraction := places width (nanos % one)
  let point := if fraction = [] then "" else "."
  toString (nanos / one) ++ point ++ String.ofList fraction ++ unit

/-- A length of time in the largest unit that it fills. -/
def render (nanos : Nat) : String :=
  if second ≤ nanos then inUnits 9 nanos "s"
  else if millisecond ≤ nanos then inUnits 6 nanos "ms"
  else if 1000 ≤ nanos then inUnits 3 nanos "µs"
  else inUnits 0 nanos "ns"

end CgroupLimits.Duration
