import CgroupLimits.ControlLine
import CgroupLimits.Journal
import CgroupLimits.Text.Cut

/-! Control files of keys and values, one pair in a line.

    The value of a key is the word behind it on the first line that begins with the key, a space
    or tab directly behind it, and has such a word. Lines past the bound are passed over whole and
    logged; a line that is no text ends the search. -/

namespace CgroupLimits.ControlTable

/-- The word for `key` in a line, if the line has one. -/
def wordFor? (key line : String) : Option String :=
  match Text.after? key line with
  | none => none
  | some behind =>
    if behind.toList.head? = some ' ' ∨ behind.toList.head? = some '\t' then
      (Text.words behind).head?
    else none

/-- Searches the rest of a stream for the value of `key`. -/
def search (path key : String) (most : Nat) (bytes : List UInt8) :
    Logged (Except ControlError Nat) :=
  if h : bytes = [] then pure (.error (.keyMissing path key))
  else
    have := Line.rest_lt most h
    have := Line.skip_le (Line.rest most bytes)
    match Line.outcome most (Line.taken most bytes) with
    | .ended => pure (.error (.keyMissing path key))
    | .notText => pure (.error (.unreadable path .notText))
    | .tooLong => do
      .say .trace .cgroup s!"Skipping line longer than {most} bytes in `{path}`"
      search path key most (Line.skip (Line.rest most bytes))
    | .line text =>
      match wordFor? key text with
      | some w => pure (ControlLine.number path w)
      | none => search path key most (Line.rest most bytes)
termination_by bytes.length

/-- The value of `key` in an open file. -/
def value (path key : String) (most : Nat) : Opened → Logged (Except ControlError Nat)
  | .failed cause => pure (.error (.cannotOpen path cause))
  | .directory => pure (.error (.unreadable path .isDirectory))
  | .file bytes => search path key most bytes

end CgroupLimits.ControlTable
