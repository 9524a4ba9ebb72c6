import CgroupLimits.ControlTable
import CgroupLimits.Location
import CgroupLimits.Text.Quoted

/-! The directory of a controller's control files, and the ways to read them.

    All reads go through the same steps: find the file in the directory, open it, take its first
    line or search it for a key, and read the word found. A directory that is not there fails
    every read. `observe` logs what a reading gave and forgets why one failed. -/

namespace CgroupLimits

/-- Where a controller's control files are, and the most bytes that a line of them may have. -/
structure ControlDirectory where
  location : Location
  maxLineLength : Nat
  deriving DecidableEq, Repr

namespace ControlDirectory

/-- The path of a control file. -/
def path (d : ControlDirectory) (name : String) : Except ControlError String :=
  match d.location.directory? with
  | some directory => .ok (Path.join directory name)
  | none => .error .noDirectory

/-- Reads the first line of a control file with `reader`, which is given the file's path too. -/
def readLine {α : Type} (d : ControlDirectory) (files : Files) (name : String)
    (reader : String → String → Except ControlError α) : Except ControlError α := do
  let path ← d.path name
  let line ← ControlLine.first path d.maxLineLength (files path)
  reader path line

/-- The only word of a file. -/
def readWord (d : ControlDirectory) (files : Files) (name : String) : Except ControlError String :=
  d.readLine files name ControlLine.word

/-- The only word of a file, as a number. -/
def readNumber (d : ControlDirectory) (files : Files) (name : String) : Except ControlError Nat :=
  d.readLine files name fun path line => ControlLine.word path line >>= ControlLine.number path

/-- The only word of a file, as a signed number. -/
def readSigned (d : ControlDirectory) (files : Files) (name : String) : Except ControlError Int :=
  d.readLine files name fun path line => ControlLine.word path line >>= ControlLine.signed path

/-- The only word of a file, as a limit below `bound`. -/
def readLimit (d : ControlDirectory) (files : Files) (name : String) (bound : Nat) :
    Except ControlError Limit :=
  d.readLine files name fun path line => ControlLine.word path line >>= ControlLine.limit bound path

/-- One of the two words of a file. -/
def readWordOfTwo (d : ControlDirectory) (files : Files) (name : String) (position : Position) :
    Except ControlError String :=
  d.readLine files name (ControlLine.wordOfTwo position)

/-- One of the two words of a file, as a number. -/
def readNumberOfTwo (d : ControlDirectory) (files : Files) (name : String) (position : Position) :
    Except ControlError Nat :=
  d.readLine files name fun path line =>
    ControlLine.wordOfTwo position path line >>= ControlLine.number path

/-- One of the two words of a file, as a limit below `bound`. -/
def readLimitOfTwo (d : ControlDirectory) (files : Files) (name : String) (position : Position)
    (bound : Nat) : Except ControlError Limit :=
  d.readLine files name fun path line =>
    ControlLine.wordOfTwo position path line >>= ControlLine.limit bound path

/-- The value of a key in a file of keys and values. -/
def readKey (d : ControlDirectory) (files : Files) (name key : String) :
    Logged (Except ControlError Nat) :=
  match d.path name with
  | .error error => pure (.error error)
  | .ok path => ControlTable.value path key d.maxLineLength (files path)

/-! ### Readings that are logged -/

/-- Logs what a reading of `what` gave. -/
def observe {α : Type} (what : String) (render : α → String) :
    Except ControlError α → Logged (Option α)
  | .ok a => do
    .say .trace .cgroup s!"{what} is: {render a}"
    return some a
  | .error error => do
    .say .debug .cgroup s!"{what} failed: {error.message}"
    return none

/-- The number in a file, if it has one. -/
def number (d : ControlDirectory) (files : Files) (name what : String) : Logged (Option Nat) :=
  observe what toString (d.readNumber files name)

/-- The limit in a file, if it has one. -/
def limit (d : ControlDirectory) (files : Files) (name what : String) (bound : Nat) :
    Logged (Option Limit) :=
  observe what Limit.render (d.readLimit files name bound)

/-- The value of a key, if it has one. -/
def key (d : ControlDirectory) (files : Files) (name key what : String) : Logged (Option Nat) := do
  observe what toString (← d.readKey files name key)

/-- The word in a file, if it has one. -/
def word (d : ControlDirectory) (files : Files) (name what : String) : Logged (Option String) :=
  observe what Text.quoted (d.readWord files name)

/-- The number in a file, as a metric. -/
def numberMetric (d : ControlDirectory) (files : Files) (name what : String) : Logged Int :=
  Metric.ofReading <$> d.number files name what

/-- The limit in a file, as a metric. -/
def limitMetric (d : ControlDirectory) (files : Files) (name what : String) (bound : Nat) :
    Logged Int :=
  Metric.ofLimitReading <$> d.limit files name what bound

/-- The value of a key, as a metric. -/
def keyMetric (d : ControlDirectory) (files : Files) (name key what : String) : Logged Int :=
  Metric.ofReading <$> d.key files name key what

@[simp] theorem value_observe {α : Type} (what : String) (render : α → String)
    (reading : Except ControlError α) : (observe what render reading).value = reading.toOption := by
  cases reading <;> rfl

end ControlDirectory

end CgroupLimits
