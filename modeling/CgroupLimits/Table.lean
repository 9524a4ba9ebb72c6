import CgroupLimits.Line
import CgroupLimits.Text.Blank

/-! Tables: text files with at most one entry in a line.

    Lines that hold nothing but blanks are passed over but counted. The first line that is no
    text, or that the entry's own reader refuses, ends the reading with a fault, and what stands
    after it is not looked at. A carriage return belongs to its line; only the newline does not. -/

namespace CgroupLimits

/-- The line that ended the reading of a table. -/
inductive TableFault (ε : Type)
  | notText
  | malformed (number : Nat) (cause : ε)
  deriving DecidableEq, Repr

/-- The entries in front of the first bad line, and what was wrong with it. -/
structure TableScan (ε α : Type) where
  entries : List α
  fault : Option (TableFault ε)

/-- Why a table cannot be read. -/
inductive TableError (ε : Type)
  | cannotOpen (path : String) (cause : OpenFailure)
  | unreadable (path : String) (cause : ReadFailure)
  | malformed (path : String) (number : Nat) (cause : ε)
  deriving DecidableEq, Repr

/-- The wording of an error, given the wording of what can be wrong with an entry. -/
def TableError.message {ε : Type} (wording : ε → String) : TableError ε → String
  | .cannotOpen path cause => s!"failed to open file `{path}`: {cause.message}"
  | .unreadable path cause => s!"failed to read line for file `{path}`: {cause.message}"
  | .malformed path number cause =>
    s!"failed to parse line {number} in file `{path}`: {wording cause}"

/-- Puts an entry, if there is one, in front of a scan. -/
def TableScan.push {ε α : Type} (entry : Option α) (scan : TableScan ε α) : TableScan ε α :=
  { scan with entries := entry.toList ++ scan.entries }

/-- The entries of a scan that met no bad line, else the error that names the file `origin`. -/
def TableScan.result {ε α : Type} (origin : String) (scan : TableScan ε α) :
    Except (TableError ε) (List α) :=
  match scan.fault with
  | none => .ok scan.entries
  | some .notText => .error (.unreadable origin .notText)
  | some (.malformed number cause) => .error (.malformed origin number cause)

namespace Table

variable {ε α : Type}

/-- Reads the entries of `lines`, the first of which has the number `number`. -/
def scanLines (entry : String → Except ε (Option α)) (number : Nat) :
    List (List UInt8) → TableScan ε α
  | [] => ⟨[], none⟩
  | line :: lines =>
    match Text.ofBytes? (Line.body line) with
    | none => ⟨[], some .notText⟩
    | some text =>
      if Text.allBlank text then scanLines entry (number + 1) lines
      else
        match entry text with
        | .error cause => ⟨[], some (.malformed number cause)⟩
        | .ok found => (scanLines entry (number + 1) lines).push found

/-- Reads the entries of a stream of bytes. -/
def scan (entry : String → Except ε (Option α)) (bytes : List UInt8) : TableScan ε α :=
  scanLines entry 1 (Line.all bytes)

/-- The entries of a stream of bytes; `origin` is the file that errors name. -/
def ofBytes (entry : String → Except ε (Option α)) (origin : String) (bytes : List UInt8) :
    Except (TableError ε) (List α) :=
  (scan entry bytes).result origin

/-- Hands the bytes of a file to a reader of streams. -/
def withBytes {β : Type} (files : Files) (path : String) (failed : TableError ε → β)
    (reader : List UInt8 → β) : β :=
  match files path with
  | .failed cause => failed (.cannotOpen path cause)
  | .directory => failed (.unreadable path .isDirectory)
  | .file bytes => reader bytes

/-- The entries of a file. -/
def ofFile (entry : String → Except ε (Option α)) (files : Files) (path : String) :
    Except (TableError ε) (List α) :=
  withBytes files path .error (ofBytes entry path)

end Table

end CgroupLimits
