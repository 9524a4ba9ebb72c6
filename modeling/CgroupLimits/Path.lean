import CgroupLimits.Text.Blank

/-! Paths as texts.

    Nothing of a path is normalised when it is extended: `join` puts one slash between two parts
    unless the first is empty or ends in one, and an absolute second part takes the place of the
    first. What a path leads to is said by its `segments`, the parts between slashes that are
    neither empty nor a single dot. -/

namespace CgroupLimits.Path

/-- Whether a path starts at the root. -/
def isAbsolute (path : String) : Bool := path.toList.head? == some '/'

/-- The path of `part` below `base`. -/
def join (base part : String) : String :=
  if isAbsolute part then part
  else if base = "" || base.toList.getLast? == some '/' then base ++ part
  else base ++ "/" ++ part

/-- The parts between slashes, empty ones included. -/
def parts (path : String) : List String := Text.split (· == '/') path

/-- The parts that lead somewhere. -/
def segments (path : String) : List String :=
  (Text.fields (· == '/') path).filter (· ≠ ".")

/-- What two spellings of one path have in common. A dot in front of a relative path counts, all
    other dots and doubled slashes do not. -/
structure Shape where
  absolute : Bool
  dotted : Bool
  segments : List String
  deriving DecidableEq, Repr

/-- The shape of a path. -/
def shape (path : String) : Shape :=
  ⟨isAbsolute path, (parts path).head? == some ".", segments path⟩

end CgroupLimits.Path
