/-! The two versions of cgroups.

    In version 1 each controller has a hierarchy of its own or shares one with a few others; in
    version 2 all controllers share the unified hierarchy. -/

namespace CgroupLimits

/-- A version of cgroups. -/
inductive Version
  | v1
  | v2
  deriving DecidableEq, Repr

end CgroupLimits
