import CgroupLimits.Controller
import CgroupLimits.ControllerRow
import CgroupLimits.Journal
import CgroupLimits.Location
import CgroupLimits.Membership
import CgroupLimits.Mount
import CgroupLimits.Verdict

/-! Detection: which version of cgroups governs the process, and where each controller is.

    Three tables are combined. The table of controllers tells which are enabled and on which
    hierarchy; the table of mounts tells where hierarchies are seen; the table of memberships
    tells the process's path in each. If all required controllers are on hierarchy 0 the version
    is 2 and all controllers share the first unified mount; otherwise it is 1 and each controller
    is bound to the first mount that carries it and to the last membership that names it. Anything
    short of a consistent picture is an invalid verdict, never an error. -/

namespace CgroupLimits

/-- What detection learned about one controller. `complete` says that it is bound to a mount and
    to a path, and is only looked at in version 1. -/
structure Binding where
  hierarchy : Option Nat
  enabled : Bool
  complete : Bool
  cgroupPath : Option String
  root : Option String
  mountPoint : Option String
  deriving DecidableEq, Repr

/-- What detection learned about each controller. -/
abbrev Bindings := PerController Binding

/-- The verdict and what led to it. -/
structure Detection where
  verdict : Verdict
  bindings : Bindings
  deriving DecidableEq, Repr

namespace Binding

/-- Nothing is known. -/
def empty : Binding := ⟨none, false, false, none, none, none⟩

/-- What a row of the table of controllers adds. -/
def withRow (row : ControllerRow) (b : Binding) : Binding :=
  { b with hierarchy := some row.hierarchy, enabled := row.enabled }

/-- What a mount adds. -/
def withMount (mount : Mount) (b : Binding) : Binding :=
  { b with root := some mount.root, mountPoint := some mount.mountPoint }

/-- What the process's path adds. -/
def withPath (path : String) (b : Binding) : Binding := { b with cgroupPath := some path }

/-- Notes whether mount and path are both known. -/
def completed (b : Binding) : Binding :=
  { b with complete := b.mountPoint.isSome && b.cgroupPath.isSome }

/-- Where the controller's cgroup is. -/
def location? (b : Binding) : Option Location := do
  return ⟨← b.root, ← b.mountPoint, ← b.cgroupPath⟩

end Binding

namespace Bindings

/-- Nothing is known of any controller. -/
def empty : Bindings := .replicate .empty

/-- Enters a row of the table of controllers; other controllers' rows change nothing. -/
def enterRow (bindings : Bindings) (row : ControllerRow) : Bindings :=
  match Controller.ofName? row.name with
  | some c => bindings.modify c (.withRow row)
  | none => bindings

/-- Binds a controller to a mount that carries it, unless it is bound already. -/
def enterMountFor (mount : Mount) (bindings : Bindings) (c : Controller) : Logged Bindings :=
  if mount.carries c.name then
    match (bindings.get c).mountPoint with
    | some used => do
      .say .trace .cgroup
        s!"Ignoring duplicate {c.name} mount at `{mount.mountPoint}`, using `{used}`"
      return bindings
    | none => return bindings.modify c (.withMount mount)
  else return bindings

/-- Binds to a mount the controllers that it carries. -/
def enterMount (bindings : Bindings) (mount : Mount) : Logged Bindings :=
  Controller.all.foldlM (enterMountFor mount) bindings

/-- Gives a path to the controller of a name. -/
def enterPath (path : String) (bindings : Bindings) (name : String) : Bindings :=
  match Controller.ofName? name with
  | some c => bindings.modify c (.withPath path)
  | none => bindings

/-- Gives the path of a membership to the controllers that it names. -/
def enterMembership (bindings : Bindings) (m : Membership) : Bindings :=
  m.controllers.foldl (enterPath m.path) bindings

/-- Whether the kernel has all required controllers enabled. -/
def requiredEnabled (bindings : Bindings) : Bool :=
  Controller.all.all fun c => !c.required || (bindings.get c).enabled

/-- Whether all required controllers are on the unified hierarchy. -/
def requiredUnified (bindings : Bindings) : Bool :=
  Controller.all.all fun c => !c.required || (bindings.get c).hierarchy == some 0

/-- Logs the controllers that are not enabled. -/
def announceDisabled (bindings : Bindings) : Logged Unit :=
  Controller.all.forM fun c =>
    if (bindings.get c).enabled then pure ()
    else .say .debug .cgroup s!"Controller {c.name} is not enabled"

end Bindings

namespace Detection

/-- The verdict on bindings for version 1, from the first incomplete controller that matters. -/
def judge (bindings : Bindings) : List Controller → Logged Verdict
  | [] => pure .v1
  | c :: cs =>
    let binding := bindings.get c
    if binding.complete then judge bindings cs
    else if !c.required then do
      .say .debug .cgroup
        s!"Optional {c.name} controller not found, its metrics are unavailable"
      judge bindings cs
    else if binding.mountPoint.isNone then do
      .say .debug .cgroup s!"Required {c.name} controller is not mounted"
      return .noMount
    else do
      .say .debug .cgroup
        s!"Required {c.name} controller has no cgroup path for this process"
      return .invalidV1

/-- Detection where a required controller is on a hierarchy of its own. -/
def legacy (bindings : Bindings) (mounts : List Mount) (memberships : List Membership) :
    Logged Detection := do
  let mounted ← mounts.foldlM Bindings.enterMount bindings
  let placed := (memberships.filter (!·.isUnified)).foldl Bindings.enterMembership mounted
  let bound := placed.map .completed
  return ⟨← judge bound Controller.all, bound⟩

/-- Detection where all required controllers are on the unified hierarchy. -/
def unified (bindings : Bindings) (mounts : List Mount) (memberships : List Membership) :
    Logged Detection :=
  if mounts.isEmpty then do
    .say .debug .cgroup "No cgroup mounts found"
    return ⟨.noMount, bindings⟩
  else
    match mounts.find? (·.isUnified) with
    | none => do
      .say .debug .cgroup
        "Controllers are on the unified hierarchy, but no cgroup2 mount was found"
      return ⟨.invalidV2, bindings⟩
    | some mount =>
      match memberships.find? (·.isUnified) with
      | none => do
        .say .debug .cgroup "Process is not a member of the unified hierarchy"
        return ⟨.invalidV2, bindings⟩
      | some m => return ⟨.v2, bindings.map fun b => (b.withMount mount).withPath m.path⟩

/-- Detection from the mounts and memberships, for the version that the bindings speak of. -/
def place (bindings : Bindings) (mounts : List Mount) (memberships : List Membership) :
    Logged Detection :=
  if bindings.requiredUnified then unified bindings mounts memberships
  else legacy bindings mounts memberships

/-- An invalid verdict, and the reason for it in the log. -/
def reject (bindings : Bindings) (reason : String) : Logged Detection := do
  .say .debug .cgroup reason
  return ⟨.invalid, bindings⟩

/-- Detection before the verdict is logged. -/
def classify (files : Files) (controllersPath membershipsPath mountsPath : String) :
    Logged Detection := do
  match ControllerRow.ofFile files controllersPath with
  | .error error =>
    reject .empty s!"Unable to read controller table: {error.message RowFault.message}"
  | .ok rows =>
    let bindings := rows.foldl Bindings.enterRow .empty
    bindings.announceDisabled
    if !bindings.requiredEnabled then
      reject bindings "One or more required controllers are disabled at kernel level"
    else
      match ← Mount.ofFile files mountsPath with
      | .error error =>
        reject bindings s!"Unable to read mounts: {error.message MountFault.message}"
      | .ok mounts =>
        match Membership.ofFile files membershipsPath with
        | .error error =>
          reject bindings s!"Unable to read process cgroups: {error.message RowFault.message}"
        | .ok memberships => place bindings mounts memberships

end Detection

/-- Looks for the version of cgroups that governs the process. -/
def detect (files : Files) (controllersPath membershipsPath mountsPath : String) :
    Logged Detection := do
  let detection ← Detection.classify files controllersPath membershipsPath mountsPath
  .say .debug .cgroup s!"Detected {detection.verdict.message}"
  return detection

end CgroupLimits
