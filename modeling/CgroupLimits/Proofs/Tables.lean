import CgroupLimits.Detection
import CgroupLimits.Proofs.Scans
import Mathlib.Data.List.Basic
import Mathlib.Data.List.Induction

/-! What detection takes from its three tables, controller by controller.

    The tables are entered line by line into one record of bindings. Read back for a single
    controller, the record holds the *last* row with its name, the *first* mount whose super
    options name it, and the *last* membership that names it; all other lines leave no trace
    (`get_enterRows`, `get_enterMounts`, `get_enterMemberships`). -/

namespace CgroupLimits

/-! ### The lines that speak of a controller -/

/-- Whether a mount is of version 1 and has this name among its super options. -/
def Mount.Names (mount : Mount) (name : String) : Prop :=
  ∃ options, mount.kind = .v1 options ∧ name ∈ options

theorem Mount.carries_iff {mount : Mount} {name : String} :
    mount.carries name = true ↔ mount.Names name := by
  obtain ⟨kind, root, point⟩ := mount
  cases kind <;> simp [Mount.carries, Mount.Names]

instance (mount : Mount) (name : String) : Decidable (mount.Names name) :=
  decidable_of_iff _ Mount.carries_iff

theorem Mount.isUnified_iff {mount : Mount} : mount.isUnified = true ↔ mount.kind = .v2 :=
  decide_eq_true_iff

/-- What a mount of the table has from its line; it names a controller if that stands, whole,
    between two commas of the super options. -/
theorem Mount.of_parse {line : String} {mount : Mount} (h : Mount.parse line = .ok (some mount)) :
    ∃ entry, MountEntry.parse line = .ok entry ∧
      mount.root = entry.root ∧ mount.mountPoint = entry.mountPoint ∧
      (mount.kind = .v2 ↔ entry.fileSystem = "cgroup2") ∧
      ∀ c : Controller, mount.Names c.name ↔
        entry.fileSystem = "cgroup" ∧ c.name ∈ Text.split (· == ',') entry.superOptions := by
  unfold Mount.parse at h
  cases hentry : MountEntry.parse line with
  | error fault =>
    rw [hentry] at h
    cases h
  | ok entry =>
    rw [hentry] at h
    have hmount : Mount.ofEntry? entry = some mount := Except.ok.inj h
    refine ⟨entry, rfl, ?_⟩
    unfold Mount.ofEntry? at hmount
    split at hmount
    · rename_i hunified
      cases hmount
      simp [Mount.Names, hunified]
    · split at hmount
      · rename_i hlegacy
        cases hmount
        have hne (c : Controller) : c.name ≠ "" := by cases c <;> decide
        simp [Mount.Names, hlegacy, MountEntry.superOptionList, Text.fields, hne]
      · cases hmount

/-- The entries of the two cgroup file systems are mounts, and no others are. -/
theorem Mount.exists_parse_iff {line : String} {entry : MountEntry}
    (h : MountEntry.parse line = .ok entry) :
    (∃ mount, Mount.parse line = .ok (some mount)) ↔
      entry.fileSystem = "cgroup" ∨ entry.fileSystem = "cgroup2" := by
  rw [Mount.parse, h]
  by_cases hunified : entry.fileSystem = "cgroup2"
  · simp [Except.map, Mount.ofEntry?, hunified]
  · by_cases hlegacy : entry.fileSystem = "cgroup" <;>
      simp [Except.map, Mount.ofEntry?, hunified, hlegacy]

/-- The mounts of a file are those of its lines, in the order of the lines. -/
theorem Mount.value_ofFile_ok_iff {files : Files} {path : String} {mounts : List Mount} :
    (Mount.ofFile files path).value = .ok mounts ↔
      ∃ s found, files path = .file (Text.toBytes s) ∧
        List.Forall₂ (Table.Yields Mount.parse) (Text.lines s) found ∧
        mounts = found.reduceOption := by
  unfold Mount.ofFile Table.withBytes
  cases files path with
  | failed cause => simp
  | directory => simp
  | file bytes =>
    simp only [Mount.value_ofBytes, Opened.file.injEq]
    constructor
    · intro h
      obtain ⟨s, rfl⟩ := Table.spells_of_ofBytes h
      obtain ⟨found, hfound, hmounts⟩ := Table.ofBytes_ok_iff.1 h
      exact ⟨s, found, rfl, hfound, hmounts⟩
    · rintro ⟨s, found, rfl, hfound, hmounts⟩
      exact Table.ofBytes_ok_iff.2 ⟨found, hfound, hmounts⟩

theorem Membership.isUnified_iff {m : Membership} :
    m.isUnified = true ↔ m.hierarchy = 0 ∧ m.controllers = [] := by
  simp [Membership.isUnified]

theorem Membership.isUnified_eq :
    Membership.isUnified = fun m => decide (m.hierarchy = 0 ∧ m.controllers = []) := by
  funext m
  rw [Bool.eq_iff_iff, isUnified_iff, decide_eq_true_iff]

namespace Controller

/-- The last row with the controller's name. -/
def row? (c : Controller) (rows : List ControllerRow) : Option ControllerRow :=
  (rows.filter (·.name = c.name)).getLast?

/-- The first mount that names the controller. -/
def mount? (c : Controller) (mounts : List Mount) : Option Mount :=
  mounts.find? (·.Names c.name)

/-- The last membership that names the controller. -/
def membership? (c : Controller) (memberships : List Membership) : Option Membership :=
  (memberships.filter (c.name ∈ ·.controllers)).getLast?

theorem ofName?_eq_some_iff {name : String} {c : Controller} :
    ofName? name = some c ↔ name = c.name := by
  constructor
  · intro h
    have hc := List.find?_some h
    exact (beq_iff_eq.1 hc).symm
  · rintro rfl
    exact ofName?_name c

theorem all_required_iff {p : Controller → Bool} :
    (all.all fun c => !c.required || p c) = true ↔
      ∀ c : Controller, c.required = true → p c = true := by
  rw [List.all_eq_true]
  constructor
  · intro h c hc
    have := h c (mem_all c)
    rwa [hc, Bool.not_true, Bool.false_or] at this
  · intro h c _
    cases hc : c.required with
    | false => rfl
    | true => exact h c hc

theorem row?_concat (c : Controller) (rows : List ControllerRow) (row : ControllerRow) :
    c.row? (rows ++ [row]) = if row.name = c.name then some row else c.row? rows := by
  by_cases h : row.name = c.name <;> simp [row?, h]

theorem mount?_concat (c : Controller) (mounts : List Mount) (mount : Mount) :
    c.mount? (mounts ++ [mount]) =
      (c.mount? mounts).or (if mount.Names c.name then some mount else none) := by
  by_cases h : mount.Names c.name <;> simp [mount?, h]

theorem membership?_concat (c : Controller) (memberships : List Membership) (m : Membership) :
    c.membership? (memberships ++ [m]) =
      if c.name ∈ m.controllers then some m else c.membership? memberships := by
  by_cases h : c.name ∈ m.controllers <;> simp [membership?, h]

theorem mount?_isSome_iff {c : Controller} {mounts : List Mount} :
    (c.mount? mounts).isSome = true ↔ ∃ mount ∈ mounts, mount.Names c.name := by
  simp [mount?]

theorem membership?_isSome_iff {c : Controller} {memberships : List Membership} :
    (c.membership? memberships).isSome = true ↔ ∃ m ∈ memberships, c.name ∈ m.controllers := by
  simp [membership?]

/-- Unified memberships name no controller, so leaving them out changes nothing. -/
theorem membership?_filter_isUnified (c : Controller) (memberships : List Membership) :
    c.membership? (memberships.filter (!·.isUnified)) = c.membership? memberships := by
  unfold membership?
  rw [List.filter_filter]
  congr 1
  apply List.filter_congr
  intro m _
  by_cases hmem : c.name ∈ m.controllers
  · have hne : m.controllers ≠ [] := List.ne_nil_of_mem hmem
    simp [hmem, Membership.isUnified, hne]
  · simp [hmem]

end Controller

/-! ### The tables as a whole -/

/-- What the three tables hold. -/
structure Tables where
  rows : List ControllerRow
  mounts : List Mount
  memberships : List Membership

namespace Tables

/-- Each of the three files is accepted by its reader, and these are the lines read. -/
structure In (t : Tables) (files : Files) (controllersPath membershipsPath mountsPath : String) :
    Prop where
  rows : ControllerRow.ofFile files controllersPath = .ok t.rows
  mounts : (Mount.ofFile files mountsPath).value = .ok t.mounts
  memberships : Membership.ofFile files membershipsPath = .ok t.memberships

theorem In.unique {t t' : Tables} {files : Files}
    {controllersPath membershipsPath mountsPath : String}
    (h : t.In files controllersPath membershipsPath mountsPath)
    (h' : t'.In files controllersPath membershipsPath mountsPath) : t = t' := by
  obtain ⟨rows, mounts, memberships⟩ := t
  obtain rfl := Except.ok.inj (h.rows.symm.trans h'.rows)
  obtain rfl := Except.ok.inj (h.mounts.symm.trans h'.mounts)
  obtain rfl := Except.ok.inj (h.memberships.symm.trans h'.memberships)
  rfl

/-- Every required controller has a row, and the last one says that it is enabled. -/
def RequiredEnabled (rows : List ControllerRow) : Prop :=
  ∀ c : Controller, c.required = true → ∃ row, c.row? rows = some row ∧ row.enabled = true

/-- Every required controller has a row, and the last one puts it on hierarchy 0. -/
def RequiredUnified (rows : List ControllerRow) : Prop :=
  ∀ c : Controller, c.required = true → ∃ row, c.row? rows = some row ∧ row.hierarchy = 0

/-- Some required controller is on a hierarchy other than 0. -/
def RequiredApart (rows : List ControllerRow) : Prop :=
  ∃ c : Controller, c.required = true ∧ ∃ row, c.row? rows = some row ∧ row.hierarchy ≠ 0

/-- Once all required controllers have a row, they are either all on hierarchy 0 or not. -/
theorem requiredApart_iff {rows : List ControllerRow} (h : RequiredEnabled rows) :
    RequiredApart rows ↔ ¬ RequiredUnified rows := by
  constructor
  · rintro ⟨c, hc, row, hrow, hne⟩ hunified
    obtain ⟨row', hrow', hzero⟩ := hunified c hc
    rw [hrow] at hrow'
    obtain rfl := Option.some.inj hrow'
    exact hne hzero
  · intro hnot
    by_contra hapart
    apply hnot
    intro c hc
    obtain ⟨row, hrow, -⟩ := h c hc
    refine ⟨row, hrow, ?_⟩
    by_contra hne
    exact hapart ⟨c, hc, row, hrow, hne⟩

end Tables

namespace Binding

/-- What is known of a controller from its row alone. -/
def listed (row : Option ControllerRow) : Binding :=
  { empty with hierarchy := row.map (·.hierarchy), enabled := row.any (·.enabled) }

/-- What is known of a controller from its row, its mount and its membership. -/
def bound (row : Option ControllerRow) (mount : Option Mount) (m : Option Membership) :
    Binding where
  hierarchy := row.map (·.hierarchy)
  enabled := row.any (·.enabled)
  complete := mount.isSome && m.isSome
  cgroupPath := m.map (·.path)
  root := mount.map (·.root)
  mountPoint := mount.map (·.mountPoint)

end Binding

namespace Bindings

/-! ### What one line changes -/

/-- A change to the controller of a name is one to the controller that has it. -/
theorem get_modify_ofName? (b : Bindings) (name : String) (f : Binding → Binding)
    (c : Controller) :
    (match Controller.ofName? name with
      | some d => b.modify d f
      | none => b).get c = if name = c.name then f (b.get c) else b.get c := by
  cases h : Controller.ofName? name with
  | none =>
    have hne : name ≠ c.name := by
      intro heq
      rw [Controller.ofName?_eq_some_iff.2 heq] at h
      cases h
    rw [if_neg hne]
  | some d =>
    obtain rfl := Controller.ofName?_eq_some_iff.1 h
    have hiff : c = d ↔ d.name = c.name := by
      rw [← Controller.ofName?_eq_some_iff, h, Option.some.injEq, eq_comm]
    simp only [PerController.get_modify, hiff]

theorem get_enterRow (b : Bindings) (row : ControllerRow) (c : Controller) :
    (b.enterRow row).get c = if row.name = c.name then (b.get c).withRow row else b.get c :=
  get_modify_ofName? b row.name (.withRow row) c

theorem get_enterPath (path : String) (b : Bindings) (name : String) (c : Controller) :
    (enterPath path b name).get c = if name = c.name then (b.get c).withPath path else b.get c :=
  get_modify_ofName? b name (.withPath path) c

/-- A membership gives its path to every controller that it names. -/
theorem get_enterMembership (b : Bindings) (m : Membership) (c : Controller) :
    (b.enterMembership m).get c =
      if c.name ∈ m.controllers then (b.get c).withPath m.path else b.get c := by
  unfold enterMembership
  induction m.controllers using List.reverseRecOn with
  | nil => simp
  | append_singleton names name ih =>
    rw [List.foldl_concat, get_enterPath, ih]
    by_cases h : name = c.name
    · subst h
      by_cases hmem : c.name ∈ names <;> simp [hmem, Binding.withPath]
    · simp [h, Ne.symm h]

theorem get_enterMountFor (mount : Mount) (b : Bindings) (d c : Controller) :
    (enterMountFor mount b d).value.get c =
      if c = d ∧ mount.Names c.name ∧ (b.get c).mountPoint = none then (b.get c).withMount mount
      else b.get c := by
  unfold enterMountFor
  by_cases hn : mount.carries d.name = true
  · cases hp : (b.get d).mountPoint with
    | none =>
      rw [if_pos hn]
      simp only [Logged.value_pure, PerController.get_modify]
      by_cases hc : c = d
      · subst hc
        simp [hp, Mount.carries_iff.1 hn]
      · simp [hc]
    | some used =>
      rw [if_pos hn]
      by_cases hc : c = d
      · subst hc
        simp [hp]
      · simp [hc]
  · rw [if_neg hn]
    by_cases hc : c = d
    · subst hc
      simp [← Mount.carries_iff, hn]
    · simp [hc]

/-- A mount is entered for every controller that it names and that has no earlier one. -/
theorem get_enterMount (b : Bindings) (mount : Mount) (c : Controller) :
    (b.enterMount mount).value.get c =
      if mount.Names c.name ∧ (b.get c).mountPoint = none then (b.get c).withMount mount
      else b.get c := by
  unfold enterMount
  rw [Logged.value_foldlM]
  cases c <;> simp [Controller.all, get_enterMountFor]

/-! ### What a whole table leaves behind -/

/-- The bindings after all rows hold for each controller its last row. -/
theorem get_enterRows (rows : List ControllerRow) (c : Controller) :
    (rows.foldl enterRow empty).get c = Binding.listed (c.row? rows) := by
  induction rows using List.reverseRecOn with
  | nil => cases c <;> rfl
  | append_singleton rows row ih =>
    rw [List.foldl_concat, get_enterRow, ih, Controller.row?_concat]
    by_cases h : row.name = c.name
    · rw [if_pos h, if_pos h]
      simp [Binding.listed, Binding.withRow]
    · rw [if_neg h, if_neg h]

/-- The bindings after all mounts hold for each unbound controller the first mount that names it. -/
theorem get_enterMounts {b : Bindings} {c : Controller} (hfree : (b.get c).mountPoint = none)
    (mounts : List Mount) :
    (mounts.foldlM enterMount b).value.get c =
      (c.mount? mounts).elim (b.get c) fun mount => (b.get c).withMount mount := by
  rw [Logged.value_foldlM]
  induction mounts using List.reverseRecOn with
  | nil => rfl
  | append_singleton mounts mount ih =>
    rw [List.foldl_concat, get_enterMount, ih, Controller.mount?_concat]
    cases h : c.mount? mounts with
    | some first => simp [Binding.withMount]
    | none => by_cases hn : mount.Names c.name <;> simp [hn, hfree]

/-- The bindings after all memberships hold for each controller the path of its last one. -/
theorem get_enterMemberships (b : Bindings) (memberships : List Membership) (c : Controller) :
    (memberships.foldl enterMembership b).get c =
      (c.membership? memberships).elim (b.get c) fun m => (b.get c).withPath m.path := by
  induction memberships using List.reverseRecOn with
  | nil => rfl
  | append_singleton memberships m ih =>
    rw [List.foldl_concat, get_enterMembership, ih, Controller.membership?_concat]
    by_cases h : c.name ∈ m.controllers
    · cases c.membership? memberships <;> simp [h, Binding.withPath]
    · simp [h]

/-! ### What the rows say of the required controllers -/

theorem requiredEnabled_iff (rows : List ControllerRow) :
    (rows.foldl enterRow empty).requiredEnabled = true ↔ Tables.RequiredEnabled rows := by
  simp only [requiredEnabled, Controller.all_required_iff, get_enterRows]
  simp only [Tables.RequiredEnabled, Binding.listed, Option.any_eq_true]

theorem requiredUnified_iff (rows : List ControllerRow) :
    (rows.foldl enterRow empty).requiredUnified = true ↔ Tables.RequiredUnified rows := by
  simp only [requiredUnified, Controller.all_required_iff, get_enterRows]
  simp only [Tables.RequiredUnified, Binding.listed, beq_iff_eq, Option.map_eq_some_iff]

end Bindings

end CgroupLimits
