import CgroupLimits.Proofs.Tables

/-! How detection ends, for every content of its three files.

    `Outcome` lists the six ways with the reason for each and with what is then known of every
    controller; `detect_outcome` says that there is no seventh. The two main results read off it
    exactly when each verdict is given and where the bindings of each controller come from. -/

namespace CgroupLimits

/-- The verdict for hierarchies of their own: the first required controller that lacks a mount or a
    membership decides, and the mount is missed first. -/
def Tables.legacyVerdict (t : Tables) : Verdict :=
  (Controller.all.find? fun c =>
    c.required && !((c.mount? t.mounts).isSome && (c.membership? t.memberships).isSome)).elim .v1
      fun c => if (c.mount? t.mounts).isNone then .noMount else .invalidV1

namespace Tables

/-- Every required controller is named by a mount and by a membership. -/
def RequiredPlaced (t : Tables) : Prop :=
  ∀ c : Controller, c.required = true →
    (∃ mount ∈ t.mounts, mount.Names c.name) ∧ ∃ m ∈ t.memberships, c.name ∈ m.controllers

theorem legacyVerdict_cases (t : Tables) :
    (t.legacyVerdict = .v1 ∧ t.RequiredPlaced) ∨
    ((t.legacyVerdict = .noMount ∨ t.legacyVerdict = .invalidV1) ∧ ¬ t.RequiredPlaced) := by
  unfold legacyVerdict
  cases h : Controller.all.find? fun c =>
      c.required && !((c.mount? t.mounts).isSome && (c.membership? t.memberships).isSome) with
  | none =>
    refine Or.inl ⟨rfl, ?_⟩
    intro c hc
    have hboth := List.find?_eq_none.1 h c (Controller.mem_all c)
    simp only [hc, Bool.true_and, Bool.not_eq_true', Bool.not_eq_false, Bool.and_eq_true] at hboth
    exact ⟨Controller.mount?_isSome_iff.1 hboth.1, Controller.membership?_isSome_iff.1 hboth.2⟩
  | some c =>
    refine Or.inr ⟨?_, ?_⟩
    · rw [Option.elim_some]
      cases (c.mount? t.mounts).isNone
      · exact Or.inr rfl
      · exact Or.inl rfl
    · intro hplaced
      have hlacking := List.find?_some h
      simp only [Bool.and_eq_true, Bool.not_eq_true', Bool.and_eq_false_iff] at hlacking
      obtain ⟨hmount, hm⟩ := hplaced c hlacking.1
      rw [Controller.mount?_isSome_iff.2 hmount, Controller.membership?_isSome_iff.2 hm] at hlacking
      simp at hlacking

theorem legacyVerdict_mem (t : Tables) :
    t.legacyVerdict = .v1 ∨ t.legacyVerdict = .noMount ∨ t.legacyVerdict = .invalidV1 :=
  t.legacyVerdict_cases.imp And.left And.left

end Tables

namespace Detection

variable (files : Files) (controllersPath membershipsPath mountsPath : String)

/-- How detection can end: the verdict, and what is then known of each controller. -/
inductive Outcome : Verdict → (Controller → Binding) → Prop
  | unlisted {error} (hrows : ControllerRow.ofFile files controllersPath = .error error) :
    Outcome .invalid fun _ => .listed none
  | rejected {rows} (hrows : ControllerRow.ofFile files controllersPath = .ok rows)
      (why : ¬ Tables.RequiredEnabled rows ∨
        (∃ error, (Mount.ofFile files mountsPath).value = .error error) ∨
        ∃ error, Membership.ofFile files membershipsPath = .error error) :
    Outcome .invalid fun c => .listed (c.row? rows)
  | unmounted {t : Tables} (hin : t.In files controllersPath membershipsPath mountsPath)
      (henabled : Tables.RequiredEnabled t.rows) (hunified : Tables.RequiredUnified t.rows)
      (hnone : t.mounts = []) :
    Outcome .noMount fun c => .listed (c.row? t.rows)
  | unshared {t : Tables} (hin : t.In files controllersPath membershipsPath mountsPath)
      (henabled : Tables.RequiredEnabled t.rows) (hunified : Tables.RequiredUnified t.rows)
      (hsome : t.mounts ≠ [])
      (why : t.mounts.find? (·.isUnified) = none ∨ t.memberships.find? (·.isUnified) = none) :
    Outcome .invalidV2 fun c => .listed (c.row? t.rows)
  | shared {t : Tables} {mount m} (hin : t.In files controllersPath membershipsPath mountsPath)
      (henabled : Tables.RequiredEnabled t.rows) (hunified : Tables.RequiredUnified t.rows)
      (hmount : t.mounts.find? (·.isUnified) = some mount)
      (hm : t.memberships.find? (·.isUnified) = some m) :
    Outcome .v2 fun c => ((Binding.listed (c.row? t.rows)).withMount mount).withPath m.path
  | apart {t : Tables} (hin : t.In files controllersPath membershipsPath mountsPath)
      (henabled : Tables.RequiredEnabled t.rows) (hapart : Tables.RequiredApart t.rows) :
    Outcome t.legacyVerdict
      fun c => .bound (c.row? t.rows) (c.mount? t.mounts) (c.membership? t.memberships)

/-! ### Hierarchies of their own -/

/-- The first required controller that lacks a mount or a path decides. -/
theorem value_judge (b : Bindings) (cs : List Controller) :
    (judge b cs).value =
      (cs.find? fun c => c.required && !(b.get c).complete).elim .v1 fun c =>
        if (b.get c).mountPoint.isNone then .noMount else .invalidV1 := by
  induction cs with
  | nil => rfl
  | cons c cs ih =>
    unfold judge
    cases hcomplete : (b.get c).complete with
    | true =>
      rw [if_pos hcomplete, ih, List.find?_cons_of_neg (by simp [hcomplete])]
    | false =>
      cases hrequired : c.required with
      | true =>
        rw [List.find?_cons_of_pos (by simp [hcomplete, hrequired])]
        cases hpoint : (b.get c).mountPoint <;> simp [hcomplete, hpoint]
      | false =>
        rw [List.find?_cons_of_neg (by simp [hrequired])]
        simp [hcomplete, ih]

/-- Each controller has its row, mount and membership. -/
theorem get_legacy (t : Tables) (c : Controller) :
    (legacy (t.rows.foldl Bindings.enterRow .empty) t.mounts t.memberships).value.bindings.get c =
      .bound (c.row? t.rows) (c.mount? t.mounts) (c.membership? t.memberships) := by
  have hfree : ((t.rows.foldl Bindings.enterRow .empty).get c).mountPoint = none := by
    rw [Bindings.get_enterRows]
    rfl
  simp only [legacy, Logged.value_bind, Logged.value_pure, PerController.get_map]
  rw [Bindings.get_enterMemberships, Bindings.get_enterMounts hfree, Bindings.get_enterRows,
    Controller.membership?_filter_isUnified]
  cases c.mount? t.mounts <;> cases c.membership? t.memberships <;> rfl

theorem verdict_legacy (t : Tables) :
    (legacy (t.rows.foldl Bindings.enterRow .empty) t.mounts t.memberships).value.verdict =
      t.legacyVerdict := by
  have hjudge (bindings : Bindings) (mounts : List Mount) (memberships : List Membership) :
      (legacy bindings mounts memberships).value.verdict =
        (judge (legacy bindings mounts memberships).value.bindings Controller.all).value := rfl
  rw [hjudge, value_judge]
  simp only [get_legacy, Binding.bound, Option.isNone_map]
  rfl

/-! ### Every ending is one of the six -/

variable {files controllersPath membershipsPath mountsPath}

/-- The bindings after the rows, read controller by controller. -/
theorem get_rows (rows : List ControllerRow) :
    (rows.foldl Bindings.enterRow .empty).get = fun c => .listed (c.row? rows) :=
  funext (Bindings.get_enterRows rows)

theorem unified_outcome {t : Tables} (hin : t.In files controllersPath membershipsPath mountsPath)
    (henabled : Tables.RequiredEnabled t.rows) (hunified : Tables.RequiredUnified t.rows) :
    let d := (unified (t.rows.foldl Bindings.enterRow .empty) t.mounts t.memberships).value
    Outcome files controllersPath membershipsPath mountsPath d.verdict d.bindings.get := by
  by_cases hnone : t.mounts = []
  · simp only [unified, hnone, List.isEmpty_nil, if_true, Logged.value_bind, Logged.value_pure,
      get_rows]
    exact .unmounted hin henabled hunified hnone
  · have hempty : ¬ t.mounts.isEmpty = true := by simpa using hnone
    unfold unified
    rw [if_neg hempty]
    cases hmount : t.mounts.find? (·.isUnified) with
    | none =>
      simp only [Logged.value_bind, Logged.value_pure, get_rows]
      exact .unshared hin henabled hunified hnone (Or.inl hmount)
    | some mount =>
      cases hm : t.memberships.find? (·.isUnified) with
      | none =>
        simp only [Logged.value_bind, Logged.value_pure, get_rows]
        exact .unshared hin henabled hunified hnone (Or.inr hm)
      | some m =>
        have hget : ((t.rows.foldl Bindings.enterRow .empty).map fun b =>
            (b.withMount mount).withPath m.path).get =
              fun c => ((Binding.listed (c.row? t.rows)).withMount mount).withPath m.path := by
          funext c
          rw [PerController.get_map, get_rows]
        simp only [Logged.value_pure, hget]
        exact .shared hin henabled hunified hmount hm

theorem place_outcome {t : Tables} (hin : t.In files controllersPath membershipsPath mountsPath)
    (henabled : Tables.RequiredEnabled t.rows) :
    let d := (place (t.rows.foldl Bindings.enterRow .empty) t.mounts t.memberships).value
    Outcome files controllersPath membershipsPath mountsPath d.verdict d.bindings.get := by
  unfold place
  by_cases hunified : Tables.RequiredUnified t.rows
  · rw [if_pos ((Bindings.requiredUnified_iff t.rows).2 hunified)]
    exact unified_outcome hin henabled hunified
  · rw [if_neg (mt (Bindings.requiredUnified_iff t.rows).1 hunified)]
    simp only [verdict_legacy, funext (get_legacy t)]
    exact .apart hin henabled ((Tables.requiredApart_iff henabled).2 hunified)

theorem reject_outcome {rows : List ControllerRow} {why : String}
    (hrows : ControllerRow.ofFile files controllersPath = .ok rows)
    (h : ¬ Tables.RequiredEnabled rows ∨
      (∃ error, (Mount.ofFile files mountsPath).value = .error error) ∨
      ∃ error, Membership.ofFile files membershipsPath = .error error) :
    let d := (reject (rows.foldl Bindings.enterRow .empty) why).value
    Outcome files controllersPath membershipsPath mountsPath d.verdict d.bindings.get := by
  simp only [reject, Logged.value_bind, Logged.value_pure, get_rows]
  exact .rejected hrows h

/-- Detection ends in one of the six ways. -/
theorem detect_outcome (files : Files) (controllersPath membershipsPath mountsPath : String) :
    let d := (detect files controllersPath membershipsPath mountsPath).value
    Outcome files controllersPath membershipsPath mountsPath d.verdict d.bindings.get := by
  simp only [detect, Logged.value_bind, Logged.value_pure]
  unfold classify
  cases hrows : ControllerRow.ofFile files controllersPath with
  | error error =>
    have hget : Bindings.empty.get = fun _ => Binding.listed none := by
      funext c
      cases c <;> rfl
    simp only [reject, Logged.value_bind, Logged.value_pure, hget]
    exact .unlisted hrows
  | ok rows =>
    by_cases henabled : Tables.RequiredEnabled rows
    · have hb := (Bindings.requiredEnabled_iff rows).2 henabled
      cases hmounts : (Mount.ofFile files mountsPath).value with
      | error error =>
        simp only [hb, Bool.not_true, Bool.false_eq_true, if_false, Logged.value_bind, hmounts]
        exact reject_outcome hrows (Or.inr (Or.inl ⟨error, hmounts⟩))
      | ok mounts =>
        cases hmemberships : Membership.ofFile files membershipsPath with
        | error error =>
          simp only [hb, Bool.not_true, Bool.false_eq_true, if_false, Logged.value_bind, hmounts]
          exact reject_outcome hrows (Or.inr (Or.inr ⟨error, hmemberships⟩))
        | ok memberships =>
          simp only [hb, Bool.not_true, Bool.false_eq_true, if_false, Logged.value_bind, hmounts]
          exact place_outcome (t := ⟨rows, mounts, memberships⟩)
            ⟨hrows, hmounts, hmemberships⟩ henabled
    · have hb := mt (Bindings.requiredEnabled_iff rows).1 henabled
      simp only [Logged.value_bind, hb, Bool.not_false, if_true]
      exact reject_outcome hrows (Or.inl henabled)

/-! ### Reading the endings -/

section Endings

variable {verdict : Verdict} {bindings : Controller → Binding}
  (h : Outcome files controllersPath membershipsPath mountsPath verdict bindings)

include h

theorem Outcome.invalid_iff :
    verdict = .invalid ↔
      (∃ error, ControllerRow.ofFile files controllersPath = .error error) ∨
      (∃ error, (Mount.ofFile files mountsPath).value = .error error) ∨
      (∃ error, Membership.ofFile files membershipsPath = .error error) ∨
      ∃ rows, ControllerRow.ofFile files controllersPath = .ok rows ∧
        ¬ Tables.RequiredEnabled rows := by
  -- Where all tables are read and the required controllers enabled, no cause is left.
  have hplaced {t : Tables} (hin : t.In files controllersPath membershipsPath mountsPath)
      (henabled : Tables.RequiredEnabled t.rows) (hne : verdict ≠ .invalid) :
      verdict = .invalid ↔
        (∃ error, ControllerRow.ofFile files controllersPath = .error error) ∨
        (∃ error, (Mount.ofFile files mountsPath).value = .error error) ∨
        (∃ error, Membership.ofFile files membershipsPath = .error error) ∨
        ∃ rows, ControllerRow.ofFile files controllersPath = .ok rows ∧
          ¬ Tables.RequiredEnabled rows := by
    rw [hin.rows, hin.mounts, hin.memberships]
    simp [hne, henabled]
  cases h with
  | unlisted hrows => exact iff_of_true rfl (Or.inl ⟨_, hrows⟩)
  | rejected hrows why =>
    refine iff_of_true rfl (Or.inr ?_)
    rcases why with hdisabled | hmounts | hmemberships
    · exact Or.inr (Or.inr ⟨_, hrows, hdisabled⟩)
    · exact Or.inl hmounts
    · exact Or.inr (Or.inl hmemberships)
  | unmounted hin henabled => exact hplaced hin henabled (by decide)
  | unshared hin henabled => exact hplaced hin henabled (by decide)
  | shared hin henabled => exact hplaced hin henabled (by decide)
  | @apart t hin henabled =>
    apply hplaced hin henabled
    rcases t.legacyVerdict_mem with h | h | h <;> rw [h] <;> decide

theorem Outcome.ne_invalid {t : Tables}
    (hin : t.In files controllersPath membershipsPath mountsPath)
    (henabled : Tables.RequiredEnabled t.rows) : verdict ≠ .invalid := by
  rw [Ne, h.invalid_iff, hin.rows, hin.mounts, hin.memberships]
  simp [henabled]

theorem Outcome.of_unified {t : Tables}
    (hin : t.In files controllersPath membershipsPath mountsPath)
    (henabled : Tables.RequiredEnabled t.rows) (hunified : Tables.RequiredUnified t.rows) :
    (verdict = .v2 ∧ (∃ mount ∈ t.mounts, mount.kind = .v2) ∧
      ∃ m ∈ t.memberships, m.hierarchy = 0 ∧ m.controllers = []) ∨
    (verdict = .noMount ∧ t.mounts = []) ∨
    (verdict = .invalidV2 ∧ t.mounts ≠ [] ∧ ¬ ((∃ mount ∈ t.mounts, mount.kind = .v2) ∧
      ∃ m ∈ t.memberships, m.hierarchy = 0 ∧ m.controllers = [])) := by
  have hvalid := h.ne_invalid hin henabled
  simp only [← Mount.isUnified_iff, ← Membership.isUnified_iff]
  cases h with
  | unlisted => exact absurd rfl hvalid
  | rejected => exact absurd rfl hvalid
  | unmounted hin' _ _ hnone =>
    obtain rfl := hin.unique hin'
    exact Or.inr (Or.inl ⟨rfl, hnone⟩)
  | unshared hin' _ _ hsome why =>
    obtain rfl := hin.unique hin'
    refine Or.inr (Or.inr ⟨rfl, hsome, ?_⟩)
    rintro ⟨⟨mount, hmem, hmount⟩, m, hmem', hm⟩
    rcases why with hnone | hnone
    · exact List.find?_eq_none.1 hnone mount hmem hmount
    · exact List.find?_eq_none.1 hnone m hmem' hm
  | shared hin' _ _ hmount hm =>
    obtain rfl := hin.unique hin'
    exact Or.inl ⟨rfl, ⟨_, List.mem_of_find?_eq_some hmount, List.find?_some hmount⟩,
      _, List.mem_of_find?_eq_some hm, List.find?_some hm⟩
  | apart hin' _ hapart =>
    obtain rfl := hin.unique hin'
    exact absurd hunified ((Tables.requiredApart_iff henabled).1 hapart)

theorem Outcome.of_apart {t : Tables}
    (hin : t.In files controllersPath membershipsPath mountsPath)
    (henabled : Tables.RequiredEnabled t.rows) (hapart : Tables.RequiredApart t.rows) :
    verdict = t.legacyVerdict ∧
      bindings = fun c =>
        .bound (c.row? t.rows) (c.mount? t.mounts) (c.membership? t.memberships) := by
  have hvalid := h.ne_invalid hin henabled
  have hunified := (Tables.requiredApart_iff henabled).1 hapart
  cases h with
  | unlisted => exact absurd rfl hvalid
  | rejected => exact absurd rfl hvalid
  | unmounted hin' _ hunified' =>
    obtain rfl := hin.unique hin'
    exact absurd hunified' hunified
  | unshared hin' _ hunified' =>
    obtain rfl := hin.unique hin'
    exact absurd hunified' hunified
  | shared hin' _ hunified' =>
    obtain rfl := hin.unique hin'
    exact absurd hunified' hunified
  | apart hin' =>
    obtain rfl := hin.unique hin'
    exact ⟨rfl, rfl⟩

theorem Outcome.ne_unset :
    verdict ≠ .unset := by
  cases h with
  | @apart t => rcases t.legacyVerdict_mem with h | h | h <;> rw [h] <;> decide
  | _ => decide

theorem Outcome.row {rows : List ControllerRow}
    (hrows : ControllerRow.ofFile files controllersPath = .ok rows) (c : Controller) :
    (bindings c).hierarchy = (c.row? rows).map (·.hierarchy) ∧
      (bindings c).enabled = (c.row? rows).any (·.enabled) := by
  have hsame {t : Tables} (hin : t.In files controllersPath membershipsPath mountsPath) :
      rows = t.rows := Except.ok.inj (hrows.symm.trans hin.rows)
  cases h with
  | unlisted hrows' => exact absurd (hrows.symm.trans hrows') (by simp)
  | rejected hrows' =>
    obtain rfl := Except.ok.inj (hrows.symm.trans hrows')
    exact ⟨rfl, rfl⟩
  | unmounted hin => rw [hsame hin]; exact ⟨rfl, rfl⟩
  | unshared hin => rw [hsame hin]; exact ⟨rfl, rfl⟩
  | shared hin => rw [hsame hin]; exact ⟨rfl, rfl⟩
  | apart hin => rw [hsame hin]; exact ⟨rfl, rfl⟩

theorem Outcome.no_row {error}
    (hrows : ControllerRow.ofFile files controllersPath = .error error) (c : Controller) :
    bindings c = .listed none := by
  have hnot {t : Tables} : ¬ t.In files controllersPath membershipsPath mountsPath := fun hin =>
    absurd (hrows.symm.trans hin.rows) (by simp)
  cases h with
  | unlisted => rfl
  | rejected hrows' => exact absurd (hrows.symm.trans hrows') (by simp)
  | unmounted hin => exact absurd hin hnot
  | unshared hin => exact absurd hin hnot
  | shared hin => exact absurd hin hnot
  | apart hin => exact absurd hin hnot

theorem Outcome.of_v2 (hv : verdict = .v2) :
    ∃ t : Tables, t.In files controllersPath membershipsPath mountsPath ∧
      ∃ mount m, t.mounts.find? (·.isUnified) = some mount ∧
        t.memberships.find? (·.isUnified) = some m ∧
        bindings = fun c => ((Binding.listed (c.row? t.rows)).withMount mount).withPath m.path := by
  cases h with
  | @shared t mount m hin _ _ hmount hm => exact ⟨t, hin, mount, m, hmount, hm, rfl⟩
  | @apart t => rcases t.legacyVerdict_mem with h | h | h <;> rw [h] at hv <;> cases hv
  | _ => cases hv

end Endings

/-! ### Main results -/

/-- The verdict, for every content of the three files. It is invalid exactly when a table cannot be
    read or a required controller is not enabled by its last row; otherwise the hierarchies of the
    required controllers decide which version is looked for, and the mounts and memberships whether
    it is found. -/
theorem detect_verdict (files : Files) (controllersPath membershipsPath mountsPath : String) :
    let verdict := (detect files controllersPath membershipsPath mountsPath).value.verdict
    (verdict = .invalid ↔
      (∃ error, ControllerRow.ofFile files controllersPath = .error error) ∨
      (∃ error, (Mount.ofFile files mountsPath).value = .error error) ∨
      (∃ error, Membership.ofFile files membershipsPath = .error error) ∨
      ∃ rows, ControllerRow.ofFile files controllersPath = .ok rows ∧
        ¬ Tables.RequiredEnabled rows) ∧
    (∀ t : Tables, t.In files controllersPath membershipsPath mountsPath →
      Tables.RequiredEnabled t.rows → Tables.RequiredUnified t.rows →
      (verdict = .v2 ↔ (∃ mount ∈ t.mounts, mount.kind = .v2) ∧
        ∃ m ∈ t.memberships, m.hierarchy = 0 ∧ m.controllers = []) ∧
      (verdict = .noMount ↔ t.mounts = []) ∧
      (verdict = .invalidV2 ↔ verdict ≠ .v2 ∧ verdict ≠ .noMount)) ∧
    (∀ t : Tables, t.In files controllersPath membershipsPath mountsPath →
      Tables.RequiredEnabled t.rows → Tables.RequiredApart t.rows →
      (verdict = .v1 ↔ ∀ c : Controller, c.required = true →
        (∃ mount ∈ t.mounts, mount.Names c.name) ∧ ∃ m ∈ t.memberships, c.name ∈ m.controllers) ∧
      (verdict ≠ .v1 → verdict = .noMount ∨ verdict = .invalidV1)) ∧
    verdict ≠ .unset := by
  intro verdict
  have h : Outcome files controllersPath membershipsPath mountsPath verdict _ :=
    detect_outcome files controllersPath membershipsPath mountsPath
  refine ⟨h.invalid_iff, ?_, ?_, h.ne_unset⟩
  · intro t hin henabled hunified
    rcases h.of_unified hin henabled hunified with
      ⟨hv, hmount, hm⟩ | ⟨hv, hnone⟩ | ⟨hv, hsome, hnot⟩
    · have hsome : t.mounts ≠ [] := by
        obtain ⟨mount, hmem, -⟩ := hmount
        exact List.ne_nil_of_mem hmem
      simp [hv, hmount, hm, hsome]
    · simp [hv, hnone]
    · simp only [hv, hsome, iff_false_intro hnot]
      simp
  · intro t hin henabled hapart
    obtain ⟨hv, -⟩ := h.of_apart hin henabled hapart
    rcases t.legacyVerdict_cases with ⟨hv1, hplaced⟩ | ⟨hcases, hnot⟩
    · rw [hv, hv1]
      exact ⟨iff_of_true rfl hplaced, fun hne => absurd rfl hne⟩
    · rw [hv]
      refine ⟨iff_of_false ?_ hnot, fun _ => hcases⟩
      rcases hcases with hcase | hcase <;> rw [hcase] <;> decide

/-- A host with these three tables. -/
def withTables (controllers memberships mounts : String) : Files
  | "cgroups" => .file (Text.toBytes controllers)
  | "cgroup" => .file (Text.toBytes memberships)
  | "mountinfo" => .file (Text.toBytes mounts)
  | _ => .failed .missing

/-- A host with a unified mount and a unified membership. The required controllers are on hierarchy
    0, but `cpu` is on the given one. -/
def unifiedBut (hierarchy : Nat) : Files :=
  withTables s!"cpuset 0 1 1\ncpu {hierarchy} 1 1\ncpuacct 0 1 1\nmemory 0 1 1\n" "0::/a\n"
    "1 0 0:1 / cg rw - cgroup2 none rw\n"

/-- What its tables hold. -/
def unifiedTables (hierarchy : Nat) : Tables where
  rows := [⟨"cpuset", 0, 1, true⟩, ⟨"cpu", hierarchy, 1, true⟩, ⟨"cpuacct", 0, 1, true⟩,
    ⟨"memory", 0, 1, true⟩]
  mounts := [⟨.v2, "/", "cg"⟩]
  memberships := [⟨0, [], "/a"⟩]

/-- It is found to be of version 2 if `cpu` is on hierarchy 0 as well, and else of no version. -/
theorem detect_verdict_unified :
    (detect (unifiedBut 0) "cgroups" "cgroup" "mountinfo").value.verdict = .v2 ∧
    ((detect (unifiedBut 4) "cgroups" "cgroup" "mountinfo").value.verdict = .noMount ∨
      (detect (unifiedBut 4) "cgroups" "cgroup" "mountinfo").value.verdict = .invalidV1) := by
  constructor
  · have hin : (unifiedTables 0).In (unifiedBut 0) "cgroups" "cgroup" "mountinfo" :=
      ⟨by decide +kernel, by decide +kernel, by decide +kernel⟩
    have henabled := (Bindings.requiredEnabled_iff (unifiedTables 0).rows).1 (by decide)
    have hunified := (Bindings.requiredUnified_iff (unifiedTables 0).rows).1 (by decide)
    obtain ⟨hv2, -⟩ := (detect_verdict (unifiedBut 0) "cgroups" "cgroup" "mountinfo").2.1 _ hin
      henabled hunified
    exact hv2.2 (by decide)
  · have hin : (unifiedTables 4).In (unifiedBut 4) "cgroups" "cgroup" "mountinfo" :=
      ⟨by decide +kernel, by decide +kernel, by decide +kernel⟩
    have henabled := (Bindings.requiredEnabled_iff (unifiedTables 4).rows).1 (by decide)
    have hapart : Tables.RequiredApart (unifiedTables 4).rows := ⟨.cpu, rfl, _, rfl, by decide⟩
    obtain ⟨hv1, hno⟩ := (detect_verdict (unifiedBut 4) "cgroups" "cgroup" "mountinfo").2.2.1 _ hin
      henabled hapart
    refine hno (mt hv1.1 fun hplaced => ?_)
    obtain ⟨m, hm, hnamed⟩ := (hplaced .cpu rfl).2
    obtain rfl : m = ⟨0, [], "/a"⟩ := List.mem_singleton.1 hm
    cases hnamed

/-- What detection binds. Row, hierarchy and enabling are the last of the controller. A controller
    apart from the unified hierarchy takes root and mount point from the *first* mount that names it
    and its path from the *last* membership that does, whatever the verdict; in version 2 all
    controllers share the first unified mount and membership; in every other case none is bound.
    The mounts are those of the lines of their file with one of the two cgroup file systems, in the
    order of the lines. -/
theorem detect_bindings (files : Files) (controllersPath membershipsPath mountsPath : String) :
    let d := (detect files controllersPath membershipsPath mountsPath).value
    (∀ rows, ControllerRow.ofFile files controllersPath = .ok rows → ∀ c,
      (d.bindings.get c).hierarchy = (c.row? rows).map (·.hierarchy) ∧
      (d.bindings.get c).enabled = (c.row? rows).any (·.enabled)) ∧
    (∀ error, ControllerRow.ofFile files controllersPath = .error error → ∀ c,
      (d.bindings.get c).hierarchy = none ∧ (d.bindings.get c).enabled = false) ∧
    (∀ t : Tables, t.In files controllersPath membershipsPath mountsPath →
      Tables.RequiredEnabled t.rows → Tables.RequiredApart t.rows → ∀ c,
      (d.bindings.get c).root = (c.mount? t.mounts).map (·.root) ∧
      (d.bindings.get c).mountPoint = (c.mount? t.mounts).map (·.mountPoint) ∧
      (d.bindings.get c).cgroupPath = (c.membership? t.memberships).map (·.path) ∧
      ((d.bindings.get c).complete = true ↔
        (d.bindings.get c).mountPoint.isSome ∧ (d.bindings.get c).cgroupPath.isSome)) ∧
    (d.verdict = .v2 → ∃ t : Tables, t.In files controllersPath membershipsPath mountsPath ∧
      ∃ mount m, t.mounts.find? (·.kind = .v2) = some mount ∧
        t.memberships.find? (fun m => m.hierarchy = 0 ∧ m.controllers = []) = some m ∧ ∀ c,
        (d.bindings.get c).root = some mount.root ∧
        (d.bindings.get c).mountPoint = some mount.mountPoint ∧
        (d.bindings.get c).cgroupPath = some m.path) ∧
    (d.verdict ≠ .v2 →
      (¬ ∃ t : Tables, t.In files controllersPath membershipsPath mountsPath ∧
        Tables.RequiredEnabled t.rows ∧ Tables.RequiredApart t.rows) → ∀ c,
      (d.bindings.get c).root = none ∧ (d.bindings.get c).mountPoint = none ∧
      (d.bindings.get c).cgroupPath = none ∧ (d.bindings.get c).complete = false) ∧
    (∀ line mount, Mount.parse line = .ok (some mount) →
      ∃ entry, MountEntry.parse line = .ok entry ∧
        mount.root = entry.root ∧ mount.mountPoint = entry.mountPoint ∧
        (mount.kind = .v2 ↔ entry.fileSystem = "cgroup2") ∧ ∀ c : Controller,
        mount.Names c.name ↔
          entry.fileSystem = "cgroup" ∧ c.name ∈ Text.split (· == ',') entry.superOptions) ∧
    (∀ line entry, MountEntry.parse line = .ok entry →
      ((∃ mount, Mount.parse line = .ok (some mount)) ↔
        entry.fileSystem = "cgroup" ∨ entry.fileSystem = "cgroup2")) ∧
    (∀ mounts, (Mount.ofFile files mountsPath).value = .ok mounts ↔
      ∃ s found, files mountsPath = .file (Text.toBytes s) ∧
        List.Forall₂ (Table.Yields Mount.parse) (Text.lines s) found ∧
        mounts = found.reduceOption) := by
  intro d
  have h : Outcome files controllersPath membershipsPath mountsPath d.verdict d.bindings.get :=
    detect_outcome files controllersPath membershipsPath mountsPath
  clear_value d
  refine ⟨fun rows hrows => h.row hrows, ?_, ?_, ?_, ?_, fun line mount => Mount.of_parse,
    fun line entry => Mount.exists_parse_iff, fun mounts => Mount.value_ofFile_ok_iff⟩
  · intro error hrows c
    rw [h.no_row hrows c]
    exact ⟨rfl, rfl⟩
  · intro t hin henabled hapart c
    obtain ⟨-, hbindings⟩ := h.of_apart hin henabled hapart
    rw [hbindings]
    refine ⟨rfl, rfl, rfl, ?_⟩
    simp [Binding.bound]
  · intro hv
    obtain ⟨t, hin, mount, m, hmount, hm, hbindings⟩ := h.of_v2 hv
    rw [Membership.isUnified_eq] at hm
    refine ⟨t, hin, mount, m, hmount, hm, fun c => ?_⟩
    rw [hbindings]
    exact ⟨rfl, rfl, rfl⟩
  · intro hv hnot
    generalize d.verdict = verdict at h hv
    generalize d.bindings.get = get at h ⊢
    cases h with
    | shared => exact absurd rfl hv
    | apart hin henabled hapart => exact absurd ⟨_, hin, henabled, hapart⟩ hnot
    | _ => exact fun c => ⟨rfl, rfl, rfl, rfl⟩

/-- Two mounts that name `cpu`, behind one of another file system. -/
def twiceMounts : String :=
  "7 0 0:7 / / rw - ext4 none rw\n1 0 0:1 /a one rw - cgroup none cpuset,cpu\n" ++
    "2 0 0:2 /b two rw - cgroup none cpu,cpuacct,memory\n"

/-- A host with these mounts, on which two memberships name `cpu` as well. -/
def twice : Files :=
  withTables "cpuset 1 1 1\ncpu 2 1 1\ncpuacct 2 1 1\nmemory 2 1 1\n"
    "2:cpu,cpuacct,memory:/x\n1:cpuset,cpu:/y\n" twiceMounts

/-- What its tables hold. -/
def twiceTables : Tables where
  rows := [⟨"cpuset", 1, 1, true⟩, ⟨"cpu", 2, 1, true⟩, ⟨"cpuacct", 2, 1, true⟩,
    ⟨"memory", 2, 1, true⟩]
  mounts := [⟨.v1 ["cpuset", "cpu"], "/a", "one"⟩, ⟨.v1 ["cpu", "cpuacct", "memory"], "/b", "two"⟩]
  memberships := [⟨2, ["cpu", "cpuacct", "memory"], "/x"⟩, ⟨1, ["cpuset", "cpu"], "/y"⟩]

/-- Of the two mounts the first counts, and of the two memberships the last. The mount of another
    file system is passed over. -/
theorem detect_bindings_twice :
    let b := (detect twice "cgroups" "cgroup" "mountinfo").value.bindings.get .cpu
    (b.root = some "/a" ∧ b.mountPoint = some "one" ∧ b.cgroupPath = some "/y" ∧
      b.complete = true) ∧
    ∃ found, List.Forall₂ (Table.Yields Mount.parse) (Text.lines twiceMounts) found ∧
      found.reduceOption = twiceTables.mounts := by
  intro b
  have hin : twiceTables.In twice "cgroups" "cgroup" "mountinfo" :=
    ⟨by decide +kernel, by decide +kernel, by decide +kernel⟩
  have henabled := (Bindings.requiredEnabled_iff twiceTables.rows).1 (by decide)
  have hapart : Tables.RequiredApart twiceTables.rows := ⟨.cpu, rfl, _, rfl, by decide⟩
  obtain ⟨-, -, hbound, -, -, -, -, hlines⟩ := detect_bindings twice "cgroups" "cgroup" "mountinfo"
  constructor
  · obtain ⟨hroot, hpoint, hpath, hcomplete⟩ := hbound twiceTables hin henabled hapart .cpu
    have hpoint : b.mountPoint = some "one" := hpoint
    have hpath : b.cgroupPath = some "/y" := hpath
    exact ⟨hroot, hpoint, hpath, hcomplete.2 ⟨Option.isSome_iff_exists.2 ⟨_, hpoint⟩,
      Option.isSome_iff_exists.2 ⟨_, hpath⟩⟩⟩
  · obtain ⟨s, found, hs, hfound, hmounts⟩ := (hlines twiceTables.mounts).1 hin.mounts
    obtain rfl : twiceMounts = s := Text.toBytes_injective (Opened.file.inj hs)
    exact ⟨found, hfound, hmounts.symm⟩

end Detection

end CgroupLimits
