import CgroupLimits.Proofs.Detection

/-! Which fault decides where hierarchies are apart.

    A required controller can lack a mount, or have one and lack a membership, and several can lack
    different things at once. A missing mount is the graver fault and ought to decide wherever there
    is one. The controllers are judged one after the other, though, and the first fault met ends the
    judging: a missing membership hides every missing mount that comes later (`Tables.Masked`), and
    only then is the verdict not the grave one. -/

namespace CgroupLimits

/-- What comes before the entry that a search finds is not what it looks for. -/
theorem not_of_idxOf_lt_find? {α : Type} [DecidableEq α] {p : α → Bool} {l : List α} {a b : α}
    (h : l.find? p = some b) (hlt : l.idxOf a < l.idxOf b) : p a = false := by
  obtain ⟨hb, front, back, rfl, hfront⟩ := List.find?_eq_some_iff_append.1 h
  have hnot : b ∉ front := by
    intro hmem
    have := hfront b hmem
    simp [hb] at this
  have hmem : a ∈ front := by
    by_contra ha
    rw [List.idxOf_append_of_notMem ha, List.idxOf_append_of_notMem hnot, List.idxOf_cons_self]
      at hlt
    omega
  simpa using hfront a hmem

/-- Whether a controller is judged before another one. -/
def Controller.Before (c d : Controller) : Prop :=
  Controller.all.idxOf c < Controller.all.idxOf d

instance (c d : Controller) : Decidable (c.Before d) := inferInstanceAs (Decidable (_ < _))

theorem Controller.before_trichotomy (c d : Controller) : c.Before d ∨ c = d ∨ d.Before c := by
  rcases Nat.lt_trichotomy (all.idxOf c) (all.idxOf d) with h | h | h
  · exact Or.inl h
  · exact Or.inr (Or.inl ((List.idxOf_inj (mem_all c)).1 h))
  · exact Or.inr (Or.inr h)

namespace Tables

/-- Whether a mount of version 1 names the controller. -/
def Mounted (t : Tables) (c : Controller) : Prop := ∃ mount ∈ t.mounts, mount.Names c.name

/-- Whether the process has a cgroup in a hierarchy that names the controller. -/
def Joined (t : Tables) (c : Controller) : Prop := ∃ m ∈ t.memberships, c.name ∈ m.controllers

instance (t : Tables) (c : Controller) : Decidable (t.Mounted c) :=
  inferInstanceAs (Decidable (∃ mount ∈ t.mounts, mount.Names c.name))

/-- Whether a missing mount is hidden: there is one, and before all of them a required controller is
    judged that is mounted but not joined. -/
def Masked (t : Tables) : Prop :=
  (∃ c : Controller, c.required = true ∧ ¬ t.Mounted c) ∧
  ∃ c : Controller, c.required = true ∧ t.Mounted c ∧ ¬ t.Joined c ∧
    ∀ d : Controller, d.required = true → ¬ t.Mounted d → c.Before d

theorem mounted_iff {t : Tables} {c : Controller} :
    t.Mounted c ↔ (c.mount? t.mounts).isSome = true := Controller.mount?_isSome_iff.symm

theorem joined_iff {t : Tables} {c : Controller} :
    t.Joined c ↔ (c.membership? t.memberships).isSome = true :=
  Controller.membership?_isSome_iff.symm

/-- Either nothing is missing, or the first required controller that lacks something decides. -/
theorem legacyVerdict_first (t : Tables) :
    (t.legacyVerdict = .v1 ∧ ∀ c : Controller, c.required = true → t.Mounted c ∧ t.Joined c) ∨
    ∃ c : Controller, c.required = true ∧
      (∀ d : Controller, d.required = true → d.Before c → t.Mounted d ∧ t.Joined d) ∧
      (t.legacyVerdict = .noMount ∧ ¬ t.Mounted c ∨
        t.legacyVerdict = .invalidV1 ∧ t.Mounted c ∧ ¬ t.Joined c) := by
  cases hfind : Controller.all.find? fun c =>
      c.required && !((c.mount? t.mounts).isSome && (c.membership? t.memberships).isSome) with
  | none =>
    have hv1 : t.legacyVerdict = .v1 := by
      rw [legacyVerdict, hfind]
      rfl
    rcases t.legacyVerdict_cases with ⟨-, hplaced⟩ | ⟨hcases, -⟩
    · exact Or.inl ⟨hv1, hplaced⟩
    · rcases hcases with h | h <;> rw [hv1] at h <;> cases h
  | some c =>
    have hverdict : t.legacyVerdict =
        if (c.mount? t.mounts).isNone then .noMount else .invalidV1 := by
      rw [legacyVerdict, hfind]
      rfl
    have hlacking := List.find?_some hfind
    simp only [Bool.and_eq_true, Bool.not_eq_true', Bool.and_eq_false_iff] at hlacking
    obtain ⟨hrequired, hlacks⟩ := hlacking
    refine Or.inr ⟨c, hrequired, ?_, ?_⟩
    · intro d hd hbefore
      have hplaced := not_of_idxOf_lt_find? hfind hbefore
      simp only [hd, Bool.true_and, Bool.not_eq_false', Bool.and_eq_true] at hplaced
      exact ⟨mounted_iff.2 hplaced.1, joined_iff.2 hplaced.2⟩
    · simp only [mounted_iff, joined_iff, hverdict]
      cases hmount : c.mount? t.mounts with
      | none => exact Or.inl ⟨rfl, by simp⟩
      | some mount =>
        simp only [hmount, Option.isSome_some, Bool.true_eq_false, false_or] at hlacks
        exact Or.inr ⟨rfl, rfl, by simp [hlacks]⟩

/-- If the first controller that lacks something is mounted and not joined, it masks what comes
    later. -/
theorem masked_of_first {t : Tables} {c : Controller} (hc : c.required = true)
    (hbefore : ∀ d : Controller, d.required = true → d.Before c → t.Mounted d ∧ t.Joined d)
    (hmount : t.Mounted c) (hjoin : ¬ t.Joined c)
    (hsome : ∃ d : Controller, d.required = true ∧ ¬ t.Mounted d) : t.Masked := by
  refine ⟨hsome, c, hc, hmount, hjoin, ?_⟩
  intro d hd hnot
  rcases c.before_trichotomy d with h | rfl | h
  · exact h
  · exact absurd hmount hnot
  · exact absurd (hbefore d hd h).1 hnot

/-- The first controller that lacks something is not mounted: nothing can mask it. -/
theorem not_masked_of_first {t : Tables} {c : Controller} (hc : c.required = true)
    (hbefore : ∀ d : Controller, d.required = true → d.Before c → t.Mounted d ∧ t.Joined d)
    (hmount : ¬ t.Mounted c) : ¬ t.Masked := by
  rintro ⟨-, d, hd, -, hjoin, hfirst⟩
  exact hjoin (hbefore d hd (hfirst c hc hmount)).2

/-- A missing mount decides unless it is masked; then the missing membership does that masks it. -/
theorem legacyVerdict_iff (t : Tables) :
    (t.legacyVerdict = .v1 ↔ ∀ c : Controller, c.required = true → t.Mounted c ∧ t.Joined c) ∧
    (t.legacyVerdict = .noMount ↔
      (∃ c : Controller, c.required = true ∧ ¬ t.Mounted c) ∧ ¬ t.Masked) ∧
    (t.legacyVerdict = .invalidV1 ↔
      ((∀ c : Controller, c.required = true → t.Mounted c) ∧
        ∃ c : Controller, c.required = true ∧ ¬ t.Joined c) ∨ t.Masked) := by
  rcases t.legacyVerdict_first with ⟨hv, hplaced⟩ | ⟨c, hc, hbefore, hfault⟩
  · have hmounted : ¬ ∃ c : Controller, c.required = true ∧ ¬ t.Mounted c := by
      rintro ⟨c, hc, hnot⟩
      exact hnot (hplaced c hc).1
    have hjoined : ¬ ∃ c : Controller, c.required = true ∧ ¬ t.Joined c := by
      rintro ⟨c, hc, hnot⟩
      exact hnot (hplaced c hc).2
    rw [hv]
    refine ⟨iff_of_true rfl hplaced, iff_of_false (by decide) fun h => hmounted h.1, ?_⟩
    refine iff_of_false (by decide) ?_
    rintro (h | h)
    · exact hjoined h.2
    · exact hmounted h.1
  · rcases hfault with ⟨hv, hmount⟩ | ⟨hv, hmount, hjoin⟩
    · have hmask := not_masked_of_first hc hbefore hmount
      rw [hv]
      refine ⟨iff_of_false (by decide) fun h => hmount (h c hc).1,
        iff_of_true rfl ⟨⟨c, hc, hmount⟩, hmask⟩, iff_of_false (by decide) ?_⟩
      rintro (h | h)
      · exact hmount (h.1 c hc)
      · exact hmask h
    · have hmask := masked_of_first hc hbefore hmount hjoin
      rw [hv]
      refine ⟨iff_of_false (by decide) fun h => hjoin (h c hc).2,
        iff_of_false (by decide) fun h => h.2 (hmask h.1), iff_of_true rfl ?_⟩
      by_cases hsome : ∃ d : Controller, d.required = true ∧ ¬ t.Mounted d
      · exact Or.inr (hmask hsome)
      · refine Or.inl ⟨fun d hd => ?_, c, hc, hjoin⟩
        by_contra hnot
        exact hsome ⟨d, hd, hnot⟩

end Tables

namespace Detection

/-- The verdict on hierarchies of their own, for every content of the three tables. Version 1 is
    found exactly if every required controller is mounted and joined. A missing mount decides
    wherever there is one that is not masked; a missing membership decides where all are mounted,
    and where it masks the missing mounts. -/
theorem legacy_precedence {files : Files} {controllersPath membershipsPath mountsPath : String}
    {t : Tables} (hin : t.In files controllersPath membershipsPath mountsPath)
    (henabled : Tables.RequiredEnabled t.rows) (hapart : Tables.RequiredApart t.rows) :
    let verdict := (detect files controllersPath membershipsPath mountsPath).value.verdict
    (verdict = .v1 ↔ ∀ c : Controller, c.required = true → t.Mounted c ∧ t.Joined c) ∧
    (verdict = .noMount ↔ (∃ c : Controller, c.required = true ∧ ¬ t.Mounted c) ∧ ¬ t.Masked) ∧
    (verdict = .invalidV1 ↔
      ((∀ c : Controller, c.required = true → t.Mounted c) ∧
        ∃ c : Controller, c.required = true ∧ ¬ t.Joined c) ∨ t.Masked) := by
  intro verdict
  have hverdict : verdict = t.legacyVerdict :=
    ((detect_outcome files controllersPath membershipsPath mountsPath).of_apart hin henabled
      hapart).1
  rw [hverdict]
  exact t.legacyVerdict_iff

/-- A host with one hierarchy for all controllers. -/
def oneHierarchy (mounted joined : String) : Files
  | "proc/cgroups" =>
    .file (Text.toBytes "cpuset 1 1 1\ncpu 1 1 1\ncpuacct 1 1 1\nmemory 1 1 1\n")
  | "proc/self/mountinfo" =>
    .file (Text.toBytes ("1 0 0:1 / cg rw - cgroup none " ++ mounted ++ "\n"))
  | "proc/self/cgroup" => .file (Text.toBytes ("1:" ++ joined ++ ":/\n"))
  | _ => .failed .missing

/-- The tables of such a host. -/
def oneHierarchyTables (mounted joined : List String) : Tables where
  rows := [⟨"cpuset", 1, 1, true⟩, ⟨"cpu", 1, 1, true⟩, ⟨"cpuacct", 1, 1, true⟩,
    ⟨"memory", 1, 1, true⟩]
  mounts := [⟨.v1 mounted, "/", "cg"⟩]
  memberships := [⟨1, joined, "/"⟩]

/-- With `cpuset` not mounted and `memory` not joined, the missing mount decides. -/
theorem legacy_precedence_unmasked :
    let files := oneHierarchy "cpu,cpuacct,memory" "cpuset,cpu,cpuacct"
    let t := oneHierarchyTables ["cpu", "cpuacct", "memory"] ["cpuset", "cpu", "cpuacct"]
    t.In files "proc/cgroups" "proc/self/cgroup" "proc/self/mountinfo" ∧
    Tables.RequiredEnabled t.rows ∧ Tables.RequiredApart t.rows ∧
    (detect files "proc/cgroups" "proc/self/cgroup" "proc/self/mountinfo").value.verdict =
      .noMount := by
  intro files t
  have hin : t.In files "proc/cgroups" "proc/self/cgroup" "proc/self/mountinfo" :=
    ⟨by rfl, by rfl, by rfl⟩
  have henabled : Tables.RequiredEnabled t.rows := (Bindings.requiredEnabled_iff _).1 (by decide)
  have hapart : Tables.RequiredApart t.rows := ⟨.memory, rfl, _, rfl, by decide⟩
  refine ⟨hin, henabled, hapart, (legacy_precedence hin henabled hapart).2.1.2 ?_⟩
  refine ⟨⟨.cpuset, rfl, by decide⟩, ?_⟩
  rintro ⟨-, c, -, -, -, hfirst⟩
  exact Nat.not_lt_zero _ (hfirst .cpuset rfl (by decide))

/-- With `memory` not mounted and `cpuset` not joined, the missing mount goes unnoticed. -/
theorem missing_mount_masked :
    let files := oneHierarchy "cpuset,cpu,cpuacct" "cpu,cpuacct,memory"
    let t := oneHierarchyTables ["cpuset", "cpu", "cpuacct"] ["cpu", "cpuacct", "memory"]
    t.In files "proc/cgroups" "proc/self/cgroup" "proc/self/mountinfo" ∧
    Tables.RequiredEnabled t.rows ∧ Tables.RequiredApart t.rows ∧ ¬ t.Mounted .memory ∧
    (detect files "proc/cgroups" "proc/self/cgroup" "proc/self/mountinfo").value.verdict =
      .invalidV1 :=
  ⟨⟨by rfl, by rfl, by rfl⟩, (Bindings.requiredEnabled_iff _).1 (by decide),
    ⟨.memory, rfl, _, rfl, by decide⟩, by decide, by rfl⟩

end Detection

end CgroupLimits
