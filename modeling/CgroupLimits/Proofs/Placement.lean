import CgroupLimits.Proofs.Answers
import CgroupLimits.Proofs.Detection

/-! Where a new subsystem looks for its control files.

    Detection gives a version only if it has placed every controller that the version needs, so
    creation never fails for want of a location (`Outcome.located_of_v1`, `Outcome.located_of_v2`),
    and each query is answered from where its controller was placed (`Query.AnsweredAt`). A location
    may still lead nowhere: the root of a mount need not be in front of the path. Then the
    controller has no directory, and its queries have the answer that stands for none, whatever the
    files hold later. -/

namespace CgroupLimits

/-! ### Locations -/

theorem Binding.location?_eq_some_iff {b : Binding} {l : Location} :
    b.location? = some l ↔
      b.root = some l.root ∧ b.mountPoint = some l.mountPoint ∧
        b.cgroupPath = some l.cgroupPath := by
  obtain ⟨_, _, _, path, root, point⟩ := b
  obtain ⟨root', point', path'⟩ := l
  cases root <;> cases point <;> cases path <;> simp [location?]

/-- A controller that is bound to a mount and to a membership has a location, and no other has. -/
theorem Binding.location?_bound_isSome (row : Option ControllerRow) (mount : Option Mount)
    (m : Option Membership) :
    (bound row mount m).location?.isSome = (bound row mount m).complete := by
  cases mount <;> cases m <;> rfl

namespace Detection.Outcome

variable {files : Files} {controllersPath membershipsPath mountsPath : String} {verdict : Verdict}
  {bindings : Controller → Binding}
  (h : Outcome files controllersPath membershipsPath mountsPath verdict bindings)

include h

/-- In version 1 the required controllers have locations, and `pids` has one if it is bound. -/
theorem located_of_v1 (hv : verdict = .v1) (c : Controller) :
    (bindings c).location?.isSome = (bindings c).complete ∧
      (c.required = true → (bindings c).complete = true) := by
  cases h with
  | @apart t =>
    refine ⟨Binding.location?_bound_isSome _ _ _, fun hrequired => ?_⟩
    rcases t.legacyVerdict_cases with ⟨-, hplaced⟩ | ⟨hcases, -⟩
    · obtain ⟨hmount, hm⟩ := hplaced c hrequired
      exact Bool.and_eq_true_iff.2
        ⟨Controller.mount?_isSome_iff.2 hmount, Controller.membership?_isSome_iff.2 hm⟩
    · rw [hv] at hcases
      rcases hcases with hcase | hcase <;> cases hcase
  | _ => cases hv

/-- In version 2 all controllers have the same location. -/
theorem located_of_v2 (hv : verdict = .v2) : ∃ l, ∀ c, (bindings c).location? = some l := by
  obtain ⟨t, -, mount, m, -, -, rfl⟩ := h.of_v2 hv
  exact ⟨⟨mount.root, mount.mountPoint, m.path⟩, fun _ => rfl⟩

end Detection.Outcome

/-- Whether a control directory is the one that a binding tells of: that of the location made of
    its root, its mount point and its path. -/
structure ControlDirectory.At (settings : Settings) (b : Binding) (d : ControlDirectory) :
    Prop where
  root : b.root = some d.location.root
  mountPoint : b.mountPoint = some d.location.mountPoint
  cgroupPath : b.cgroupPath = some d.location.cgroupPath
  maxLineLength : d.maxLineLength = settings.maxLineLength

/-- A binding tells of one directory at most. -/
theorem ControlDirectory.At.unique {settings : Settings} {b : Binding} {d d' : ControlDirectory}
    (h : d.At settings b) (h' : d'.At settings b) : d = d' := by
  obtain ⟨⟨root, point, path⟩, length⟩ := d
  obtain ⟨⟨root', point', path'⟩, length'⟩ := d'
  obtain rfl : root = root' := Option.some.inj (h.root.symm.trans h'.root)
  obtain rfl : point = point' := Option.some.inj (h.mountPoint.symm.trans h'.mountPoint)
  obtain rfl : path = path' := Option.some.inj (h.cgroupPath.symm.trans h'.cgroupPath)
  obtain rfl : length = length' := h.maxLineLength.trans h'.maxLineLength.symm
  rfl

namespace Subsystem

theorem value_locate (settings : Settings) (bindings : Bindings) (c : Controller) :
    (locate settings bindings c).value =
      (bindings.get c).location?.map (⟨·, settings.maxLineLength⟩) := by
  unfold locate
  cases (bindings.get c).location? <;> rfl

theorem at_of_locate {settings : Settings} {bindings : Bindings} {c : Controller}
    {d : ControlDirectory} (h : (locate settings bindings c).value = some d) :
    d.At settings (bindings.get c) := by
  rw [value_locate, Option.map_eq_some_iff] at h
  obtain ⟨l, hl, rfl⟩ := h
  obtain ⟨hroot, hpoint, hpath⟩ := Binding.location?_eq_some_iff.1 hl
  exact ⟨hroot, hpoint, hpath, rfl⟩

/-! ### The directories of each version -/

/-- A subsystem of version 1: each controller is in its own directory, and `pids` is used exactly
    if it is bound. -/
structure PlacedApart (settings : Settings) (bindings : Bindings) (s : Subsystem) : Prop where
  version : s.version = .v1
  cpu : s.cpu.At settings (bindings.get .cpu)
  memory : s.memory.At settings (bindings.get .memory)
  cpuset : s.cpuset.At settings (bindings.get .cpuset)
  pids_isSome : s.pids.isSome = (bindings.get .pids).complete
  pids : ∀ d ∈ s.pids, d.At settings (bindings.get .pids)

/-- A subsystem of version 2: all controllers are in the one directory that every binding tells of,
    and `pids` is used exactly if it is enabled. -/
structure PlacedTogether (settings : Settings) (bindings : Bindings) (s : Subsystem) : Prop where
  version : s.version = .v2
  memory : ∀ c, s.memory.At settings (bindings.get c)
  cpu_eq : s.cpu = s.memory
  cpuset_eq : s.cpuset = s.memory
  pids_eq : s.pids = if (bindings.get .pids).enabled then some s.memory else none

section Placing

variable (settings : Settings) (host : Host) {bindings : Bindings}

theorem placed_of_ofLegacy
    (hlocated : ∀ c, (bindings.get c).location?.isSome = (bindings.get c).complete ∧
      (c.required = true → (bindings.get c).complete = true)) :
    ∃ s, (ofLegacy settings host bindings).value = some s ∧ PlacedApart settings bindings s := by
  have hlocate (c : Controller) :
      (locate settings bindings c).value.isSome = (bindings.get c).complete := by
    rw [value_locate, Option.isSome_map, (hlocated c).1]
  have hsome {c : Controller} (hrequired : c.required = true) :
      ∃ d, (locate settings bindings c).value = some d := by
    rw [← Option.isSome_iff_exists, hlocate]
    exact (hlocated c).2 hrequired
  obtain ⟨cpu, hcpu⟩ := hsome (c := .cpu) rfl
  obtain ⟨memory, hmemory⟩ := hsome (c := .memory) rfl
  obtain ⟨cpuset, hcpuset⟩ := hsome (c := .cpuset) rfl
  unfold ofLegacy
  by_cases hpids : (bindings.get .pids).complete = true
  · simp only [if_pos hpids, Logged.value_bind, Logged.value_pure, hcpu, hmemory, hcpuset]
    refine ⟨_, rfl, rfl, at_of_locate hcpu, at_of_locate hmemory, at_of_locate hcpuset, ?_, ?_⟩
    · exact hlocate .pids
    · exact fun d hd => at_of_locate hd
  · simp only [if_neg hpids, Logged.value_bind, Logged.value_pure, hcpu, hmemory, hcpuset]
    refine ⟨_, rfl, rfl, at_of_locate hcpu, at_of_locate hmemory, at_of_locate hcpuset, ?_, ?_⟩
    · exact (Bool.eq_false_iff.2 hpids).symm
    · exact fun d hd => absurd hd (by simp)

theorem placed_of_ofUnified {l : Location} (hl : ∀ c, (bindings.get c).location? = some l) :
    ∃ s, (ofUnified settings host bindings).value = some s ∧
      PlacedTogether settings bindings s := by
  have hlocate (c : Controller) :
      (locate settings bindings c).value = some ⟨l, settings.maxLineLength⟩ := by
    rw [value_locate, hl]
    rfl
  simp only [ofUnified, Logged.value_bind, Logged.value_pure, hlocate, Option.map_some]
  exact ⟨_, rfl, rfl, fun c => at_of_locate (hlocate c), rfl, rfl, rfl⟩

end Placing

/-- Creation gives a subsystem placed as its version asks, or else the verdict of detection. -/
theorem create_cases (files : Files) (settings : Settings) (host : Host) :
    let d := (detect files settings.controllersPath settings.membershipsPath
      settings.mountsPath).value
    let created := (create files settings host).value
    (∃ s, created = .ok s ∧ (d.verdict = .v1 ∧ PlacedApart settings d.bindings s ∨
      d.verdict = .v2 ∧ PlacedTogether settings d.bindings s)) ∨
    (d.verdict ≠ .v1 ∧ d.verdict ≠ .v2 ∧ created = .error d.verdict) := by
  intro d created
  have houtcome : Detection.Outcome files settings.controllersPath settings.membershipsPath
      settings.mountsPath d.verdict d.bindings.get := Detection.detect_outcome files _ _ _
  simp only [created, create, Logged.value_bind]
  cases hversion : d.verdict.version? with
  | none =>
    have hne (version : Version) : d.verdict ≠ .ofVersion version := by
      rw [Ne, ← Verdict.version?_eq_some_iff, hversion]
      simp
    exact Or.inr ⟨hne .v1, hne .v2, rfl⟩
  | some version =>
    have hverdict := Verdict.version?_eq_some_iff.1 hversion
    cases version with
    | v1 =>
      obtain ⟨s, hs, hplaced⟩ :=
        placed_of_ofLegacy settings host (houtcome.located_of_v1 hverdict)
      refine Or.inl ⟨s, ?_, Or.inl ⟨hverdict, hplaced⟩⟩
      simp only [Logged.value_bind]
      rw [hs]
      rfl
    | v2 =>
      obtain ⟨l, hl⟩ := houtcome.located_of_v2 hverdict
      obtain ⟨s, hs, hplaced⟩ := placed_of_ofUnified settings host hl
      refine Or.inl ⟨s, ?_, Or.inr ⟨hverdict, hplaced⟩⟩
      simp only [Logged.value_bind]
      rw [hs]
      rfl

end Subsystem

/-! ### Answers from the places -/

/-- The controller that a single query is about. -/
def Query.controller? : Query → Option Controller
  | .activeProcessors | .cpuQuota | .cpuPeriod | .cpuShares => some .cpu
  | .cpusetProcessors | .cpusetMemoryNodes => some .cpuset
  | .tasksMost | .tasksCurrent => some .pids
  | .report => none
  | _ => some .memory

/-- Whether queries use a controller that is bound so. The required ones always are; `pids` is in
    version 1 if it is bound, and in version 2 if it is enabled. -/
def Controller.Used (version : Version) (b : Binding) (c : Controller) : Prop :=
  c.required = true ∨
    match version with
    | .v1 => b.complete = true
    | .v2 => b.enabled = true

/-- Whether a single query is answered as the bindings ask: from the directory where its controller
    is bound or, if the controller is not used, as without control files. -/
structure Query.AnsweredAt (settings : Settings) (host : Host) (version : Version)
    (bindings : Bindings) (ms : List Moment) (m : Moment) (q : Query) (answer : Answer) :
    Prop where
  used : ∀ c ∈ q.controller?, c.Used version (bindings.get c) →
    ∃ d : ControlDirectory, d.At settings (bindings.get c) ∧ q.ReadFrom d version host ms m answer
  unused : ∀ c ∈ q.controller?, ¬ c.Used version (bindings.get c) → answer = q.fallback host

namespace Subsystem

variable {settings : Settings} {host : Host} {bindings : Bindings} {s : Subsystem}

/-- The control directory of a controller, if the queries about it have one. -/
def directory? (s : Subsystem) : Controller → Option ControlDirectory
  | .cpu => some s.cpu
  | .cpuset => some s.cpuset
  | .memory => some s.memory
  | .pids => s.pids
  | .cpuacct => none

theorem source_eq {q : Query} {c : Controller} (hc : q.controller? = some c) (s : Subsystem) :
    q.source s = s.directory? c := by
  cases q <;> cases hc <;> rfl

theorem controller?_ne_cpuacct (q : Query) : q.controller? ≠ some .cpuacct := by
  cases q <;> decide

/-- Whether the queries about a controller have a directory where it is bound if it is used, and
    have none if it is not. -/
def Places (settings : Settings) (bindings : Bindings) (s : Subsystem) (c : Controller) : Prop :=
  (c.Used s.version (bindings.get c) ∧
    ∃ d, s.directory? c = some d ∧ d.At settings (bindings.get c)) ∨
  (¬ c.Used s.version (bindings.get c) ∧ s.directory? c = none)

/-- The required controllers are always used, so `pids` is what is left to look at. -/
theorem places_of_pids (hcpu : s.cpu.At settings (bindings.get .cpu))
    (hcpuset : s.cpuset.At settings (bindings.get .cpuset))
    (hmemory : s.memory.At settings (bindings.get .memory))
    (hpids : Places settings bindings s .pids) {c : Controller} (hc : c ≠ .cpuacct) :
    Places settings bindings s c := by
  cases c with
  | cpu => exact Or.inl ⟨Or.inl rfl, s.cpu, rfl, hcpu⟩
  | cpuset => exact Or.inl ⟨Or.inl rfl, s.cpuset, rfl, hcpuset⟩
  | memory => exact Or.inl ⟨Or.inl rfl, s.memory, rfl, hmemory⟩
  | pids => exact hpids
  | cpuacct => exact absurd rfl hc

theorem PlacedApart.places (h : PlacedApart settings bindings s) {c : Controller}
    (hc : c ≠ .cpuacct) : Places settings bindings s c := by
  refine places_of_pids h.cpu h.cpuset h.memory ?_ hc
  have hbound := h.pids_isSome
  rw [Places, h.version]
  cases hpids : s.pids with
  | none =>
    rw [hpids] at hbound
    exact Or.inr ⟨by simp [Controller.Used, Controller.required, ← hbound], hpids⟩
  | some d =>
    rw [hpids] at hbound
    exact Or.inl ⟨Or.inr hbound.symm, d, hpids, h.pids d hpids⟩

theorem PlacedTogether.places (h : PlacedTogether settings bindings s) {c : Controller}
    (hc : c ≠ .cpuacct) : Places settings bindings s c := by
  refine places_of_pids (h.cpu_eq ▸ h.memory .cpu) (h.cpuset_eq ▸ h.memory .cpuset)
    (h.memory .memory) ?_ hc
  have hpids := h.pids_eq
  rw [Places, h.version]
  by_cases henabled : (bindings.get .pids).enabled = true
  · rw [if_pos henabled] at hpids
    exact Or.inl ⟨Or.inr henabled, s.memory, hpids, h.memory .pids⟩
  · rw [if_neg henabled] at hpids
    exact Or.inr ⟨by simp [Controller.Used, Controller.required, henabled], hpids⟩

/-- Each single query of a run is answered as the bindings ask. -/
theorem Fresh.run_answeredAt (h : Fresh settings host s)
    (hplaced : PlacedApart settings bindings s ∨ PlacedTogether settings bindings s)
    (ms : List Moment) :
    List.Forall₂ (fun m answer => ∀ p ∈ answer.parts m.query,
      p.1.AnsweredAt settings host s.version bindings ms m p.2) ms (s.run ms).value.1 := by
  refine (Follows.refl s).forall₂_parts seen_of_mem fun m hm q hq s' hs' => ?_
  have hplaces {c : Controller} (hc : q.controller? = some c) : Places settings bindings s c := by
    have hne : c ≠ .cpuacct := by
      rintro rfl
      exact controller?_ne_cpuacct q hc
    exact hplaced.elim (·.places hne) (·.places hne)
  refine ⟨fun c hc hused => ?_, fun c hc hunused => ?_⟩
  · rcases hplaces hc with ⟨-, d, hd, hat⟩ | ⟨hunused, -⟩
    · exact ⟨d, hat, h.answer_readFrom hs' hm ((source_eq hc s).trans hd)⟩
    · exact absurd hused hunused
  · rcases hplaces hc with ⟨hused, -⟩ | ⟨-, hnone⟩
    · exact absurd hused hunused
    · have hsource : q.source s = none := (source_eq hc s).trans hnone
      have hprocessors : q ≠ .activeProcessors := by
        rintro rfl
        cases hsource
      refine h.answer_fallsBack hs' (seen_of_mem m hm) m.now hq ?_ fun hq => absurd hq hprocessors
      rw [hsource]
      nofun

/-! ### Main result -/

/-- Creation agrees with detection. A subsystem is made exactly where detection gives a version, and
    else the error is the verdict, which is never one of a version. Its directories are where
    detection put its controllers, and every query of every later run is answered from there, in
    reports too; without `pids` the queries for tasks are unanswered. A controller whose location
    leads nowhere leaves its queries unanswered, whatever becomes of the files. -/
theorem create_agrees (files : Files) (settings : Settings) (host : Host) :
    let d := (detect files settings.controllersPath settings.membershipsPath
      settings.mountsPath).value
    let created := (create files settings host).value
    ((∃ s, created = .ok s) ↔ d.verdict = .v1 ∨ d.verdict = .v2) ∧
    (∀ verdict, created = .error verdict →
      verdict = d.verdict ∧ verdict ≠ .v1 ∧ verdict ≠ .v2 ∧ verdict ≠ .unset) ∧
    ∀ s, created = .ok s →
      (d.verdict = .v1 → PlacedApart settings d.bindings s) ∧
      (d.verdict = .v2 → PlacedTogether settings d.bindings s) ∧
      (∀ ms : List Moment, List.Forall₂ (fun m answer => ∀ p ∈ answer.parts m.query,
        p.1.AnsweredAt settings host s.version d.bindings ms m p.2) ms (s.run ms).value.1) ∧
      ∀ ms : List Moment, List.Forall₂ (fun m answer => ∀ p ∈ answer.parts m.query,
        p.1.FallsBack host s m.now p.2) ms (s.run ms).value.1 := by
  intro d created
  have hunset : d.verdict ≠ .unset := (Detection.detect_outcome files _ _ _).ne_unset
  rcases create_cases files settings host with ⟨s, hs, hplaced⟩ | ⟨hv1, hv2, herror⟩
  · refine ⟨iff_of_true ⟨s, hs⟩ (hplaced.imp And.left And.left), ?_, ?_⟩
    · intro verdict h
      cases hs.symm.trans h
    · intro s' h
      obtain rfl : s = s' := Except.ok.inj (hs.symm.trans h)
      have hfresh := fresh_of_create hs
      refine ⟨fun h1 => ?_, fun h2 => ?_,
        hfresh.run_answeredAt (hplaced.imp And.right And.right), hfresh.run_fallsBack⟩
      · rcases hplaced with ⟨-, hplaced⟩ | ⟨hv, -⟩
        · exact hplaced
        · exact absurd (h1.symm.trans hv) (by decide)
      · rcases hplaced with ⟨hv, -⟩ | ⟨-, hplaced⟩
        · exact absurd (h2.symm.trans hv) (by decide)
        · exact hplaced
  · refine ⟨iff_of_false ?_ ?_, ?_, ?_⟩
    · rintro ⟨s, hs⟩
      cases herror.symm.trans hs
    · rintro (h | h)
      · exact hv1 h
      · exact hv2 h
    · intro verdict h
      obtain rfl : d.verdict = verdict := Except.error.inj (herror.symm.trans h)
      exact ⟨rfl, hv1, hv2, hunset⟩
    · intro s hs
      cases herror.symm.trans hs

/-- A host on which the root of the only mount is not in front of the path of the process. -/
def elsewhere : Files
  | "proc/cgroups" =>
    .file (Text.toBytes "cpuset 1 1 1\ncpu 1 1 1\ncpuacct 1 1 1\nmemory 1 1 1\n")
  | "proc/self/cgroup" => .file (Text.toBytes "1:cpuset,cpu,cpuacct,memory:/b\n")
  | "proc/self/mountinfo" =>
    .file (Text.toBytes "1 0 0:1 /a cg rw - cgroup none cpuset,cpu,cpuacct,memory\n")
  | _ => .failed .missing

/-- What its required controllers are bound to. -/
def elsewhereBound : Binding := ⟨some 1, true, true, some "/b", some "/a", some "cg"⟩

/-- The same host with `pids` on a mount of its own. -/
def elsewhereButTasks : Files
  | "proc/cgroups" =>
    .file (Text.toBytes "cpuset 1 1 1\ncpu 1 1 1\ncpuacct 1 1 1\nmemory 1 1 1\npids 2 1 1\n")
  | "proc/self/cgroup" =>
    .file (Text.toBytes "2:pids:/p\n1:cpuset,cpu,cpuacct,memory:/b\n")
  | "proc/self/mountinfo" =>
    .file (Text.toBytes ("1 0 0:1 /a cg rw - cgroup none cpuset,cpu,cpuacct,memory\n" ++
      "2 0 0:2 / pg rw - cgroup none pids\n"))
  | _ => .failed .missing

/-- Creation succeeds there, and no file that turns up later makes a limit. With `pids` bound, the
    tasks are read from its own directory. -/
theorem create_agrees_elsewhere :
    (∃ s, (create elsewhere ⟨"proc", 20000000, 1024⟩ ⟨4, 8589934592, 0⟩).value = .ok s ∧
      s.version = .v1 ∧ s.memory.location = ⟨"/a", "cg", "/b"⟩ ∧ s.pids = none ∧
      ∀ files now, (s.answer files now .memoryLimit).value.1 = .metric Metric.unknown) ∧
    ∃ s, (create elsewhereButTasks ⟨"proc", 20000000, 1024⟩ ⟨4, 8589934592, 0⟩).value = .ok s ∧
      ∀ files now, (s.answer files now .tasksMost).value.1 =
        .metric (Tasks.most ⟨⟨"/", "pg", "/p"⟩, 1024⟩ files).value := by
  let b := elsewhereBound
  constructor
  · obtain ⟨hok, -, hall⟩ :=
      create_agrees elsewhere ⟨"proc", 20000000, 1024⟩ ⟨4, 8589934592, 0⟩
    have hdetected : (detect elsewhere "proc/cgroups" "proc/self/cgroup"
        "proc/self/mountinfo").value = ⟨.v1, ⟨b, b, b, b, .empty⟩⟩ := by decide +kernel
    have hverdict := congrArg Detection.verdict hdetected
    obtain ⟨s, hs⟩ := hok.2 (Or.inl hverdict)
    obtain ⟨hapart, -, -, hrun⟩ := hall s hs
    have hplaced : PlacedApart ⟨"proc", 20000000, 1024⟩ (detect elsewhere "proc/cgroups"
        "proc/self/cgroup" "proc/self/mountinfo").value.bindings s := hapart hverdict
    rw [hdetected] at hplaced
    have hlocation : s.memory.location = ⟨"/a", "cg", "/b"⟩ :=
      Option.some.inj ((Binding.location?_eq_some_iff.2
        ⟨hplaced.memory.root, hplaced.memory.mountPoint, hplaced.memory.cgroupPath⟩).symm)
    have hpids : s.pids = none := by
      rw [← Option.isNone_iff_eq_none, ← Option.not_isSome, hplaced.pids_isSome]
      rfl
    refine ⟨s, hs, hplaced.version, hlocation, hpids, fun files now => ?_⟩
    have hanswer :=
      (List.forall₂_cons.1 (hrun [⟨.memoryLimit, now, files⟩])).1 _ List.mem_cons_self
    refine hanswer ?_ (by simp)
    rintro d ⟨⟩
    rw [hlocation]
    decide
  · obtain ⟨hok, -, hall⟩ :=
      create_agrees elsewhereButTasks ⟨"proc", 20000000, 1024⟩ ⟨4, 8589934592, 0⟩
    have hdetected : (detect elsewhereButTasks "proc/cgroups" "proc/self/cgroup"
        "proc/self/mountinfo").value =
          ⟨.v1, ⟨b, b, b, b, ⟨some 2, true, true, some "/p", some "/", some "pg"⟩⟩⟩ := by
      decide +kernel
    have hverdict := congrArg Detection.verdict hdetected
    obtain ⟨s, hs⟩ := hok.2 (Or.inl hverdict)
    obtain ⟨hapart, -, hrun, -⟩ := hall s hs
    refine ⟨s, hs, fun files now => ?_⟩
    have hanswered : Query.AnsweredAt ⟨"proc", 20000000, 1024⟩ ⟨4, 8589934592, 0⟩ s.version
        (detect elsewhereButTasks "proc/cgroups" "proc/self/cgroup"
          "proc/self/mountinfo").value.bindings [⟨.tasksMost, now, files⟩]
        ⟨.tasksMost, now, files⟩ .tasksMost (s.answer files now .tasksMost).value.1 :=
      (List.forall₂_cons.1 (hrun [⟨.tasksMost, now, files⟩])).1 _ List.mem_cons_self
    rw [hdetected, (hapart hverdict).version] at hanswered
    obtain ⟨d, hat, hread⟩ := hanswered.used .pids rfl (Or.inr rfl)
    obtain rfl : ⟨⟨"/", "pg", "/p"⟩, 1024⟩ = d :=
      ControlDirectory.At.unique ⟨rfl, rfl, rfl, rfl⟩ hat
    have hno (k : Kept) : ¬ k.Asked .tasksMost := by cases k <;> decide
    obtain ⟨files', -, hfiles, hanswer⟩ := hread fun k hasked => absurd hasked (hno k)
    rw [hanswer, hfiles hno]
    rfl

end Subsystem

end CgroupLimits
