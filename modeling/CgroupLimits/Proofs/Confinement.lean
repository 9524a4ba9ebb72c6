import CgroupLimits.Proofs.Resolution
import Mathlib.Data.List.Induction

/-! Whether the directory of a cgroup is below its mount.

    Two dots are a name like any other to the search for a directory: they are compared and put
    behind the mount point as they are. Read by the look of the path alone they take back the name
    in front of them, so a path may lead out of the mount. What a row of names comes to is its
    `Path.Course`, so many steps up and then down along the names that are left (`Path.foldl_move`),
    and the directory is the mount point or below it exactly if the steps up take back no names of
    the mount point but those that the way down begins with. -/

namespace CgroupLimits

namespace Path

/-! ### Where a path leads by its look -/

/-- The names that lead to where one is after one more: two dots take back the last name, if there
    is one. -/
def move (names : List String) (name : String) : List String :=
  if name = ".." then names.dropLast else names ++ [name]

/-- The names that lead from the root to where a path leads. -/
def resolved (path : String) : List String := (segments path).foldl move []

/-- Whether a path leads to where `base` leads, or from there further down. -/
def Within (base path : String) : Prop := isAbsolute path = true ∧ resolved base <+: resolved path

instance (base path : String) : Decidable (Within base path) := inferInstanceAs (Decidable (_ ∧ _))

/-- A way from one place to another: so many steps up, then down along names. -/
structure Course where
  up : Nat
  down : List String
  deriving DecidableEq, Repr

/-- The way with one more name behind it. -/
def Course.step (way : Course) (name : String) : Course :=
  if name = ".." then
    if way.down = [] then ⟨way.up + 1, []⟩ else ⟨way.up, way.down.dropLast⟩
  else ⟨way.up, way.down ++ [name]⟩

/-- The way along a row of names. -/
def course (names : List String) : Course := names.foldl Course.step ⟨0, []⟩

/-- Where the way leads from where `names` lead. -/
def Course.from (way : Course) (names : List String) : List String :=
  names.take (names.length - way.up) ++ way.down

theorem move_from (way : Course) (names : List String) (name : String) :
    move (way.from names) name = (way.step name).from names := by
  rw [move, Course.step]
  by_cases hdots : name = ".."
  · rw [if_pos hdots, if_pos hdots]
    by_cases hdown : way.down = []
    · rw [if_pos hdown, Course.from, Course.from, hdown, List.append_nil, List.append_nil,
        List.dropLast_eq_take, List.take_take, List.length_take]
      congr 1
      dsimp only
      omega
    · rw [if_neg hdown, Course.from, Course.from, List.dropLast_append_of_ne_nil hdown]
  · rw [if_neg hdots, if_neg hdots, Course.from, Course.from, List.append_assoc]

/-- A row of names leads along its way, from wherever one is. -/
theorem foldl_move (row names : List String) : row.foldl move names = (course row).from names := by
  induction row using List.reverseRecOn with
  | nil => simp [course, Course.from]
  | append_singleton row name ih =>
    rw [List.foldl_append, ih, course, course, List.foldl_append]
    exact move_from _ _ _

theorem course_of_plain {row : List String} (h : ".." ∉ row) : course row = ⟨0, row⟩ := by
  induction row using List.reverseRecOn with
  | nil => rfl
  | append_singleton row name ih =>
    rw [List.mem_append, List.mem_singleton, not_or] at h
    have hrow := ih h.1
    rw [course] at hrow
    rw [course, List.foldl_append, hrow, List.foldl_cons, List.foldl_nil, Course.step,
      if_neg (Ne.symm h.2)]

theorem resolved_of_plain {path : String} (h : ".." ∉ segments path) :
    resolved path = segments path := by
  rw [resolved, foldl_move, course_of_plain h]
  rfl

theorem mem_segments_iff {path name : String} (hname : name ≠ "" ∧ name ≠ ".") :
    name ∈ segments path ↔ name ∈ parts path := by
  rw [segments_eq_filter, List.mem_filter]
  exact and_iff_left (decide_eq_true hname)

/-! ### Names behind a path -/

theorem segments_of_isSegment {name : String} (h : IsSegment name) : segments name = [name] := by
  have hfree : ∀ c ∈ name.toList, (c == '/') = false := by
    intro c hc
    rw [beq_eq_false_iff_ne]
    rintro rfl
    exact h.2.2 hc
  rw [segments, Text.fields_of_free h.1 hfree, List.filter_cons_of_pos (by simpa using h.2.1),
    List.filter_nil]

theorem segments_join {name : String} (h : IsSegment name) (base : String) :
    segments (join base name) = segments base ++ [name] := by
  rw [join_of_isSegment h, lead]
  by_cases hempty : base = ""
  · subst hempty
    exact segments_of_isSegment h
  · by_cases hlast : base.toList.getLast? = some '/'
    · obtain ⟨front, hfront⟩ := List.getLast?_eq_some_iff.1 hlast
      obtain rfl : base = String.ofList front ++ "/" := by
        rw [← String.toList_inj]
        simpa using hfront
      rw [if_pos (by simp), segments_append, segments_trailing, segments_of_isSegment h]
    · rw [if_neg (by simp [hempty, hlast]), segments_append, segments_of_isSegment h]

theorem segments_foldl_join {names : List String} (h : ∀ name ∈ names, IsSegment name)
    (base : String) : segments (names.foldl join base) = segments base ++ names := by
  induction names generalizing base with
  | nil => exact (List.append_nil _).symm
  | cons name names ih =>
    obtain ⟨hname, hnames⟩ := List.forall_mem_cons.1 h
    rw [List.foldl_cons, ih hnames, segments_join hname, List.append_assoc, List.singleton_append]

theorem isAbsolute_append {base : String} (h : isAbsolute base = true) (further : String) :
    isAbsolute (base ++ further) = true := by
  simp only [isAbsolute, beq_iff_eq] at h ⊢
  rw [String.toList_append, List.head?_append, h]
  rfl

theorem isAbsolute_foldl_join {names : List String} {base : String}
    (h : isAbsolute base = true) : isAbsolute (names.foldl join base) = true := by
  induction names generalizing base with
  | nil => exact h
  | cons name names ih =>
    rw [List.foldl_cons]
    refine ih ?_
    rw [join]
    split
    · assumption
    · split
      · exact isAbsolute_append h _
      · exact isAbsolute_append (isAbsolute_append h _) _

end Path

/-! ### The directory of a location -/

namespace Location

/-- The names of the mount point that the steps up take back are those that the way down begins
    with, if the directory is below the mount. -/
theorem within_iff {mountPoint : String} {rest : List String}
    (habsolute : Path.isAbsolute mountPoint = true) (hplain : ".." ∉ Path.segments mountPoint)
    (hrest : ∀ name ∈ rest, Path.IsSegment name) :
    Path.Within mountPoint (rest.foldl Path.join mountPoint) ↔
      (Path.segments mountPoint).drop
        ((Path.segments mountPoint).length - (Path.course rest).up) <+:
        (Path.course rest).down := by
  have hresolved : Path.resolved (rest.foldl Path.join mountPoint) =
      (Path.course rest).from (Path.segments mountPoint) := by
    rw [Path.resolved, Path.segments_foldl_join hrest, List.foldl_append, ← Path.resolved,
      Path.resolved_of_plain hplain, Path.foldl_move]
  rw [Path.Within, Path.isAbsolute_foldl_join habsolute, hresolved,
    Path.resolved_of_plain hplain, Path.Course.from]
  generalize Path.segments mountPoint = mounted
  have hmounted := (List.take_append_drop (mounted.length - (Path.course rest).up) mounted).symm
  simp only [true_and]
  constructor
  · intro h
    nth_rewrite 1 [hmounted] at h
    exact (List.prefix_append_right_inj _).1 h
  · intro h
    nth_rewrite 1 [hmounted]
    exact (List.prefix_append_right_inj _).2 h

/-- A directory is the mount point or below it exactly if the path behind the root climbs no
    further up than along names of the mount point that it comes down along again at once. So it is
    if that path has no two dots. -/
theorem directory?_within_iff {root mountPoint path directory : String}
    (habsolute : Path.isAbsolute mountPoint = true) (hplain : ".." ∉ Path.parts mountPoint)
    (h : directory? ⟨root, mountPoint, path⟩ = some directory) :
    let behind := (Path.segments path).drop (Path.segments root).length
    let way := Path.course behind
    let mounted := Path.segments mountPoint
    (Path.Within mountPoint directory ↔ mounted.drop (mounted.length - way.up) <+: way.down) ∧
    (".." ∉ behind → Path.Within mountPoint directory) := by
  intro behind way mounted
  obtain ⟨rest, hrest, rfl⟩ := directory?_eq_some_iff.1 h
  have hbehind : behind = rest := by
    simp only [behind, ← hrest, List.drop_left]
  have hnames : ∀ name ∈ rest, Path.IsSegment name := fun name hname =>
    Path.isSegment_of_mem (hrest ▸ List.mem_append_right _ hname)
  have hmounted : ".." ∉ Path.segments mountPoint :=
    mt (Path.mem_segments_iff (by decide)).1 hplain
  have hiff := within_iff habsolute hmounted hnames
  rw [← hbehind] at hiff ⊢
  refine ⟨hiff, fun hdots => hiff.2 ?_⟩
  rw [Path.course_of_plain hdots, Nat.sub_zero, List.drop_length]
  exact List.nil_prefix

/-- A path that climbs out of the mount and comes back by the name of the mount point. -/
theorem directory?_within_iff_returning :
    let mountPoint := "/sys/fs/cgroup"
    let directory := "/sys/fs/cgroup/../cgroup/x"
    Path.isAbsolute mountPoint = true ∧ ".." ∉ Path.parts mountPoint ∧
    directory? ⟨"/a", mountPoint, "/a/../cgroup/x"⟩ = some directory ∧
    Path.Within mountPoint directory := by
  intro mountPoint directory
  have habsolute : Path.isAbsolute mountPoint = true := by decide
  have hplain : ".." ∉ Path.parts mountPoint := by decide
  have hdirectory : directory? ⟨"/a", mountPoint, "/a/../cgroup/x"⟩ = some directory := by decide
  exact ⟨habsolute, hplain, hdirectory,
    (directory?_within_iff habsolute hplain hdirectory).1.2 (by decide)⟩

/-- A path that climbs out of the mount is not kept from leaving it. -/
theorem directory?_leaves_mount :
    let mountPoint := "/sys/fs/cgroup"
    Path.isAbsolute mountPoint = true ∧ ".." ∉ Path.parts mountPoint ∧
    directory? ⟨"/", mountPoint, "/../x"⟩ = some "/sys/fs/cgroup/../x" ∧
    Path.resolved "/sys/fs/cgroup/../x" = ["sys", "fs", "x"] ∧
    ¬ Path.Within mountPoint "/sys/fs/cgroup/../x" := by
  decide

end Location

end CgroupLimits
