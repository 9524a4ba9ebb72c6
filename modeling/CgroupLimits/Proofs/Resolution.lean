import CgroupLimits.Location
import Mathlib.Logic.Relation

/-! The directory of a cgroup, found segment by segment.

    Root and path are compared by their segments and never as texts. What the path has behind the
    root is put behind the mount point, with one slash between two parts, so the directory is the
    mount point itself if nothing is left (`foldl_join`). How root and path are spelled does not
    matter: `Path.Alike` relates the spellings that differ in doubled slashes, trailing slashes and
    dots, and a location has the same directory, or lacks one for the same reason, in all of
    them. -/

namespace CgroupLimits

namespace Path

/-! ### Segments -/

/-- Whether a name can be one step of a path. -/
def IsSegment (name : String) : Prop := name ≠ "" ∧ name ≠ "." ∧ '/' ∉ name.toList

theorem segments_eq_filter (path : String) :
    segments path = (parts path).filter fun part => part ≠ "" ∧ part ≠ "." := by
  rw [segments, Text.fields, List.filter_filter, parts]
  refine List.filter_congr fun part _ => ?_
  simp only [Bool.decide_and, Bool.and_comm]

theorem isSegment_of_mem {path name : String} (h : name ∈ segments path) : IsSegment name := by
  rw [segments_eq_filter, List.mem_filter] at h
  obtain ⟨hpart, hname⟩ := h
  obtain ⟨hempty, hdot⟩ := of_decide_eq_true hname
  refine ⟨hempty, hdot, fun hmem => ?_⟩
  exact absurd (Text.free_of_mem_split hpart '/' hmem) (by decide)

@[simp] theorem segments_empty : segments "" = [] := rfl

@[simp] theorem segments_dot : segments "." = [] := rfl

@[simp] theorem segments_slash : segments "/" = [] := rfl

theorem segments_append (a b : String) : segments (a ++ "/" ++ b) = segments a ++ segments b := by
  have hslash : "/" = String.singleton '/' := rfl
  rw [hslash, segments, Text.fields_append (by decide), List.filter_append]
  rfl

theorem segments_trailing (path : String) : segments (path ++ "/") = segments path := by
  have happend := segments_append path ""
  rwa [String.append_empty, segments_empty, List.append_nil] at happend

theorem intercalate_parts (path : String) : "/".intercalate (parts path) = path :=
  Text.intercalate_split '/' path

/-! ### Names behind a path -/

/-- A path as it stands in front of a further name. -/
def lead (base : String) : String :=
  if base = "" || base.toList.getLast? == some '/' then base else base ++ "/"

/-- The path that leads from `base` along `names`. -/
def below (base : String) (names : List String) : String :=
  if names = [] then base else lead base ++ "/".intercalate names

theorem join_of_isSegment {name : String} (h : IsSegment name) (base : String) :
    join base name = lead base ++ name := by
  have habsolute : isAbsolute name = false := by
    rw [isAbsolute, beq_eq_false_iff_ne]
    intro hhead
    exact h.2.2 (List.mem_of_head? hhead)
  rw [join, if_neg (by simp [habsolute]), lead]
  split <;> rfl

theorem lead_append {name : String} (h : IsSegment name) (base : String) :
    lead (base ++ name) = base ++ name ++ "/" := by
  have hlist : name.toList ≠ [] := by simpa using h.1
  have hempty : base ++ name ≠ "" := by simp [h.1]
  have hlast : (base ++ name).toList.getLast? ≠ some '/' := by
    rw [String.toList_append, List.getLast?_append, List.getLast?_eq_some_getLast hlist]
    intro hslash
    exact h.2.2 (Option.some.inj hslash ▸ List.getLast_mem hlist)
  rw [lead, if_neg]
  simp only [Bool.or_eq_true, decide_eq_true_eq, beq_iff_eq, not_or]
  exact ⟨hempty, hlast⟩

/-- Names pushed one by one come to stand behind the path with one slash between two of them. -/
theorem foldl_join {names : List String} (h : ∀ name ∈ names, IsSegment name) (base : String) :
    names.foldl join base = below base names := by
  induction names generalizing base with
  | nil => rfl
  | cons name names ih =>
    have hname := h name List.mem_cons_self
    rw [List.foldl_cons, join_of_isSegment hname, ih fun n hn => h n (List.mem_cons_of_mem _ hn)]
    by_cases hnames : names = []
    · subst hnames
      simp [below]
    · rw [below, if_neg hnames, below, if_neg (List.cons_ne_nil _ _), lead_append hname,
        String.intercalate_cons_of_ne_nil hnames]
      simp only [String.append_assoc]

/-! ### Spellings -/

/-- A longer spelling of the same path, by one slash or one dot. -/
inductive Respelling : String → String → Prop
  | doubled (a b : String) : Respelling (a ++ "/" ++ b) (a ++ "/" ++ "/" ++ b)
  | trailing (a : String) : Respelling a (a ++ "/")
  | dotBetween (a b : String) : Respelling (a ++ "/" ++ b) (a ++ "/" ++ "." ++ "/" ++ b)
  | dotInFront (b : String) : Respelling b ("." ++ "/" ++ b)
  | dotBehind (a : String) : Respelling a (a ++ "/" ++ ".")

/-- Whether two paths are spellings of one, by any number of slashes and dots put in or left out. -/
def Alike : String → String → Prop := Relation.EqvGen Respelling

theorem Respelling.segments_eq {path path' : String} (h : Respelling path path') :
    segments path' = segments path := by
  cases h with
  | doubled a b => rw [segments_append, segments_append, segments_trailing]
  | trailing => exact segments_trailing path
  | dotBetween a b =>
    rw [segments_append, segments_append, segments_append, segments_dot, List.append_nil]
  | dotInFront => rw [segments_append, segments_dot, List.nil_append]
  | dotBehind => rw [segments_append, segments_dot, List.append_nil]

/-- A respelling stays one behind a further name. -/
theorem Respelling.behind {path path' : String} (h : Respelling path path') (name : String) :
    Respelling (name ++ "/" ++ path) (name ++ "/" ++ path') := by
  cases h with
  | doubled a b => simpa only [String.append_assoc] using doubled (name ++ "/" ++ a) b
  | trailing => simpa only [String.append_assoc] using trailing (name ++ "/" ++ path)
  | dotBetween a b => simpa only [String.append_assoc] using dotBetween (name ++ "/" ++ a) b
  | dotInFront => simpa only [String.append_assoc] using dotBetween name path
  | dotBehind => simpa only [String.append_assoc] using dotBehind (name ++ "/" ++ path)

namespace Alike

variable {path path' : String}

theorem segments_eq (h : Alike path path') : segments path = segments path' := by
  induction h with
  | rel _ _ hstep => exact hstep.segments_eq.symm
  | refl => rfl
  | symm _ _ _ ih => exact ih.symm
  | trans _ _ _ _ _ ih ih' => exact ih.trans ih'

theorem behind (h : Alike path path') (name : String) :
    Alike (name ++ "/" ++ path) (name ++ "/" ++ path') := by
  induction h with
  | rel _ _ hstep => exact .rel _ _ (hstep.behind name)
  | refl => exact .refl _
  | symm _ _ _ ih => exact ih.symm
  | trans _ _ _ _ _ ih ih' => exact ih.trans _ _ _ ih'

theorem dot (path : String) : Alike ("." ++ "/" ++ path) path :=
  .symm _ _ (.rel _ _ (.dotInFront path))

/-- A slash in front of a path is one more slash behind a dot. -/
theorem slash (path : String) : Alike ("/" ++ path) path := by
  have hdoubled : Alike ("." ++ "/" ++ path) ("." ++ "/" ++ ("/" ++ path)) :=
    .rel _ _ (by simpa only [String.append_assoc] using Respelling.doubled "." path)
  exact (dot ("/" ++ path)).symm.trans _ _ _ (hdoubled.symm.trans _ _ _ (dot path))

theorem cons (name : String) (names : List String) :
    Alike ("/".intercalate (name :: names)) (name ++ "/" ++ "/".intercalate names) := by
  by_cases hnames : names = []
  · subst hnames
    rw [String.intercalate_singleton, String.intercalate_nil, String.append_empty]
    exact .rel _ _ (.trailing name)
  · rw [String.intercalate_cons_of_ne_nil hnames]
    exact .refl _

/-- Parts that lead nowhere can be left out. -/
theorem filter (names : List String) :
    Alike ("/".intercalate names)
      ("/".intercalate (names.filter fun part => part ≠ "" ∧ part ≠ ".")) := by
  induction names with
  | nil => exact .refl _
  | cons name names ih =>
    refine (cons name names).trans _ _ _ ?_
    by_cases hname : name ≠ "" ∧ name ≠ "."
    · rw [List.filter_cons_of_pos (by simpa using hname)]
      exact (ih.behind name).trans _ _ _ (cons name _).symm
    · rw [List.filter_cons_of_neg (by simpa using hname)]
      refine Relation.EqvGen.trans _ _ _ ?_ ih
      by_cases hempty : name = ""
      · subst hempty
        exact slash _
      · obtain rfl : name = "." := by simpa [hempty] using hname
        exact dot _

theorem segments (path : String) : Alike path ("/".intercalate (Path.segments path)) := by
  have hfilter := filter (parts path)
  rwa [intercalate_parts, ← segments_eq_filter] at hfilter

end Alike

/-- The segments are all that the spellings of a path have in common. -/
theorem alike_iff {path path' : String} : Alike path path' ↔ segments path = segments path' := by
  refine ⟨Alike.segments_eq, fun h => ?_⟩
  have hpath' := Alike.segments path'
  rw [← h] at hpath'
  exact (Alike.segments path).trans _ _ _ hpath'.symm

end Path

/-! ### The directory of a location -/

namespace Location

/-- Nothing but the segments of root and path matters. -/
theorem resolve_congr {l l' : Location} (hroot : Path.segments l.root = Path.segments l'.root)
    (hmount : l.mountPoint = l'.mountPoint)
    (hpath : Path.segments l.cgroupPath = Path.segments l'.cgroupPath) :
    l.resolve = l'.resolve := by
  simp only [resolve, hroot, hmount, hpath]

theorem resolve_of_append {l : Location} {rest : List String}
    (h : Path.segments l.root ++ rest = Path.segments l.cgroupPath) :
    l.resolve = .ok (rest.foldl Path.join l.mountPoint) := by
  simp only [resolve, ← h, List.length_append, List.take_left, List.drop_left, if_true]
  rw [if_neg (Nat.not_lt.2 (Nat.le_add_right _ _))]

theorem directory?_outside_root {l : Location}
    (h : ¬ Path.segments l.root <+: Path.segments l.cgroupPath) : l.directory? = none := by
  have htake : (Path.segments l.cgroupPath).take (Path.segments l.root).length ≠
      Path.segments l.root := fun htake => h (List.prefix_iff_eq_take.2 htake.symm)
  simp only [directory?, resolve, if_neg htake]
  split <;> rfl

theorem directory?_eq_some_iff {l : Location} {directory : String} :
    l.directory? = some directory ↔
      ∃ rest, Path.segments l.root ++ rest = Path.segments l.cgroupPath ∧
        rest.foldl Path.join l.mountPoint = directory := by
  constructor
  · intro h
    by_cases hroot : Path.segments l.root <+: Path.segments l.cgroupPath
    · obtain ⟨rest, hrest⟩ := hroot
      rw [directory?, resolve_of_append hrest] at h
      exact ⟨rest, hrest, Option.some.inj h⟩
    · rw [directory?_outside_root hroot] at h
      cases h
  · rintro ⟨rest, hrest, rfl⟩
    rw [directory?, resolve_of_append hrest]
    rfl

theorem directory?_below_root (root mountPoint path : String) :
    directory? ⟨root, mountPoint, root ++ "/" ++ path⟩ = directory? ⟨"/", mountPoint, path⟩ := by
  refine Option.ext fun directory => ?_
  simp only [directory?_eq_some_iff, Path.segments_append, List.append_cancel_left_eq,
    Path.segments_slash, List.nil_append]

theorem directory?_below {root mountPoint path directory : String}
    (h : directory? ⟨root, mountPoint, path⟩ = some directory) (further : String) :
    directory? ⟨root, mountPoint, path ++ "/" ++ further⟩ =
      some ((Path.segments further).foldl Path.join directory) := by
  obtain ⟨rest, hrest, rfl⟩ := directory?_eq_some_iff.1 h
  refine directory?_eq_some_iff.2 ⟨rest ++ Path.segments further, ?_, List.foldl_append⟩
  rw [Path.segments_append, ← hrest, List.append_assoc]

/-- A location has a directory exactly if the segments of its root stand in front of those of its
    path, and the directory is then the mount point with the segments that are left pushed behind
    it: the mount point itself if none is left, else all of them with one slash between two parts.
    What stands below the root is found as it is in a mount of the whole hierarchy, a longer path
    leads further down from the same directory, and spelling does not matter. -/
theorem directory?_by_segments (root mountPoint path : String) :
    let seg (p : String) := (Path.parts p).filter fun part => part ≠ "" ∧ part ≠ "."
    (∀ directory, directory? ⟨root, mountPoint, path⟩ = some directory ↔
      ∃ rest, seg root ++ rest = seg path ∧ rest.foldl Path.join mountPoint = directory ∧
        Path.below mountPoint rest = directory) ∧
    (∀ below, directory? ⟨root, mountPoint, root ++ "/" ++ below⟩ =
      directory? ⟨"/", mountPoint, below⟩) ∧
    (∀ directory further, directory? ⟨root, mountPoint, path⟩ = some directory →
      directory? ⟨root, mountPoint, path ++ "/" ++ further⟩ =
        some ((seg further).foldl Path.join directory)) ∧
    (∀ root' path', Path.Alike root root' → Path.Alike path path' →
      resolve ⟨root', mountPoint, path'⟩ = resolve ⟨root, mountPoint, path⟩) := by
  intro seg
  have hseg : ∀ p, seg p = Path.segments p := fun p => (Path.segments_eq_filter p).symm
  simp only [hseg]
  refine ⟨fun directory => ?_, directory?_below_root root mountPoint,
    fun directory further h => directory?_below h further, fun root' path' hroot hpath => ?_⟩
  · rw [directory?_eq_some_iff]
    refine exists_congr fun rest => and_congr_right fun hrest => ?_
    have hnames : ∀ name ∈ rest, Path.IsSegment name := fun name hname =>
      Path.isSegment_of_mem (hrest ▸ List.mem_append_right _ hname)
    rw [Path.foldl_join hnames, and_self]
  · exact resolve_congr (Path.alike_iff.1 hroot).symm rfl (Path.alike_iff.1 hpath).symm

/-- A cgroup below a mounted part of the hierarchy: further down, and with doubled slashes in the
    root and a dot and a trailing slash in the path. -/
theorem directory?_by_segments_nested :
    let plain : Location := ⟨"/pods/one", "cg/", "/pods/one/run"⟩
    let further : Location := ⟨"/pods/one", "cg/", "/pods/one/run/inner"⟩
    let spelled : Location := ⟨"//pods//one", "cg/", "/pods/one/./run/"⟩
    plain.directory? = some "cg/run" ∧ further.directory? = some "cg/run/inner" ∧
    Path.Alike plain.root spelled.root ∧ Path.Alike plain.cgroupPath spelled.cgroupPath ∧
    spelled.resolve = plain.resolve := by
  have hall := directory?_by_segments "/pods/one" "cg/" "/pods/one/run"
  have hplain : directory? ⟨"/pods/one", "cg/", "/pods/one/run"⟩ = some "cg/run" := by decide
  have hroot : Path.Alike "/pods/one" "//pods//one" := Path.alike_iff.2 (by decide)
  have hpath : Path.Alike "/pods/one/run" "/pods/one/./run/" := Path.alike_iff.2 (by decide)
  exact ⟨hplain, hall.2.2.1 "cg/run" "inner" hplain, hroot, hpath, hall.2.2.2 _ _ hroot hpath⟩

end Location

end CgroupLimits
