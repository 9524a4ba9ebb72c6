import CgroupLimits.Proofs.Refresh
import Mathlib.Data.List.Forall2

/-! Where an answer comes from, whatever the clock does.

    Nothing is assumed here about clock readings: they may go back, and they may stand at the least
    reading, at which a cache that was never filled is not due. What remains true is that a query
    leaves everything but the two caches alone, and puts into a cache only what it has just read
    (`Follows`). So a kept metric is answered with what some state of the files gave or, before the
    first reading, with what the cache held at the start; any other query is answered from the files
    as they are. The files that a cache may have been filled from are those that were seen, which
    over a run are those of its moments. -/

namespace CgroupLimits

/-! ### The parts of an answer -/

/-- The single queries that were answered, with their answers: one, or those of a report. -/
def Answer.parts : Query → Answer → List (Query × Answer)
  | .report, .report r => Subsystem.reportQueries.zip r.answers
  | q, answer => [(q, answer)]

theorem Answer.parts_of_ne {q : Query} (h : q ≠ .report) (answer : Answer) :
    answer.parts q = [(q, answer)] := by
  cases q with
  | report => exact absurd rfl h
  | _ => rfl

namespace Subsystem

/-- A report puts no report. -/
theorem ne_report_of_mem {q : Query} (h : q ∈ reportQueries) : q ≠ .report := by
  rintro rfl
  revert h
  decide

/-! ### What a query leaves alone -/

/-- A subsystem with other caches. -/
def holding (s : Subsystem) (caches : Kept → Cache) : Subsystem :=
  { s with cpuCache := caches .processors, memoryCache := caches .memoryLimit }

@[simp] theorem cache_holding (k : Kept) (s : Subsystem) (caches : Kept → Cache) :
    k.cache (s.holding caches) = caches k := by
  cases k <;> rfl

@[simp] theorem read_holding (k : Kept) (s : Subsystem) (caches : Kept → Cache) :
    k.read (s.holding caches) = k.read s := by
  cases k <;> rfl

@[simp] theorem answer_holding (k : Kept) (s : Subsystem) (caches : Kept → Cache) :
    k.answer (s.holding caches) = k.answer s := by
  cases k <;> rfl

theorem withCache_holding (k : Kept) (c : Cache) (s : Subsystem) (caches : Kept → Cache) :
    k.withCache c (s.holding caches) = s.holding (Function.update caches k c) := by
  cases k <;> rfl

/-- The cache of a kept metric after a query for it. -/
def fetched (k : Kept) (s : Subsystem) (files : Files) (now : Clock.Span) (c : Cache) : Cache :=
  if c.due now.asked then .filled now.filled (k.read s files).value s.grace else c

/-- A query for a kept metric is answered with what its cache holds afterwards. -/
theorem value_answer_query (k : Kept) (s : Subsystem) (files : Files) (now : Clock.Spans) :
    (s.answer files now k.query).value =
      (k.answer s (fetched k s files (k.span now) (k.cache s)).value,
       k.withCache (fetched k s files (k.span now) (k.cache s)) s) := by
  rw [answer_query, fetched]
  by_cases hdue : (k.cache s).due (k.span now).asked = true
  · rw [if_pos hdue, Cache.get_of_due _ _ hdue]
    rfl
  · rw [if_neg hdue, Cache.get_of_not_due _ _ (Bool.eq_false_iff.2 hdue)]
    rfl

/-- Whether files were those of a moment. -/
def Seen (ms : List Moment) (files : Files) : Prop := ∃ m ∈ ms, m.files = files

theorem seen_of_mem {ms : List Moment} : ∀ m ∈ ms, Seen ms m.files := fun m hm => ⟨m, hm, rfl⟩

/-- A subsystem follows another one if it differs in its caches only, each of which is the one that
    was there or holds what was read from files that were seen. -/
def Follows (seen : Files → Prop) (s s' : Subsystem) : Prop :=
  ∃ caches : Kept → Cache, s' = s.holding caches ∧
    ∀ k, caches k = k.cache s ∨
      ∃ files, seen files ∧ (caches k).value = (k.read s files).value

namespace Follows

variable {seen : Files → Prop} {s s' : Subsystem}

theorem refl (s : Subsystem) : Follows seen s s := ⟨fun k => k.cache s, rfl, fun _ => Or.inl rfl⟩

/-- A query for a kept metric alone changes its cache at most, to what was just read. -/
theorem query (h : Follows seen s s') (k : Kept) {files : Files} (hfiles : seen files)
    (now : Clock.Spans) : Follows seen s (s'.answer files now k.query).value.2 := by
  obtain ⟨caches, rfl, horigin⟩ := h
  rw [value_answer_query, withCache_holding]
  refine ⟨_, rfl, fun k' => ?_⟩
  by_cases hk : k' = k
  · subst hk
    rw [Function.update_self, cache_holding, fetched]
    split
    · exact Or.inr ⟨files, hfiles, by rw [read_holding]; rfl⟩
    · exact horigin k'
  · rw [Function.update_of_ne hk]
    exact horigin k'

theorem answer (h : Follows seen s s') {files : Files} (hfiles : seen files) (now : Clock.Spans)
    (q : Query) : Follows seen s (s'.answer files now q).value.2 := by
  rcases Kept.query_cases q with ⟨k, rfl⟩ | rfl | hno
  · exact h.query k hfiles now
  · rw [(value_report s' files now).2.2]
    exact (h.query .processors hfiles now).query .memoryLimit hfiles now
  · rw [value_answer_of_not_asked s' files now hno]
    exact h

/-- A rule that all following subsystems obey holds for all answers of a run. -/
theorem forall₂_run {P : Moment → Answer → Prop} (h : Follows seen s s') {ms : List Moment}
    (hseen : ∀ m ∈ ms, seen m.files)
    (hP : ∀ m ∈ ms, ∀ s', Follows seen s s' → P m (s'.answer m.files m.now m.query).value.1) :
    List.Forall₂ P ms (s'.run ms).value.1 := by
  induction ms generalizing s' with
  | nil => exact .nil
  | cons m ms ih =>
    obtain ⟨hm, hms⟩ := List.forall_mem_cons.1 hseen
    simp only [run, Logged.value_bind, Logged.value_pure]
    refine .cons (hP m List.mem_cons_self s' h) ?_
    exact ih (h.answer hm m.now m.query) hms fun m' hm' => hP m' (List.mem_cons_of_mem m hm')

theorem after (h : Follows seen s s') {ms : List Moment} (hseen : ∀ m ∈ ms, seen m.files) :
    Follows seen s (s'.after ms) := by
  induction ms using List.reverseRecOn with
  | nil => exact h
  | append_singleton ms m ih =>
    rw [after_concat]
    exact (ih fun m' hm' => hseen m' (List.mem_append_left _ hm')).answer (hseen m (by simp))
      m.now m.query

/-- A rule for single queries holds for the parts of every answer. -/
theorem forall_parts {P : Query → Answer → Prop} (h : Follows seen s s') {files : Files}
    (hfiles : seen files) (now : Clock.Spans) (q : Query)
    (hP : ∀ q ≠ .report, ∀ s', Follows seen s s' → P q (s'.answer files now q).value.1) :
    ∀ p ∈ (s'.answer files now q).value.1.parts q, P p.1 p.2 := by
  by_cases hq : q = .report
  · subst hq
    have hanswers : (s'.report files now).value.1.answers =
        (s'.run (reportQueries.map (⟨·, now, files⟩))).value.1 :=
      congrArg (·.value.1) (report_eq_run s' files now)
    have hall : List.Forall₂ (fun (m : Moment) a => P m.query a)
        (reportQueries.map fun q => ⟨q, now, files⟩)
        (s'.report files now).value.1.answers := by
      rw [hanswers]
      refine h.forall₂_run (List.forall_mem_map.2 fun _ _ => hfiles) fun m hm s'' hs'' => ?_
      obtain ⟨q, hq, rfl⟩ := List.mem_map.1 hm
      exact hP q (ne_report_of_mem hq) s'' hs''
    rw [List.forall₂_map_left_iff] at hall
    intro p hp
    exact (List.forall₂_iff_zip.1 hall).2 hp
  · intro p hp
    rw [Answer.parts_of_ne hq, List.mem_singleton] at hp
    subst hp
    exact hP q hq s' h

/-- A rule for single queries holds for the parts of every answer of a run. -/
theorem forall₂_parts {P : Moment → Query → Answer → Prop} (h : Follows seen s s')
    {ms : List Moment} (hseen : ∀ m ∈ ms, seen m.files)
    (hP : ∀ m ∈ ms, ∀ q ≠ .report, ∀ s', Follows seen s s' →
      P m q (s'.answer m.files m.now q).value.1) :
    List.Forall₂ (fun m answer => ∀ p ∈ answer.parts m.query, P m p.1 p.2) ms
      (s'.run ms).value.1 :=
  h.forall₂_run hseen fun m hm _ hs'' =>
    hs''.forall_parts (hseen m hm) m.now m.query (hP m hm)

/-! ### Single queries -/

/-- A query for a kept metric is answered with what was read from files that were seen, unless the
    cache of the start is not due. -/
theorem answer_kept (h : Follows seen s s') (k : Kept) {files : Files} (hfiles : seen files)
    (now : Clock.Spans) :
    ∃ value, (s'.answer files now k.query).value.1 = k.answer s value ∧
      ((value = (k.cache s).value ∧ (k.cache s).due (k.span now).asked = false) ∨
        ∃ files', seen files' ∧ value = (k.read s files').value) := by
  obtain ⟨caches, rfl, horigin⟩ := h
  rw [value_answer_query, cache_holding, answer_holding]
  refine ⟨_, rfl, ?_⟩
  rw [fetched]
  by_cases hdue : (caches k).due (k.span now).asked = true
  · rw [if_pos hdue, read_holding]
    exact Or.inr ⟨files, hfiles, rfl⟩
  · rw [if_neg hdue]
    rcases horigin k with h | h
    · rw [← h]
      exact Or.inl ⟨rfl, Bool.eq_false_iff.2 hdue⟩
    · exact Or.inr h

/-- Any other query is answered as at the start. -/
theorem answer_of_not_asked {q : Query} (h : Follows seen s s') (files : Files) (now : Clock.Spans)
    (hno : ∀ k : Kept, ¬ k.Asked q) :
    (s'.answer files now q).value.1 = (s.answer files now q).value.1 := by
  obtain ⟨caches, rfl, -⟩ := h
  cases q with
  | activeProcessors => exact absurd (Or.inl rfl) (hno .processors)
  | memoryLimit => exact absurd (Or.inl rfl) (hno .memoryLimit)
  | report => exact absurd (Or.inr rfl) (hno .processors)
  | _ => rfl

end Follows

/-- The caches of a new subsystem were never filled. -/
theorem Fresh.cache_eq {settings : Settings} {host : Host} {s : Subsystem}
    (h : Fresh settings host s) (k : Kept) : k.cache s = .empty := by
  cases k with
  | processors => exact h.cpuCache_eq
  | memoryLimit => exact h.memoryCache_eq

end Subsystem

end CgroupLimits
