import CgroupLimits.Proofs.Creation
import CgroupLimits.Query
import Mathlib.Data.List.Basic
import Mathlib.Data.List.Induction

/-! The two kept metrics over whole runs.

    A run is a list of moments, each with its query, its clock readings and the files as they are
    then; between two moments files and clock may have changed in any way, and within a moment the
    clock may have moved. What a run leaves in the two caches is a function of two of its moments
    only, the latest *refresh* of each metric (`after_eq_keeping`), and a refresh is told from clock
    readings alone (`Kept.Refreshes`). From this the main result reads off what every query of a run
    answers and when it reads. -/

namespace CgroupLimits

open Function (update update_self update_of_ne)

/-! ### Kept metrics -/

/-- The metrics that a subsystem keeps between queries. -/
inductive Kept
  | processors
  | memoryLimit
  deriving DecidableEq, Repr

namespace Kept

/-- The cache of a kept metric. -/
def cache : Kept → Subsystem → Cache
  | .processors, s => s.cpuCache
  | .memoryLimit, s => s.memoryCache

/-- Puts a cache in the place of that of a kept metric. -/
def withCache : Kept → Cache → Subsystem → Subsystem
  | .processors, c, s => { s with cpuCache := c }
  | .memoryLimit, c, s => { s with memoryCache := c }

/-- The clock readings of a use of the cache of a kept metric. -/
def span : Kept → Clock.Spans → Clock.Span
  | .processors, now => now.processors
  | .memoryLimit, now => now.memoryLimit

/-- The metric as the control files have it. -/
def read : Kept → Subsystem → Files → Logged Int
  | .processors, s, files => do
    let quota ← Cpu.quota s.version s.cpu files
    let period ← Cpu.period s.version s.cpu files
    let shares ← Cpu.shares s.version s.cpu files
    return (← Processors.active quota period shares s.host.processors : Nat)
  | .memoryLimit, s, files => Memory.limit s.version s.memory files s.host.memory

/-- The query for a kept metric alone. -/
def query : Kept → Query
  | .processors => .activeProcessors
  | .memoryLimit => .memoryLimit

/-- Whether a query asks for a kept metric; a report asks for both. -/
def Asked (k : Kept) (q : Query) : Prop := q = k.query ∨ q = .report

instance (k : Kept) (q : Query) : Decidable (k.Asked q) := inferInstanceAs (Decidable (_ ∨ _))

theorem not_asked_of_ne {k k' : Kept} (h : k' ≠ k) : ¬ k'.Asked k.query := by
  revert h
  cases k <;> cases k' <;> decide

/-- A query asks for one kept metric alone, for both as a report, or for none. -/
theorem query_cases (q : Query) :
    (∃ k : Kept, q = k.query) ∨ q = .report ∨ ∀ k : Kept, ¬ k.Asked q := by
  cases q with
  | activeProcessors => exact Or.inl ⟨.processors, rfl⟩
  | memoryLimit => exact Or.inl ⟨.memoryLimit, rfl⟩
  | report => exact Or.inr (Or.inl rfl)
  | _ =>
    refine Or.inr (Or.inr fun k => ?_)
    cases k <;> decide

/-- The answer to the query for a kept metric alone. -/
def answer : Kept → Subsystem → Int → Answer
  | .processors, s, value => .count (s.asCount value)
  | .memoryLimit, _, value => .metric value

/-- What an answer tells of a kept metric. -/
def told : Kept → Answer → Option Int
  | .processors, .count n => some n
  | .processors, .report r => some r.activeProcessors
  | .memoryLimit, .metric n => some n
  | .memoryLimit, .report r => some r.memoryLimit
  | _, _ => none

end Kept

/-- The answers of a report, in order. -/
def Report.answers (r : Report) : List Answer :=
  [.count r.activeProcessors, .metric r.cpuQuota, .metric r.cpuPeriod, .metric r.cpuShares,
   .set r.cpusetProcessors, .set r.cpusetMemoryNodes, .metric r.memoryLimit, .metric r.memoryUsage,
   .metric r.swapLimit, .metric r.swapUsage, .metric r.softLimit, .metric r.peakUsage,
   .metric r.residentUsage, .metric r.cacheUsage, .metric r.tasksMost, .metric r.tasksCurrent]

/-! ### Refreshes -/

namespace Clock

/-- Whether a clock is past its least reading all the while that a cache is used. -/
def Span.Started (now : Span) : Prop := Metric.least < now.asked ∧ Metric.least < now.filled

/-- Whether a clock is past its least reading all the while that a query is answered. -/
def Spans.Started (now : Spans) : Prop := now.processors.Started ∧ now.memoryLimit.Started

instance (now : Span) : Decidable now.Started := inferInstanceAs (Decidable (_ ∧ _))

instance (now : Spans) : Decidable now.Started := inferInstanceAs (Decidable (_ ∧ _))

theorem Spans.Started.span {now : Spans} (h : now.Started) (k : Kept) : (k.span now).Started := by
  cases k with
  | processors => exact h.1
  | memoryLimit => exact h.2

end Clock

namespace Kept

/-- Whether a query for a kept metric is a refresh: the first one is, and a later one that is asked
    when the clock is past the filling at the latest refresh by more than the grace. -/
def Refreshes (k : Kept) (grace : Nat) : Option Moment → Clock.Spans → Prop
  | none, _ => True
  | some r, now =>
    min Metric.greatest ((k.span r.now).filled + min Metric.greatest grace) < (k.span now).asked

instance (k : Kept) (grace : Nat) (last : Option Moment) (now : Clock.Spans) :
    Decidable (k.Refreshes grace last now) :=
  match last with
  | none => .isTrue trivial
  | some _ => inferInstanceAs (Decidable (_ < _))

/-- The latest refresh after a moment, if `last` was the latest before it. -/
def next (k : Kept) (grace : Nat) (last : Option Moment) (m : Moment) : Option Moment :=
  if k.Asked m.query ∧ k.Refreshes grace last m.now then some m else last

/-- The latest refresh of a run. -/
def latest (k : Kept) (grace : Nat) (ms : List Moment) : Option Moment :=
  ms.foldl (k.next grace) none

/-- What the cache of a kept metric holds when `last` was the latest refresh. -/
def held (k : Kept) (s : Subsystem) : Option Moment → Cache
  | none => .empty
  | some r => ⟨(k.read s r.files).value,
      min Metric.greatest ((k.span r.now).filled + min Metric.greatest s.grace)⟩

theorem latest_concat (k : Kept) (grace : Nat) (ms : List Moment) (m : Moment) :
    k.latest grace (ms ++ [m]) = k.next grace (k.latest grace ms) m := by
  rw [latest, latest, List.foldl_concat]

/-- After a query for the metric there is a latest refresh. -/
theorem next_isSome (k : Kept) (grace : Nat) (last : Option Moment) {m : Moment}
    (h : k.Asked m.query) : ∃ r, k.next grace last m = some r := by
  unfold next
  cases last with
  | none => exact ⟨m, if_pos ⟨h, trivial⟩⟩
  | some r =>
    by_cases hr : k.Refreshes grace (some r) m.now
    · exact ⟨m, if_pos ⟨h, hr⟩⟩
    · exact ⟨r, if_neg fun hboth => hr hboth.2⟩

theorem next_of_not_asked {k : Kept} {m : Moment} (grace : Nat) (last : Option Moment)
    (h : ¬ k.Asked m.query) : k.next grace last m = last :=
  if_neg fun hboth => h hboth.1

end Kept

/-- The deadline of a cache that is filled, for a clock of 64 bits. -/
theorem Clock.deadline_eq {now : Int} (grace : Nat) (h : Metric.least < now) :
    Clock.deadline now grace = min Metric.greatest (now + min Metric.greatest grace) := by
  simp only [Clock.deadline, Metric.add, Metric.ofAmount, Metric.least, Metric.greatest,
    Numeral.max63] at *
  omega

namespace Kept

theorem due_held_iff (k : Kept) (s : Subsystem) (last : Option Moment) {now : Clock.Spans}
    (h : now.Started) :
    (k.held s last).due (k.span now).asked = true ↔ k.Refreshes s.grace last now := by
  cases last with
  | none => exact iff_of_true ((Cache.due_empty _).2 (h.span k).1) trivial
  | some r => exact decide_eq_true_iff

theorem due_held_eq_false {k : Kept} {s : Subsystem} {last : Option Moment} {now : Clock.Spans}
    (h : now.Started) (hr : ¬ k.Refreshes s.grace last now) :
    (k.held s last).due (k.span now).asked = false := by
  rw [← due_held_iff k s last h] at hr
  exact Bool.eq_false_iff.2 hr

theorem filled_eq_held (k : Kept) (s : Subsystem) {m : Moment} (h : m.now.Started) :
    Cache.filled (k.span m.now).filled (k.read s m.files).value s.grace = k.held s (some m) := by
  rw [Cache.filled, Clock.deadline_eq s.grace (h.span k).2, held]

/-- A query for the metric is answered from the latest refresh, itself included. -/
theorem value_get_held {k : Kept} {m : Moment} (s : Subsystem) (last : Option Moment)
    (hasked : k.Asked m.query) (h : m.now.Started) :
    ((k.held s last).get (k.span m.now) s.grace (k.read s m.files)).value =
      ((k.held s (k.next s.grace last m)).value, k.held s (k.next s.grace last m)) := by
  unfold next
  by_cases hr : k.Refreshes s.grace last m.now
  · rw [Cache.get_of_due _ _ ((due_held_iff k s last h).2 hr), if_pos ⟨hasked, hr⟩]
    rw [← filled_eq_held k s h]
    rfl
  · rw [Cache.get_of_not_due _ _ (due_held_eq_false h hr), if_neg fun hboth => hr hboth.2]
    rfl

end Kept

namespace Subsystem

/-! ### One step -/

/-- The subsystem after a run whose latest refreshes were these. -/
def keeping (s : Subsystem) (last : Kept → Option Moment) : Subsystem :=
  { s with
    cpuCache := Kept.processors.held s (last .processors)
    memoryCache := Kept.memoryLimit.held s (last .memoryLimit) }

theorem cache_keeping (k : Kept) (s : Subsystem) (last : Kept → Option Moment) :
    k.cache (s.keeping last) = k.held s (last k) := by
  cases k <;> rfl

theorem withCache_keeping (k : Kept) (s : Subsystem) (last : Kept → Option Moment)
    (l : Option Moment) :
    k.withCache (k.held s l) (s.keeping last) = s.keeping (update last k l) := by
  cases k <;> rfl

/-- A query for a kept metric alone asks its cache, with the control files to fall back to. -/
theorem answer_query (k : Kept) (s : Subsystem) (files : Files) (now : Clock.Spans) :
    s.answer files now k.query = do
      let (value, cache) ← (k.cache s).get (k.span now) s.grace (k.read s files)
      return (k.answer s value, k.withCache cache s) := by
  cases k with
  | processors =>
    simp only [Kept.query, answer, activeProcessors, bind_assoc, pure_bind]
    rfl
  | memoryLimit =>
    simp only [Kept.query, answer, memoryLimit, bind_assoc, pure_bind]
    rfl

theorem answer_query_keeping (k : Kept) (s : Subsystem) (last : Kept → Option Moment)
    (files : Files) (now : Clock.Spans) :
    (s.keeping last).answer files now k.query = do
      let (value, cache) ← (k.held s (last k)).get (k.span now) s.grace (k.read s files)
      return (k.answer s value, k.withCache cache (s.keeping last)) := by
  -- Neither reading nor answering looks at the caches.
  have hread : k.read (s.keeping last) = k.read s := by cases k <;> rfl
  have hanswer : k.answer (s.keeping last) = k.answer s := by cases k <;> rfl
  rw [answer_query, cache_keeping, hread, hanswer]
  rfl

/-- What a query for a kept metric gives, whether put by itself or in a report. -/
theorem value_query_keeping {k : Kept} {m : Moment} (s : Subsystem) (last : Kept → Option Moment)
    (hasked : k.Asked m.query) (h : m.now.Started) :
    ((s.keeping last).answer m.files m.now k.query).value =
      (k.answer s (k.held s (k.next s.grace (last k) m)).value,
       s.keeping (update last k (k.next s.grace (last k) m))) := by
  rw [answer_query_keeping, Logged.value_bind, Kept.value_get_held s (last k) hasked h]
  simp only [Logged.value_pure, withCache_keeping]

/-- A query for a kept metric alone reads the control files if it is a refresh and else not. -/
theorem answer_query_of_refreshes (k : Kept) (s : Subsystem) (last : Kept → Option Moment)
    {m : Moment} (h : m.now.Started) :
    (s.keeping last).answer m.files m.now k.query =
      if k.Refreshes s.grace (last k) m.now then do
        let value ← k.read s m.files
        return (k.answer s value, k.withCache (k.held s (some m)) (s.keeping last))
      else pure (k.answer s (k.held s (last k)).value, s.keeping last) := by
  rw [answer_query_keeping]
  by_cases hr : k.Refreshes s.grace (last k) m.now
  · rw [if_pos hr, Cache.get_of_due _ _ ((Kept.due_held_iff k s (last k) h).2 hr),
      ← Kept.filled_eq_held k s h, bind_assoc]
    simp only [pure_bind]
    rfl
  · rw [if_neg hr, Cache.get_of_not_due _ _ (Kept.due_held_eq_false h hr), pure_bind]
    simp only [withCache_keeping, Function.update_eq_self]

/-- A report asks for the processor count first and for the memory limit then; all else that it
    asks for changes nothing. -/
theorem value_report (s : Subsystem) (files : Files) (now : Clock.Spans) :
    Kept.processors.told (s.answer files now .report).value.1 =
      Kept.processors.told (s.answer files now Kept.processors.query).value.1 ∧
    Kept.memoryLimit.told (s.answer files now .report).value.1 =
      Kept.memoryLimit.told ((s.answer files now Kept.processors.query).value.2.answer files now
        Kept.memoryLimit.query).value.1 ∧
    (s.answer files now .report).value.2 =
      ((s.answer files now Kept.processors.query).value.2.answer files now
        Kept.memoryLimit.query).value.2 := ⟨rfl, rfl, rfl⟩

theorem value_answer_of_not_asked {q : Query} (s : Subsystem) (files : Files) (now : Clock.Spans)
    (h : ∀ k : Kept, ¬ k.Asked q) : (s.answer files now q).value.2 = s := by
  cases q with
  | activeProcessors => exact absurd (Or.inl rfl) (h .processors)
  | memoryLimit => exact absurd (Or.inl rfl) (h .memoryLimit)
  | report => exact absurd (Or.inr rfl) (h .processors)
  | _ => rfl

/-- A query leaves what the latest refreshes leave, itself included. -/
theorem answer_keeping (s : Subsystem) (last : Kept → Option Moment) {m : Moment}
    (h : m.now.Started) :
    ((s.keeping last).answer m.files m.now m.query).value.2 =
      s.keeping fun k => k.next s.grace (last k) m := by
  rcases Kept.query_cases m.query with ⟨k, hquery⟩ | hquery | hno
  · have hlast : update last k (k.next s.grace (last k) m) =
        fun k => k.next s.grace (last k) m := by
      funext k'
      by_cases hk : k' = k
      · rw [hk, update_self]
      · rw [update_of_ne hk, Kept.next_of_not_asked _ _ (hquery ▸ Kept.not_asked_of_ne hk)]
    rw [hquery, value_query_keeping s last (Or.inl hquery) h, hlast]
  · -- The memory limit is asked of what the processor count leaves, with its own cache untouched.
    have hafter := (value_report (s.keeping last) m.files m.now).2.2
    rw [value_query_keeping s last (Or.inr hquery) h, value_query_keeping s _ (Or.inr hquery) h]
      at hafter
    rw [hquery, hafter]
    refine congrArg s.keeping (funext fun k => ?_)
    cases k <;> rfl
  · have hlast : (fun k => k.next s.grace (last k) m) = last :=
      funext fun k => Kept.next_of_not_asked _ _ (hno k)
    rw [hlast, value_answer_of_not_asked _ _ _ hno]

/-! ### Runs -/

/-- The subsystem that a run leaves. -/
def after (s : Subsystem) (ms : List Moment) : Subsystem := (s.run ms).value.2

theorem after_concat (s : Subsystem) (ms : List Moment) (m : Moment) :
    s.after (ms ++ [m]) = ((s.after ms).answer m.files m.now m.query).value.2 := by
  simp only [after, run_append, run, Logged.value_bind, Logged.value_pure]

/-- What a query is answered in the midst of a run. -/
theorem answer_of_run (s : Subsystem) (before later : List Moment) (m : Moment) :
    (s.run (before ++ m :: later)).value.1[before.length]? =
      some ((s.after before).answer m.files m.now m.query).value.1 := by
  have hlength (s : Subsystem) (ms : List Moment) : (s.run ms).value.1.length = ms.length := by
    induction ms generalizing s with
    | nil => rfl
    | cons m ms ih => simp only [run, Logged.value_bind, Logged.value_pure, List.length_cons, ih]
  simp only [run_append, run, after, Logged.value_bind, Logged.value_pure]
  rw [List.getElem?_append_right (Nat.le_of_eq (hlength s before)), hlength, Nat.sub_self]
  rfl

theorem Fresh.eq_keeping {settings : Settings} {host : Host} {s : Subsystem}
    (h : Fresh settings host s) : s = s.keeping fun _ => none := by
  obtain ⟨-, -, hcpu, hmemory⟩ := h
  cases s
  cases hcpu
  cases hmemory
  rfl

/-- A run leaves what its latest refreshes leave. -/
theorem after_eq_keeping {settings : Settings} {host : Host} {s : Subsystem}
    (hfresh : Fresh settings host s) (ms : List Moment) (hclock : ∀ m ∈ ms, m.now.Started) :
    s.after ms = s.keeping fun k => k.latest s.grace ms := by
  induction ms using List.reverseRecOn with
  | nil => exact hfresh.eq_keeping
  | append_singleton ms m ih =>
    have hbefore := ih fun m' hm' => hclock m' (List.mem_append_left _ hm')
    have hnow : m.now.Started := hclock m (by simp)
    rw [after_concat, hbefore, answer_keeping s _ hnow]
    simp only [Kept.latest_concat]

/-- The queries that a report puts, in order. -/
def reportQueries : List Query :=
  [.activeProcessors, .cpuQuota, .cpuPeriod, .cpuShares, .cpusetProcessors, .cpusetMemoryNodes,
   .memoryLimit, .memoryUsage, .swapLimit, .swapUsage, .softLimit, .peakUsage, .residentUsage,
   .cacheUsage, .tasksMost, .tasksCurrent]

/-- A report is a run of its own, of one query after the other. -/
theorem report_eq_run (s : Subsystem) (files : Files) (now : Clock.Spans) :
    (fun p => (p.1.answers, p.2)) <$> s.report files now =
      s.run (reportQueries.map (⟨·, now, files⟩)) := by
  simp only [report, reportQueries, List.map_cons, List.map_nil, run, answer, map_eq_pure_bind,
    bind_assoc, pure_bind, Report.answers]

theorem asCount_of_le (s : Subsystem) {n : Nat} (h : n ≤ Numeral.max32) : s.asCount n = n := by
  have hrange : (0 : Int) ≤ n ∧ (n : Int) ≤ Numeral.max32 := by omega
  rw [asCount, if_pos hrange, Int.toNat_natCast]

/-- The processor count of the control files is one of 32 bits if that of the host is. -/
theorem asCount_read (s : Subsystem) (files : Files)
    (hhost : s.host.processors ≤ Numeral.max32) :
    (s.asCount (Kept.processors.read s files).value : Int) =
      (Kept.processors.read s files).value := by
  obtain ⟨n, hn, hle⟩ : ∃ n : Nat, (Kept.processors.read s files).value = n ∧
      n ≤ max 1 s.host.processors := ⟨_, rfl, Processors.active_le _ _ _ _⟩
  have hone : 1 ≤ Numeral.max32 := by decide
  rw [hn, asCount_of_le s (by omega)]

/-- The answer to the query for a kept metric tells of the value that was read. -/
theorem told_answer (k : Kept) (s : Subsystem) (files : Files)
    (hhost : s.host.processors ≤ Numeral.max32) :
    k.told (k.answer s (k.read s files).value) = some (k.read s files).value := by
  cases k with
  | processors => exact congrArg some (asCount_read s files hhost)
  | memoryLimit => rfl

/-- An answer tells of the files as they were at the latest refresh. -/
theorem told_answer_keeping {k : Kept} {m r : Moment} (s : Subsystem)
    (last : Kept → Option Moment) (hhost : s.host.processors ≤ Numeral.max32)
    (h : m.now.Started) (hasked : k.Asked m.query)
    (hr : k.next s.grace (last k) m = some r) :
    k.told ((s.keeping last).answer m.files m.now m.query).value.1 =
      some (k.read s r.files).value := by
  have hread : (k.held s (k.next s.grace (last k) m)).value = (k.read s r.files).value := by
    rw [hr, Kept.held]
  rcases hasked with hquery | hquery
  · rw [hquery, value_query_keeping s last (Or.inl hquery) h, hread, told_answer k s _ hhost]
  · obtain ⟨hprocessors, hlimit, -⟩ := value_report (s.keeping last) m.files m.now
    have htold : k.told ((s.keeping last).answer m.files m.now .report).value.1 =
        k.told (k.answer s (k.held s (k.next s.grace (last k) m)).value) := by
      cases k with
      | processors => rw [hprocessors, value_query_keeping s last (Or.inr hquery) h]
      | memoryLimit =>
        rw [hlimit, value_query_keeping s last (Or.inr hquery) h,
          value_query_keeping s _ (Or.inr hquery) h, update_of_ne (by decide)]
    rw [hquery, htold, hread, told_answer k s _ hhost]

/-! ### The refreshes of a created subsystem -/

/-- What the kept metrics are over any run of a subsystem that was just created, for a host whose
    processors are a count of 32 bits and a clock that stays above its least reading, as any clock
    does that starts above it and never goes back. The clock may move while a query is answered.

    Whatever happens to the files, the cache of a kept metric holds what its latest refresh read,
    until the deadline that this refresh set. An answer about the metric, by itself or in a report,
    tells of the files as they were at the latest refresh, itself included. A query for the metric
    reads the control files exactly if it is a refresh; else it reads nothing and changes nothing,
    and a report is a run of such queries. No query but a refresh changes the cache. -/
theorem run_refreshes {files : Files} {settings : Settings} {host : Host} {s : Subsystem}
    (hcreated : (create files settings host).value = .ok s)
    (hhost : host.processors ≤ Numeral.max32) (before later : List Moment) (m : Moment)
    (hclock : ∀ m' ∈ before ++ [m], m'.now.Started) (k : Kept) :
    (s.host = host ∧ s.grace = settings.cacheTimeout) ∧
    k.cache (s.after before) = k.held s (k.latest s.grace before) ∧
    (k.Asked m.query → ∃ answer r,
      (s.run (before ++ m :: later)).value.1[before.length]? = some answer ∧
      k.latest s.grace (before ++ [m]) = some r ∧
      k.told answer = some (k.read s r.files).value) ∧
    (m.query = k.query →
      (s.after before).answer m.files m.now m.query =
        if k.Refreshes s.grace (k.latest s.grace before) m.now then do
          let value ← k.read s m.files
          return (k.answer s value, k.withCache (k.held s (some m)) (s.after before))
        else pure (k.answer s (k.cache (s.after before)).value, s.after before)) ∧
    (fun p => (p.1.answers, p.2)) <$> (s.after before).report m.files m.now =
      (s.after before).run (reportQueries.map (⟨·, m.now, m.files⟩)) ∧
    (¬ (k.Asked m.query ∧ k.Refreshes s.grace (k.latest s.grace before) m.now) →
      k.cache (s.after (before ++ [m])) = k.cache (s.after before)) := by
  have hfresh := fresh_of_create hcreated
  have hnow : m.now.Started := hclock m (by simp)
  have hbefore : s.after before = s.keeping fun k => k.latest s.grace before :=
    after_eq_keeping hfresh before fun m' hm' => hclock m' (List.mem_append_left _ hm')
  have hcache : k.cache (s.after before) = k.held s (k.latest s.grace before) := by
    rw [hbefore, cache_keeping]
  refine ⟨⟨hfresh.host_eq, hfresh.grace_eq⟩, hcache, ?_, ?_, report_eq_run _ _ _, ?_⟩
  · intro hasked
    obtain ⟨r, hr⟩ := Kept.next_isSome k s.grace (k.latest s.grace before) hasked
    refine ⟨_, r, answer_of_run s before later m, ?_, ?_⟩
    · rw [Kept.latest_concat, hr]
    · rw [hbefore]
      exact told_answer_keeping s _ (hfresh.host_eq ▸ hhost) hnow hasked hr
  · intro hquery
    rw [hcache, hbefore, hquery]
    exact answer_query_of_refreshes k s _ hnow
  · intro hno
    rw [after_eq_keeping hfresh _ hclock, cache_keeping, Kept.latest_concat, Kept.next, if_neg hno,
      hcache]

/-- A host on which all controllers share one directory, with one limit on memory in it. -/
def oneLimit (limit : String) : Files
  | "proc/cgroups" =>
    .file (Text.toBytes "cpuset 0 1 1\ncpu 0 1 1\ncpuacct 0 1 1\nmemory 0 1 1\n")
  | "proc/self/cgroup" => .file (Text.toBytes "0::/\n")
  | "proc/self/mountinfo" => .file (Text.toBytes "1 0 0:1 / cg rw - cgroup2 none rw\n")
  | "cg/memory.max" => .file (Text.toBytes limit)
  | _ => .failed .missing

/-- The subsystem of such a host. -/
def ofOneLimit : Subsystem :=
  let shared : ControlDirectory := ⟨⟨"/", "cg", "/"⟩, 1024⟩
  { version := .v2, host := ⟨4, 8589934592, 0⟩, cpu := shared, memory := shared, cpuset := shared,
    pids := none, grace := 20000000, cpuCache := .empty, memoryCache := .empty }

/-- A limit that changes within the grace of a refresh is not seen at the deadline, only past it.
    The grace begins when the cache is filled, seven nanoseconds after it was asked. -/
theorem run_refreshes_oneLimit :
    let first : Moment := ⟨.memoryLimit, ⟨0, ⟨0, 7⟩⟩, oneLimit "500"⟩
    (create (oneLimit "500") ⟨"proc", 20000000, 1024⟩ ⟨4, 8589934592, 0⟩).value = .ok ofOneLimit ∧
    (∃ answer, (ofOneLimit.run [first, ⟨.report, 20000007, oneLimit "700"⟩]).value.1[1]? =
        some answer ∧
      Kept.memoryLimit.told answer = some 500) ∧
    ∃ answer, (ofOneLimit.run [first, ⟨.report, 20000008, oneLimit "700"⟩]).value.1[1]? =
        some answer ∧
      Kept.memoryLimit.told answer = some 700 := by
  intro first
  have hcreated :
      (create (oneLimit "500") ⟨"proc", 20000000, 1024⟩ ⟨4, 8589934592, 0⟩).value =
        .ok ofOneLimit := by decide
  have htold (now : Clock.Spans) (hnow : now.Started) := (run_refreshes hcreated (by decide)
    [first] [] ⟨.report, now, oneLimit "700"⟩
    (List.forall_mem_cons.2 ⟨by decide, List.forall_mem_singleton.2 hnow⟩) .memoryLimit).2.2.1
    (show Kept.memoryLimit.Asked .report by decide)
  simp only [List.singleton_append, List.length_singleton] at htold
  refine ⟨hcreated, ?_, ?_⟩
  · obtain ⟨answer, r, hanswer, hr, hlimit⟩ := htold 20000007 (by decide)
    obtain rfl : first = r := Option.some.inj hr
    exact ⟨answer, hanswer, hlimit.trans (by decide)⟩
  · obtain ⟨answer, r, hanswer, hr, hlimit⟩ := htold 20000008 (by decide)
    obtain rfl : ⟨.report, 20000008, oneLimit "700"⟩ = r := Option.some.inj hr
    exact ⟨answer, hanswer, hlimit.trans (by decide)⟩

end Subsystem

end CgroupLimits
