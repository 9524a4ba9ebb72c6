import CgroupLimits.Proofs.Provenance

/-! What one control directory answers to a single query.

    Each query has one control directory at most (`Query.source`), and what that directory holds is
    the answer (`Query.answerIn`): a query that is read anew each time is answered with the files as
    they are, a kept one with files that were seen. A directory may be missing, because its location
    leads nowhere. Then every read of it fails, and its queries have the answer that stands for none
    (`Query.fallback`), whatever the files hold. -/

namespace CgroupLimits

/-! ### Controllers without a directory -/

namespace ControlDirectory

variable {d : ControlDirectory} (h : d.location.directory? = none) (files : Files)
  (name what : String)

include h

theorem path_of_none : d.path name = .error .noDirectory := by
  rw [path, h]

theorem readLine_of_none {α : Type} (reader : String → String → Except ControlError α) :
    d.readLine files name reader = .error .noDirectory := by
  rw [readLine, path_of_none h]
  rfl

theorem readKey_of_none (key : String) :
    (d.readKey files name key).value = .error .noDirectory := by
  rw [readKey, path_of_none h]
  rfl

theorem value_number_of_none : (d.number files name what).value = none := by
  rw [number, value_observe, readNumber, readLine_of_none h]
  rfl

theorem value_limit_of_none (bound : Nat) : (d.limit files name what bound).value = none := by
  rw [limit, value_observe, readLimit, readLine_of_none h]
  rfl

theorem value_key_of_none (k : String) : (d.key files name k what).value = none := by
  rw [key, Logged.value_bind, value_observe, readKey_of_none h]
  rfl

theorem value_word_of_none : (d.word files name what).value = none := by
  rw [word, value_observe, readWord, readLine_of_none h]
  rfl

theorem value_numberMetric_of_none : (d.numberMetric files name what).value = Metric.unknown := by
  rw [numberMetric, Logged.value_map, value_number_of_none h]
  rfl

theorem value_limitMetric_of_none (bound : Nat) :
    (d.limitMetric files name what bound).value = Metric.unknown := by
  rw [limitMetric, Logged.value_map, value_limit_of_none h]
  rfl

theorem value_keyMetric_of_none (k : String) :
    (d.keyMetric files name k what).value = Metric.unknown := by
  rw [keyMetric, Logged.value_map, value_key_of_none h]
  rfl

end ControlDirectory

section Lost

variable {d : ControlDirectory} (h : d.location.directory? = none) (version : Version)
  (files : Files)

include h

namespace Cpu

theorem value_quota_of_none : (quota version d files).value = Metric.unknown := by
  cases version with
  | v1 =>
    simp only [quota, Logged.value_bind, Logged.value_pure, ControlDirectory.value_observe,
      ControlDirectory.readSigned, ControlDirectory.readLine_of_none h]
    rfl
  | v2 =>
    simp only [quota, Logged.value_bind, Logged.value_pure, ControlDirectory.value_observe,
      ControlDirectory.readLimitOfTwo, ControlDirectory.readLine_of_none h]
    rfl

theorem value_period_of_none : (period version d files).value = Metric.unknown := by
  cases version with
  | v1 => exact ControlDirectory.value_numberMetric_of_none h files _ _
  | v2 =>
    simp only [period, Logged.value_bind, Logged.value_pure, ControlDirectory.value_observe,
      ControlDirectory.readNumberOfTwo, ControlDirectory.readLine_of_none h]
    rfl

theorem value_shares_of_none : (shares version d files).value = Metric.unknown := by
  cases version with
  | v1 =>
    simp only [shares, Logged.value_bind, Logged.value_pure,
      ControlDirectory.value_numberMetric_of_none h]
    rfl
  | v2 =>
    simp only [shares, Logged.value_bind, ControlDirectory.value_number_of_none h]
    rfl

end Cpu

theorem Cpuset.value_set_of_none (inForce : Bool) (name : String) :
    (set d files inForce name).value = none := by
  simp only [set, Logged.value_bind, ControlDirectory.value_word_of_none h]
  cases inForce with
  | true => exact ControlDirectory.value_word_of_none h files _ _
  | false => rfl

namespace Memory

theorem value_limit_of_none (bound : Nat) :
    (limit version d files bound).value = Metric.unknown := by
  cases version with
  | v1 =>
    simp only [limit, Legacy.limit, Legacy.inherited, Logged.value_map, Logged.value_bind,
      ControlDirectory.value_limit_of_none h]
    rfl
  | v2 => exact ControlDirectory.value_limitMetric_of_none h files _ _ bound

theorem value_usage_of_none : (usage version d files).value = Metric.unknown := by
  cases version <;> exact ControlDirectory.value_numberMetric_of_none h files _ _

theorem value_softLimit_of_none (bound : Nat) :
    (softLimit version d files bound).value = Metric.unknown := by
  cases version <;> exact ControlDirectory.value_limitMetric_of_none h files _ _ bound

theorem value_peakUsage_of_none : (peakUsage version d files).value = Metric.unknown := by
  cases version <;> exact ControlDirectory.value_numberMetric_of_none h files _ _

theorem value_residentUsage_of_none : (residentUsage version d files).value = Metric.unknown := by
  cases version <;> exact ControlDirectory.value_keyMetric_of_none h files _ _ _

theorem value_cacheUsage_of_none : (cacheUsage version d files).value = Metric.unknown := by
  cases version <;> exact ControlDirectory.value_keyMetric_of_none h files _ _ _

/-- No limit on swap is read, so that on memory stands for both: it is unknown as well. -/
theorem value_swapLimit_of_none (hostMemory hostSwap : Nat) :
    (swapLimit version d files hostMemory hostSwap).value = Metric.unknown := by
  have hlimit := value_limit_of_none h version files hostMemory
  cases version with
  | v1 =>
    simp only [swapLimit, Legacy.swapLimit, Legacy.inherited, Logged.value_bind,
      ControlDirectory.value_limit_of_none h]
    exact hlimit
  | v2 =>
    simp only [swapLimit, Unified.swapLimit, Logged.value_bind,
      ControlDirectory.value_limit_of_none h]
    exact hlimit

theorem value_swapUsage_of_none (hostMemory hostSwap : Nat) :
    (swapUsage version d files hostMemory hostSwap).value = Metric.unknown := by
  have husage := value_usage_of_none h version files
  cases version with
  | v1 =>
    have hswap : (Legacy.swapLimit d files hostMemory hostSwap).value = Metric.unknown :=
      value_swapLimit_of_none h .v1 files hostMemory hostSwap
    simp only [swapUsage, Legacy.swapUsage, Logged.value_bind, hswap]
    rw [if_neg fun hboth => absurd hboth.1 (by decide)]
    exact husage
  | v2 =>
    have husage : (Unified.usage d files).value = Metric.unknown := husage
    simp only [swapUsage, Unified.swapUsage, Logged.value_bind, husage, if_true]
    rfl

end Memory

end Lost

/-- Without quota, period and shares, all processors of the host may be used. -/
theorem Processors.value_active_unknown (host : Nat) :
    (active Metric.unknown Metric.unknown Metric.unknown host).value = max 1 host := rfl

/-! ### Single queries -/

/-- The processor count that the control files in a directory give; one that is no count of 32 bits
    gives that of the host. -/
def ControlDirectory.processors (d : ControlDirectory) (version : Version) (host : Host)
    (files : Files) : Nat :=
  let count := (Processors.active (Cpu.quota version d files).value
    (Cpu.period version d files).value (Cpu.shares version d files).value host.processors).value
  if count ≤ Numeral.max32 then count else host.processors

namespace Query

/-- The control directory that answers a single query. Without a pids controller there is none for
    tasks, and a report is answered by the queries that it puts. -/
def source (s : Subsystem) : Query → Option ControlDirectory
  | .activeProcessors | .cpuQuota | .cpuPeriod | .cpuShares => some s.cpu
  | .cpusetProcessors | .cpusetMemoryNodes => some s.cpuset
  | .tasksMost | .tasksCurrent => s.pids
  | .report => none
  | _ => some s.memory

/-- What a single query is answered without control files: all processors of the host, no set, or
    an unknown metric. -/
def fallback (host : Host) : Query → Answer
  | .activeProcessors => .count (max 1 host.processors)
  | .cpusetProcessors | .cpusetMemoryNodes => .set none
  | _ => .metric Metric.unknown

/-- What a single query is answered from the control files in a directory. -/
def answerIn (d : ControlDirectory) (version : Version) (host : Host) (files : Files) :
    Query → Answer
  | .activeProcessors => .count (d.processors version host files)
  | .cpuQuota => .metric (Cpu.quota version d files).value
  | .cpuPeriod => .metric (Cpu.period version d files).value
  | .cpuShares => .metric (Cpu.shares version d files).value
  | .cpusetProcessors => .set (Cpuset.processors d files (version = .v2)).value
  | .cpusetMemoryNodes => .set (Cpuset.memoryNodes d files (version = .v2)).value
  | .memoryLimit => .metric (Memory.limit version d files host.memory).value
  | .memoryUsage => .metric (Memory.usage version d files).value
  | .swapLimit => .metric (Memory.swapLimit version d files host.memory host.swap).value
  | .swapUsage => .metric (Memory.swapUsage version d files host.memory host.swap).value
  | .softLimit => .metric (Memory.softLimit version d files host.memory).value
  | .peakUsage => .metric (Memory.peakUsage version d files).value
  | .residentUsage => .metric (Memory.residentUsage version d files).value
  | .cacheUsage => .metric (Memory.cacheUsage version d files).value
  | .tasksMost => .metric (Tasks.most d files).value
  | .tasksCurrent => .metric (Tasks.current d files).value
  | .report => .metric Metric.unknown

/-- A directory that is not there answers nothing. -/
theorem answerIn_of_none {d : ControlDirectory} (h : d.location.directory? = none)
    (version : Version) (host : Host) (files : Files) (q : Query) :
    q.answerIn d version host files = q.fallback host := by
  cases q with
  | activeProcessors =>
    refine congrArg Answer.count ?_
    simp only [ControlDirectory.processors, Cpu.value_quota_of_none h, Cpu.value_period_of_none h,
      Cpu.value_shares_of_none h, Processors.value_active_unknown, Numeral.max32]
    split <;> omega
  | cpuQuota => exact congrArg Answer.metric (Cpu.value_quota_of_none h _ files)
  | cpuPeriod => exact congrArg Answer.metric (Cpu.value_period_of_none h _ files)
  | cpuShares => exact congrArg Answer.metric (Cpu.value_shares_of_none h _ files)
  | cpusetProcessors => exact congrArg Answer.set (Cpuset.value_set_of_none h files _ _)
  | cpusetMemoryNodes => exact congrArg Answer.set (Cpuset.value_set_of_none h files _ _)
  | memoryLimit => exact congrArg Answer.metric (Memory.value_limit_of_none h _ files _)
  | memoryUsage => exact congrArg Answer.metric (Memory.value_usage_of_none h _ files)
  | swapLimit => exact congrArg Answer.metric (Memory.value_swapLimit_of_none h _ files _ _)
  | swapUsage => exact congrArg Answer.metric (Memory.value_swapUsage_of_none h _ files _ _)
  | softLimit => exact congrArg Answer.metric (Memory.value_softLimit_of_none h _ files _)
  | peakUsage => exact congrArg Answer.metric (Memory.value_peakUsage_of_none h _ files)
  | residentUsage => exact congrArg Answer.metric (Memory.value_residentUsage_of_none h _ files)
  | cacheUsage => exact congrArg Answer.metric (Memory.value_cacheUsage_of_none h _ files)
  | tasksMost =>
    exact congrArg Answer.metric (ControlDirectory.value_limitMetric_of_none h files _ _ _)
  | tasksCurrent =>
    exact congrArg Answer.metric (ControlDirectory.value_numberMetric_of_none h files _ _)
  | report => rfl

end Query

namespace Subsystem

theorem asCount_natCast (s : Subsystem) (n : Nat) :
    s.asCount n = if n ≤ Numeral.max32 then n else s.host.processors := by
  by_cases h : n ≤ Numeral.max32
  · rw [asCount_of_le s h, if_pos h]
  · rw [asCount, if_neg h, if_neg (by omega)]

/-- A kept metric is answered from the directory that it is read from. -/
theorem answer_read {k : Kept} {s : Subsystem} {d : ControlDirectory} (files : Files)
    (hsource : k.query.source s = some d) :
    k.answer s (k.read s files).value = k.query.answerIn d s.version s.host files := by
  cases k with
  | processors =>
    obtain rfl : s.cpu = d := Option.some.inj hsource
    exact congrArg Answer.count (s.asCount_natCast _)
  | memoryLimit =>
    obtain rfl : s.memory = d := Option.some.inj hsource
    rfl

/-- A query that is read anew each time is answered from its directory. -/
theorem answer_of_source {q : Query} {s : Subsystem} {d : ControlDirectory} (files : Files)
    (now : Clock.Spans) (hno : ∀ k : Kept, ¬ k.Asked q) (hsource : q.source s = some d) :
    (s.answer files now q).value.1 = q.answerIn d s.version s.host files := by
  cases q with
  | activeProcessors => exact absurd (Or.inl rfl) (hno .processors)
  | memoryLimit => exact absurd (Or.inl rfl) (hno .memoryLimit)
  | report => exact absurd (Or.inr rfl) (hno .processors)
  | tasksMost =>
    have hpids : s.pids = some d := hsource
    refine congrArg Answer.metric ?_
    rw [tasksMost, hpids]
  | tasksCurrent =>
    have hpids : s.pids = some d := hsource
    refine congrArg Answer.metric ?_
    rw [tasksCurrent, hpids]
  | _ =>
    cases hsource
    rfl

/-- The same without a directory, which is only missing for tasks. -/
theorem answer_of_no_source {q : Query} {s : Subsystem} (files : Files) (now : Clock.Spans)
    (hno : ∀ k : Kept, ¬ k.Asked q) (hsource : q.source s = none) :
    (s.answer files now q).value.1 = q.fallback s.host := by
  cases q with
  | report => exact absurd (Or.inr rfl) (hno .processors)
  | tasksMost =>
    have hpids : s.pids = none := hsource
    refine congrArg Answer.metric ?_
    rw [tasksMost, hpids]
    rfl
  | tasksCurrent =>
    have hpids : s.pids = none := hsource
    refine congrArg Answer.metric ?_
    rw [tasksCurrent, hpids]
    rfl
  | _ => cases hsource

end Subsystem

/-! ### Runs -/

namespace Query

/-- Whether an answer at a clock reading is that without control files, if the query's directory is
    not there. A new cache is not due at the least reading, so nothing is said there of the
    processor count. -/
def FallsBack (host : Host) (s : Subsystem) (now : Clock.Spans) (q : Query) (answer : Answer) :
    Prop :=
  (∀ d ∈ q.source s, d.location.directory? = none) →
    (q = .activeProcessors → Metric.least < now.processors.asked) → answer = q.fallback host

/-- Whether an answer is what a directory held: at that moment or, for a kept metric, at one of the
    moments `ms`. A new cache is not due at the least reading, so nothing is said there of a kept
    metric. -/
def ReadFrom (d : ControlDirectory) (version : Version) (host : Host) (ms : List Moment)
    (m : Moment) (q : Query) (answer : Answer) : Prop :=
  (∀ k : Kept, k.Asked q → Metric.least < (k.span m.now).asked) →
    ∃ files, Subsystem.Seen ms files ∧ ((∀ k : Kept, ¬ k.Asked q) → files = m.files) ∧
      answer = q.answerIn d version host files

end Query

namespace Subsystem.Fresh

variable {settings : Settings} {host : Host} {seen : Files → Prop} {s s' : Subsystem}

/-- Whatever was asked of a new subsystem, a single query is answered from its directory, unless its
    metric is kept and was never read. -/
theorem answer_cases (h : Fresh settings host s) (hfollows : Follows seen s s') {files : Files}
    (hfiles : seen files) (now : Clock.Spans) {q : Query} {d : ControlDirectory}
    (hsource : q.source s = some d) :
    (∃ files', seen files' ∧ ((∀ k : Kept, ¬ k.Asked q) → files' = files) ∧
      (s'.answer files now q).value.1 = q.answerIn d s.version host files') ∨
    ∃ k : Kept, q = k.query ∧ ¬ Metric.least < (k.span now).asked ∧
      (s'.answer files now q).value.1 = k.answer s Metric.unknown := by
  rw [← h.host_eq]
  rcases Kept.query_cases q with ⟨k, rfl⟩ | rfl | hno
  · obtain ⟨value, hanswer, ⟨rfl, hdue⟩ | ⟨files', hfiles', rfl⟩⟩ :=
      hfollows.answer_kept k hfiles now
    · rw [h.cache_eq] at hanswer hdue
      exact Or.inr ⟨k, rfl, fun hnow => by simp [(Cache.due_empty _).2 hnow] at hdue, hanswer⟩
    · exact Or.inl ⟨files', hfiles', fun hno => absurd (Or.inl rfl) (hno k),
        hanswer.trans (answer_read files' hsource)⟩
  · cases hsource
  · refine Or.inl ⟨files, hfiles, fun _ => rfl, ?_⟩
    rw [hfollows.answer_of_not_asked files now hno]
    exact answer_of_source files now hno hsource

/-- Without its directory, it is answered as without control files. -/
theorem answer_fallsBack (h : Fresh settings host s) (hfollows : Follows seen s s')
    {files : Files} (hfiles : seen files) (now : Clock.Spans) {q : Query} (hq : q ≠ .report) :
    q.FallsBack host s now (s'.answer files now q).value.1 := by
  intro hnone hnow
  cases hsource : q.source s with
  | none =>
    have hno (k : Kept) : ¬ k.Asked q := by
      rintro (rfl | hreport)
      · cases k <;> cases hsource
      · exact hq hreport
    rw [hfollows.answer_of_not_asked files now hno, ← h.host_eq]
    exact answer_of_no_source files now hno hsource
  | some d =>
    rcases h.answer_cases hfollows hfiles now hsource with
      ⟨files', -, -, hanswer⟩ | ⟨k, rfl, hleast, hanswer⟩
    · rw [hanswer, Query.answerIn_of_none (hnone d hsource)]
    · rw [hanswer]
      cases k with
      | processors => exact absurd (hnow rfl) hleast
      | memoryLimit => rfl

/-- A run, in which files and clock may change in any way, is not answered without directories. -/
theorem run_fallsBack (h : Fresh settings host s) (ms : List Moment) :
    List.Forall₂ (fun m answer => ∀ p ∈ answer.parts m.query, p.1.FallsBack host s m.now p.2) ms
      (s.run ms).value.1 := by
  refine (Follows.refl s).forall₂_parts seen_of_mem fun m hm q hq s' hs' => ?_
  exact h.answer_fallsBack hs' (seen_of_mem m hm) m.now hq

/-- A single query of a run is answered from its directory as it is at the moments of the run. -/
theorem answer_readFrom (h : Fresh settings host s) {ms : List Moment}
    (hfollows : Follows (Seen ms) s s') {m : Moment} (hm : m ∈ ms) {q : Query}
    {d : ControlDirectory} (hsource : q.source s = some d) :
    q.ReadFrom d s.version host ms m (s'.answer m.files m.now q).value.1 := by
  intro hnow
  rcases h.answer_cases hfollows (seen_of_mem m hm) m.now hsource with
    hread | ⟨k, hq, hleast, -⟩
  · exact hread
  · exact absurd (hnow k (Or.inl hq)) hleast

end Subsystem.Fresh

end CgroupLimits
