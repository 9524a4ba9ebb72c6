import CgroupLimits.Proofs.Ceiling
import CgroupLimits.Proofs.Numerals
import CgroupLimits.Proofs.Provenance
import CgroupLimits.Proofs.Weights

/-! The range of every answer.

    A metric shares its integer with the value that stands for no answer, so a sum, a cut-off or a
    cache that took that value for an amount would show as a number that cannot be. None does: a
    metric is unknown or an amount of 63 bits, a processor count is between one and what the host
    has, and each cache holds no more than its own query may answer. Each reader is in range for
    every content of its files, and `Follows` carries that over whole runs. -/

namespace CgroupLimits

/-! ### Metrics -/

namespace Metric

/-- Whether a metric is unknown or between two bounds. -/
def Within (low high metric : Int) : Prop := metric = unknown ∨ low ≤ metric ∧ metric ≤ high

instance (low high metric : Int) : Decidable (Within low high metric) :=
  inferInstanceAs (Decidable (_ ∨ _))

theorem within_unknown (low high : Int) : Within low high unknown := Or.inl rfl

theorem within_ofAmount (n : Nat) : Within 0 greatest (ofAmount n) :=
  Or.inr ⟨ofAmount_nonneg n, ofAmount_le_greatest n⟩

theorem within_ofReading (reading : Option Nat) : Within 0 greatest (ofReading reading) := by
  cases reading with
  | none => exact within_unknown _ _
  | some n => exact within_ofAmount n

theorem within_ofLimitReading (reading : Option Limit) :
    Within 0 greatest (ofLimitReading reading) := by
  rcases reading with _ | n | _
  · exact within_unknown _ _
  · exact within_ofAmount n
  · exact within_unknown _ _

/-- A sum of amounts is cut off above and never becomes unknown. -/
theorem within_add {a b : Int} (ha : 0 ≤ a) (hb : 0 ≤ b) : Within 0 greatest (add a b) := by
  right
  simp only [add, least, greatest, Numeral.max63]
  omega

/-- A metric that is not unknown is an amount. -/
theorem Within.nonneg {low high metric : Int} (h : Within low high metric) (hlow : 0 ≤ low)
    (hne : metric ≠ unknown) : 0 ≤ metric := by
  rcases h with h | ⟨h, -⟩
  · exact absurd h hne
  · omega

end Metric

/-! ### Signed numerals -/

namespace Numeral

theorem signed_le {bound : Nat} {s : String} {n : Int} (h : signed bound s = .ok n) :
    n ≤ bound := by
  by_cases hpos : 0 < n
  · have hle := (writes_of_signed h hpos).2
    omega
  · omega

end Numeral

/-! ### Readers of one controller -/

namespace ControlDirectory

variable (d : ControlDirectory) (files : Files) (name what : String)

theorem numberMetric_within :
    Metric.Within 0 Metric.greatest (d.numberMetric files name what).value := by
  rw [numberMetric, Logged.value_map]
  exact Metric.within_ofReading _

theorem limitMetric_within (bound : Nat) :
    Metric.Within 0 Metric.greatest (d.limitMetric files name what bound).value := by
  rw [limitMetric, Logged.value_map]
  exact Metric.within_ofLimitReading _

theorem keyMetric_within (key : String) :
    Metric.Within 0 Metric.greatest (d.keyMetric files name key what).value := by
  rw [keyMetric, Logged.value_map]
  exact Metric.within_ofReading _

variable {d files name}

theorem readSigned_le {n : Int} (h : d.readSigned files name = .ok n) : n ≤ Metric.greatest := by
  obtain ⟨path, w, h, -⟩ := exists_word_of_readLine h
  rw [ControlLine.signed, mapError_ok_iff] at h
  exact Numeral.signed_le h

end ControlDirectory

namespace Shares

theorem ofWeight_within (weight : Nat) :
    Metric.Within 0 Metric.greatest (ofWeight weight).value := by
  rcases value_ofWeight_cases weight with hunknown | ⟨hlow, hhigh⟩
  · rw [hunknown]
    exact Metric.within_unknown _ _
  · exact Or.inr ⟨Int.le_trans (by decide) hlow, Int.le_trans hhigh (by decide)⟩

end Shares

namespace Cpu

theorem quota_within (version : Version) (d : ControlDirectory) (files : Files) :
    Metric.Within 0 Metric.greatest (quota version d files).value := by
  cases version with
  | v1 =>
    simp only [quota, Logged.value_bind, Logged.value_pure, ControlDirectory.value_observe]
    cases hread : d.readSigned files "cpu.cfs_quota_us" with
    | error error => exact Metric.within_unknown _ _
    | ok n =>
      simp only [Except.toOption]
      split
      · exact Metric.within_unknown _ _
      · exact Or.inr ⟨by omega, ControlDirectory.readSigned_le hread⟩
  | v2 =>
    simp only [quota, Logged.value_bind, Logged.value_pure]
    exact Metric.within_ofLimitReading _

theorem period_within (version : Version) (d : ControlDirectory) (files : Files) :
    Metric.Within 0 Metric.greatest (period version d files).value := by
  cases version with
  | v1 => exact d.numberMetric_within files _ _
  | v2 =>
    simp only [period, Logged.value_bind, Logged.value_pure]
    exact Metric.within_ofReading _

theorem shares_within (version : Version) (d : ControlDirectory) (files : Files) :
    Metric.Within 0 Metric.greatest (shares version d files).value := by
  cases version with
  | v1 =>
    simp only [shares, Logged.value_bind, Logged.value_pure]
    split
    · exact Metric.within_unknown _ _
    · exact d.numberMetric_within files _ _
  | v2 =>
    simp only [shares, Logged.value_bind]
    cases (d.number files "cpu.weight" "CPU Weight").value with
    | none => exact Metric.within_unknown _ _
    | some weight => exact Shares.ofWeight_within weight

end Cpu

namespace Memory

variable (version : Version) (d : ControlDirectory) (files : Files)

theorem limit_within (bound : Nat) :
    Metric.Within 0 Metric.greatest (limit version d files bound).value := by
  cases version with
  | v1 =>
    simp only [limit, Legacy.limit, Logged.value_map]
    exact Metric.within_ofLimitReading _
  | v2 => exact d.limitMetric_within files _ _ bound

theorem usage_within : Metric.Within 0 Metric.greatest (usage version d files).value := by
  cases version <;> exact d.numberMetric_within files _ _

theorem softLimit_within (bound : Nat) :
    Metric.Within 0 Metric.greatest (softLimit version d files bound).value := by
  cases version <;> exact d.limitMetric_within files _ _ bound

theorem peakUsage_within : Metric.Within 0 Metric.greatest (peakUsage version d files).value := by
  cases version <;> exact d.numberMetric_within files _ _

theorem residentUsage_within :
    Metric.Within 0 Metric.greatest (residentUsage version d files).value := by
  cases version <;> exact d.keyMetric_within files _ _ _

theorem cacheUsage_within :
    Metric.Within 0 Metric.greatest (cacheUsage version d files).value := by
  cases version <;> exact d.keyMetric_within files _ _ _

theorem swapLimit_within (hostMemory hostSwap : Nat) :
    Metric.Within 0 Metric.greatest (swapLimit version d files hostMemory hostSwap).value := by
  cases version with
  | v1 =>
    have hlimit := limit_within .v1 d files hostMemory
    rw [show (swapLimit .v1 d files hostMemory hostSwap).value = _ from
      Legacy.value_swapLimit_eq d files hostMemory hostSwap]
    split
    · exact hlimit
    · exact Metric.within_unknown _ _
    · split
      · exact hlimit
      · exact Metric.within_ofAmount _
  | v2 =>
    have hlimit := limit_within .v2 d files hostMemory
    simp only [swapLimit, Unified.swapLimit, Logged.value_bind]
    split
    · rw [Logged.value_bind]
      exact hlimit
    · exact Metric.within_unknown _ _
    · simp only [Logged.value_bind, Logged.value_pure]
      split
      · exact Metric.within_unknown _ _
      · rename_i hne
        exact Metric.within_add (hlimit.nonneg (Int.le_refl 0) hne) (Metric.ofAmount_nonneg _)

theorem swapUsage_within (hostMemory hostSwap : Nat) :
    Metric.Within 0 Metric.greatest (swapUsage version d files hostMemory hostSwap).value := by
  cases version with
  | v1 =>
    simp only [swapUsage, Legacy.swapUsage, Logged.value_bind]
    split
    · exact d.numberMetric_within files _ _
    · exact usage_within .v1 d files
  | v2 =>
    have husage := usage_within .v2 d files
    simp only [swapUsage, Unified.swapUsage, Logged.value_bind]
    split
    · exact Metric.within_unknown _ _
    · rename_i hne
      rw [Logged.value_bind]
      split
      · exact Metric.within_add (husage.nonneg (Int.le_refl 0) hne) (Metric.ofAmount_nonneg _)
      · rw [Logged.value_pure]
        exact husage

end Memory

/-! ### Answers and caches -/

/-- Whether a query is answered with a metric. -/
def Query.AsksMetric (q : Query) : Prop :=
  q ≠ .activeProcessors ∧ q ≠ .cpusetProcessors ∧ q ≠ .cpusetMemoryNodes ∧ q ≠ .report

instance (q : Query) : Decidable q.AsksMetric := inferInstanceAs (Decidable (_ ∧ _))

/-- Whether an answer is of the kind that a single query asks for, and in the range of that kind. -/
def Answer.InRange (host : Host) (q : Query) : Answer → Prop
  | .count n => q = .activeProcessors ∧ 1 ≤ n ∧ n ≤ host.processors
  | .metric n => q.AsksMetric ∧ Metric.Within 0 Metric.greatest n
  | .set _ => q = .cpusetProcessors ∨ q = .cpusetMemoryNodes
  | .report _ => False

namespace Kept

/-- The range of what a cache holds. -/
def InRange (host : Host) (value : Int) : Kept → Prop
  | .processors => Metric.Within 1 host.processors value
  | .memoryLimit => Metric.Within 0 Metric.greatest value ∧ Metric.Below host.memory value

theorem inRange_unknown (host : Host) (k : Kept) : k.InRange host Metric.unknown := by
  cases k with
  | processors => exact Metric.within_unknown _ _
  | memoryLimit => exact ⟨Metric.within_unknown _ _, Metric.below_unknown _⟩

/-- What the control files give is in range, whatever they hold. -/
theorem inRange_read (k : Kept) {s : Subsystem} (files : Files) (hhost : 1 ≤ s.host.processors) :
    k.InRange s.host (k.read s files).value := by
  cases k with
  | processors =>
    obtain ⟨n, hn, hpos, hle⟩ : ∃ n : Nat, (Kept.processors.read s files).value = n ∧
        1 ≤ n ∧ n ≤ max 1 s.host.processors :=
      ⟨_, rfl, Processors.active_pos _ _ _ _, Processors.active_le _ _ _ _⟩
    rw [hn]
    exact Or.inr (by omega)
  | memoryLimit =>
    exact ⟨Memory.limit_within s.version s.memory files s.host.memory,
      Memory.limit_below s.version s.memory files s.host.memory⟩

/-- A value in range makes an answer in range; an unknown processor count is that of the host. -/
theorem inRange_answer {k : Kept} {s : Subsystem} {value : Int} (hhost : 1 ≤ s.host.processors)
    (h : k.InRange s.host value) : (k.answer s value).InRange s.host k.query := by
  cases k with
  | processors =>
    refine ⟨rfl, ?_⟩
    unfold Subsystem.asCount
    rcases h with h | ⟨hlow, hhigh⟩
    · rw [h, if_neg (by decide)]
      exact ⟨hhost, Nat.le_refl _⟩
    · split <;> omega
  | memoryLimit => exact ⟨by decide, h.1⟩

end Kept

namespace Subsystem

/-- A query that is read anew each time is in range, whatever its files hold. -/
theorem answer_inRange_of_not_asked {q : Query} (s : Subsystem) (files : Files)
    (now : Clock.Spans) (hno : ∀ k : Kept, ¬ k.Asked q) :
    (s.answer files now q).value.1.InRange s.host q := by
  cases q with
  | activeProcessors => exact absurd (Or.inl rfl) (hno .processors)
  | memoryLimit => exact absurd (Or.inl rfl) (hno .memoryLimit)
  | report => exact absurd (Or.inr rfl) (hno .processors)
  | cpuQuota => exact ⟨by decide, Cpu.quota_within s.version s.cpu files⟩
  | cpuPeriod => exact ⟨by decide, Cpu.period_within s.version s.cpu files⟩
  | cpuShares => exact ⟨by decide, Cpu.shares_within s.version s.cpu files⟩
  | cpusetProcessors => exact Or.inl rfl
  | cpusetMemoryNodes => exact Or.inr rfl
  | memoryUsage => exact ⟨by decide, Memory.usage_within s.version s.memory files⟩
  | swapLimit => exact ⟨by decide, Memory.swapLimit_within s.version s.memory files _ _⟩
  | swapUsage => exact ⟨by decide, Memory.swapUsage_within s.version s.memory files _ _⟩
  | softLimit => exact ⟨by decide, Memory.softLimit_within s.version s.memory files _⟩
  | peakUsage => exact ⟨by decide, Memory.peakUsage_within s.version s.memory files⟩
  | residentUsage => exact ⟨by decide, Memory.residentUsage_within s.version s.memory files⟩
  | cacheUsage => exact ⟨by decide, Memory.cacheUsage_within s.version s.memory files⟩
  | tasksMost =>
    refine ⟨by decide, ?_⟩
    unfold tasksMost
    cases s.pids with
    | none => exact Metric.within_unknown _ _
    | some d => exact d.limitMetric_within files _ _ _
  | tasksCurrent =>
    refine ⟨by decide, ?_⟩
    unfold tasksCurrent
    cases s.pids with
    | none => exact Metric.within_unknown _ _
    | some d => exact d.numberMetric_within files _ _

namespace Fresh

variable {settings : Settings} {host : Host} {seen : Files → Prop} {s s' : Subsystem}

/-- Whatever was asked of a new subsystem, its caches are in range. -/
theorem cache_inRange (h : Fresh settings host s) (hhost : 1 ≤ host.processors)
    (hfollows : Follows seen s s') (k : Kept) : k.InRange host (k.cache s').value := by
  obtain ⟨caches, rfl, horigin⟩ := hfollows
  rw [cache_holding]
  rcases horigin k with hcache | ⟨files, -, hcache⟩
  · rw [hcache, h.cache_eq]
    exact k.inRange_unknown host
  · rw [hcache, ← h.host_eq]
    exact k.inRange_read files (h.host_eq ▸ hhost)

/-- Whatever was asked of a new subsystem, a single query is answered in range. -/
theorem answer_inRange (h : Fresh settings host s) (hhost : 1 ≤ host.processors)
    (hfollows : Follows seen s s') {files : Files} (hfiles : seen files) (now : Clock.Spans)
    {q : Query} (hq : q ≠ .report) : (s'.answer files now q).value.1.InRange host q := by
  have hhost' : 1 ≤ s.host.processors := h.host_eq ▸ hhost
  rw [← h.host_eq]
  rcases Kept.query_cases q with ⟨k, rfl⟩ | rfl | hno
  · obtain ⟨value, hanswer, horigin⟩ := hfollows.answer_kept k hfiles now
    rw [hanswer]
    apply Kept.inRange_answer hhost'
    rcases horigin with ⟨rfl, -⟩ | ⟨files', -, rfl⟩
    · rw [h.cache_eq]
      exact k.inRange_unknown _
    · exact k.inRange_read files' hhost'
  · exact absurd rfl hq
  · rw [hfollows.answer_of_not_asked files now hno]
    exact s.answer_inRange_of_not_asked files now hno

end Fresh

/-! ### Runs -/

/-- What the answers and the caches of a subsystem can be over any run, on a host with processors.
    Whatever happens to the files and to the clock, which may go back, within a query too, or stand
    at its least reading: every metric is unknown or an amount of 63 bits and every processor count
    is one that the host can have, in reports too; and the caches never hold anything but unknown,
    or a count that the host can have and a limit below its memory. -/
theorem run_inRange {files : Files} {settings : Settings} {host : Host} {s : Subsystem}
    (hcreated : (create files settings host).value = .ok s) (hhost : 1 ≤ host.processors)
    (ms : List Moment) :
    List.Forall₂ (fun m answer => ∀ p ∈ answer.parts m.query, p.2.InRange host p.1) ms
      (s.run ms).value.1 ∧
    Metric.Within 1 host.processors (s.after ms).cpuCache.value ∧
    Metric.Below host.memory (s.after ms).memoryCache.value := by
  have hfresh := fresh_of_create hcreated
  have hfollows : Follows (Seen ms) s (s.after ms) := (Follows.refl s).after seen_of_mem
  refine ⟨?_, hfresh.cache_inRange hhost hfollows .processors,
    (hfresh.cache_inRange hhost hfollows .memoryLimit).2⟩
  refine (Follows.refl s).forall₂_parts seen_of_mem fun m hm q hq s' hs' => ?_
  exact hfresh.answer_inRange hhost hs' (seen_of_mem m hm) m.now hq

/-- A clock that starts at its least reading and goes back later, within a query and after it. -/
def unsteady : List Moment :=
  [⟨.memoryLimit, Metric.least, oneLimit "500"⟩, ⟨.report, ⟨9, ⟨7, 5⟩⟩, oneLimit "500"⟩,
   ⟨.report, (-3 : Int), oneLimit "700"⟩]

/-- The limit is unknown at the least reading, where the cache is not due, and 500 from then on. -/
theorem run_inRange_unsteady :
    (create (oneLimit "500") ⟨"proc", 20000000, 1024⟩ ⟨4, 8589934592, 0⟩).value = .ok ofOneLimit ∧
    List.Forall₂ (fun m answer => ∀ p ∈ answer.parts m.query, p.2.InRange ⟨4, 8589934592, 0⟩ p.1)
      unsteady (ofOneLimit.run unsteady).value.1 ∧
    (ofOneLimit.run unsteady).value.1.map Kept.memoryLimit.told = [some (-1), some 500, some 500] ∧
    Metric.Below 8589934592 (ofOneLimit.after unsteady).memoryCache.value := by
  have hcreated :
      (create (oneLimit "500") ⟨"proc", 20000000, 1024⟩ ⟨4, 8589934592, 0⟩).value =
        .ok ofOneLimit := by decide
  obtain ⟨hanswers, -, hcache⟩ := run_inRange hcreated (by decide) unsteady
  exact ⟨hcreated, hanswers, by decide, hcache⟩

end Subsystem

end CgroupLimits
