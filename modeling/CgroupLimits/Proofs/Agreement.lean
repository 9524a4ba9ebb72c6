import CgroupLimits.Cpu
import CgroupLimits.Proofs.Stored

/-! Both versions tell the same of the same amounts.

    The two versions store what a cgroup uses and may use in different files, of different shapes
    and with different words for what is not set, and one of them counts the quota as a signed
    number. `Amounts.InLegacy` and `Amounts.InUnified` say how. What is told then depends on the
    amounts alone (`InLegacy.readings_eq`, `InUnified.readings_eq`), except that the number for no
    limit in version 1 is known only by its being at or above the memory of the host. -/

namespace CgroupLimits

/-! ### The amounts of a cgroup, stored by either version -/

/-- What a cgroup uses and may use; a quota or limit that is missing is not set. -/
structure Amounts where
  quota : Option Nat
  quota_le : ∀ n ∈ quota, n ≤ Numeral.max63
  period : UInt64
  limit : Option UInt64
  softLimit : UInt64
  usage : UInt64
  peakUsage : UInt64
  anonymous : UInt64
  cache : UInt64

/-- What the cpu and memory controllers tell, swap left out. -/
structure Readings where
  quota : Int
  period : Int
  shares : Int
  limit : Int
  usage : Int
  softLimit : Int
  peakUsage : Int
  residentUsage : Int
  cacheUsage : Int
  deriving DecidableEq, Repr

/-- What the controllers of a version tell; `bound` is the memory of the host. -/
def readings (version : Version) (d : ControlDirectory) (files : Files) (bound : Nat) :
    Readings where
  quota := (Cpu.quota version d files).value
  period := (Cpu.period version d files).value
  shares := (Cpu.shares version d files).value
  limit := (Memory.limit version d files bound).value
  usage := (Memory.usage version d files).value
  softLimit := (Memory.softLimit version d files bound).value
  peakUsage := (Memory.peakUsage version d files).value
  residentUsage := (Memory.residentUsage version d files).value
  cacheUsage := (Memory.cacheUsage version d files).value

namespace Amounts

/-- What is to be told of the amounts. -/
def told (a : Amounts) (bound : Nat) : Readings where
  quota := Metric.ofReading a.quota
  period := Metric.ofAmount a.period.toNat
  shares := Metric.unknown
  limit := a.limit.elim Metric.unknown fun n => Metric.ofAmountBelow bound n.toNat
  usage := Metric.ofAmount a.usage.toNat
  softLimit := Metric.ofAmountBelow bound a.softLimit.toNat
  peakUsage := Metric.ofAmount a.peakUsage.toNat
  residentUsage := Metric.ofAmount a.anonymous.toNat
  cacheUsage := Metric.ofAmount a.cache.toNat

/-- Whether a directory of version 1 stores the amounts: a quota that is not set as minus one, a
    limit that is not set as the greatest signed amount in whole pages. -/
structure InLegacy (a : Amounts) (d : ControlDirectory) (files : Files) : Prop where
  quota : d.Holds files "cpu.cfs_quota_us" (a.quota.elim "-1" toString)
  period : d.Holds files "cpu.cfs_period_us" (toString a.period.toNat)
  shares : d.Lacks files "cpu.shares" ∨ d.Holds files "cpu.shares" (toString Shares.perProcessor)
  limit : d.Holds files "memory.limit_in_bytes"
    (toString (a.limit.elim 9223372036854771712 UInt64.toNat))
  softLimit : d.Holds files "memory.soft_limit_in_bytes" (toString a.softLimit.toNat)
  usage : d.Holds files "memory.usage_in_bytes" (toString a.usage.toNat)
  peakUsage : d.Holds files "memory.max_usage_in_bytes" (toString a.peakUsage.toNat)
  statistics : ∃ text, d.Tabulates files "memory.stat" text ∧
    ControlTable.Gives (Text.lines text) "rss" a.anonymous.toNat ∧
    ControlTable.Gives (Text.lines text) "cache" a.cache.toNat ∧
    ∀ line ∈ Text.lines text, ¬ ControlTable.Begins "hierarchical_memory_limit" line

/-- Whether a directory of version 2 stores the amounts: a quota or a limit that is not set as
    `max`. -/
structure InUnified (a : Amounts) (d : ControlDirectory) (files : Files) : Prop where
  quota : d.Holds files "cpu.max" (a.quota.elim "max" toString ++ " " ++ toString a.period.toNat)
  weight : d.Lacks files "cpu.weight" ∨ d.Holds files "cpu.weight" (toString Shares.defaultWeight)
  limit : d.Holds files "memory.max" (a.limit.elim "max" fun n => toString n.toNat)
  softLimit : d.Holds files "memory.low" (toString a.softLimit.toNat)
  usage : d.Holds files "memory.current" (toString a.usage.toNat)
  peakUsage : d.Holds files "memory.peak" (toString a.peakUsage.toNat)
  statistics : ∃ text, d.Tabulates files "memory.stat" text ∧
    ControlTable.Gives (Text.lines text) "anon" a.anonymous.toNat ∧
    ControlTable.Gives (Text.lines text) "file" a.cache.toNat

section Legacy

variable {a : Amounts} {d : ControlDirectory} {files : Files} {bound : Nat}
  (h : a.InLegacy d files)

include h

theorem InLegacy.value_quota : (Cpu.quota .v1 d files).value = Metric.ofReading a.quota := by
  have hquota := h.quota
  simp only [Cpu.quota, Logged.value_bind, Logged.value_pure, ControlDirectory.value_observe]
  cases hq : a.quota with
  | none =>
    rw [hq] at hquota
    obtain ⟨path, hread⟩ := ControlDirectory.readLine_of_word hquota (by decide)
    rw [ControlDirectory.readSigned, hread]
    rfl
  | some n =>
    rw [hq] at hquota
    have hn := a.quota_le n hq
    rw [ControlDirectory.readSigned_of_holds hquota hn]
    simp only [Except.toOption, if_neg (Int.not_lt.2 (Int.natCast_nonneg n))]
    exact (Metric.ofAmount_eq hn).symm

theorem InLegacy.value_shares : (Cpu.shares .v1 d files).value = Metric.unknown := by
  simp only [Cpu.shares, Logged.value_bind, Logged.value_pure]
  rcases h.shares with hshares | hshares
  · rw [ControlDirectory.numberMetric, Logged.value_map,
      ControlDirectory.value_number_of_lacks _ hshares]
    rfl
  · rw [ControlDirectory.numberMetric_of_holds _ hshares (by decide)]
    rfl

theorem InLegacy.value_limit (hbound : bound ≤ 9223372036854771712) :
    (Memory.limit .v1 d files bound).value =
      a.limit.elim Metric.unknown fun n => Metric.ofAmountBelow bound n.toNat := by
  obtain ⟨text, htext, -, -, hnone⟩ := h.statistics
  have hle : a.limit.elim 9223372036854771712 UInt64.toNat ≤ Numeral.max64 := by
    cases a.limit with
    | none => decide
    | some n => exact Numeral.toNat_le_max64 n
  have hinherited := Memory.Legacy.value_inherited "Memory Limit" bound
    (ControlDirectory.readNumber_of_holds h.limit hle)
    fun m hm => absurd hm (ControlDirectory.readKey_of_not_begins htext hnone m)
  rw [Memory.limit, Memory.Legacy.limit, Logged.value_map, hinherited]
  cases a.limit with
  | none =>
    rw [Option.elim_none, if_neg (Nat.not_lt.2 hbound)]
    rfl
  | some n => exact Metric.ofLimit_cut bound n.toNat

/-- A directory of version 1 that stores the amounts is told as they are to be. -/
theorem InLegacy.readings_eq (hbound : bound ≤ 9223372036854771712) :
    readings .v1 d files bound = a.told bound := by
  obtain ⟨text, htext, hanonymous, hcache, -⟩ := h.statistics
  have hperiod : (Cpu.period .v1 d files).value = Metric.ofAmount a.period.toNat :=
    ControlDirectory.numberMetric_of_holds _ h.period (Numeral.toNat_le_max64 _)
  have husage : (Memory.usage .v1 d files).value = Metric.ofAmount a.usage.toNat :=
    ControlDirectory.numberMetric_of_holds _ h.usage (Numeral.toNat_le_max64 _)
  have hsoft : (Memory.softLimit .v1 d files bound).value =
      Metric.ofAmountBelow bound a.softLimit.toNat :=
    ControlDirectory.limitMetric_of_holds _ bound h.softLimit (Numeral.toNat_le_max64 _)
  have hpeak : (Memory.peakUsage .v1 d files).value = Metric.ofAmount a.peakUsage.toNat :=
    ControlDirectory.numberMetric_of_holds _ h.peakUsage (Numeral.toNat_le_max64 _)
  have hresident : (Memory.residentUsage .v1 d files).value = Metric.ofAmount a.anonymous.toNat :=
    ControlDirectory.keyMetric_of_gives _ htext hanonymous (Numeral.toNat_le_max64 _)
  have hcached : (Memory.cacheUsage .v1 d files).value = Metric.ofAmount a.cache.toNat :=
    ControlDirectory.keyMetric_of_gives _ htext hcache (Numeral.toNat_le_max64 _)
  rw [readings, h.value_quota, hperiod, h.value_shares, h.value_limit hbound, husage,
    hsoft, hpeak, hresident, hcached]
  rfl

end Legacy

section Unified

variable {a : Amounts} {d : ControlDirectory} {files : Files} {bound : Nat}
  (h : a.InUnified d files)

include h

theorem InUnified.value_quota : (Cpu.quota .v2 d files).value = Metric.ofReading a.quota := by
  have hquota := h.quota
  simp only [Cpu.quota, Logged.value_bind, Logged.value_pure, ControlDirectory.value_observe]
  cases hq : a.quota with
  | none =>
    rw [hq] at hquota
    obtain ⟨path, hread⟩ := ControlDirectory.readLine_of_two hquota (by decide)
      (Numeral.isWord_toString _)
    rw [ControlDirectory.readLimitOfTwo, hread]
    rfl
  | some n =>
    rw [hq, Option.elim_some] at hquota
    have hn := a.quota_le n hq
    have hlt : n < Numeral.max64 := Nat.lt_of_le_of_lt hn (by decide)
    obtain ⟨path, hread⟩ := ControlDirectory.readLine_of_two hquota (Numeral.isWord_toString n)
      (Numeral.isWord_toString _)
    have hnumber := ControlLine.number_toString path (Nat.le_of_lt hlt)
    rw [ControlDirectory.readLimitOfTwo, hread]
    dsimp only
    rw [ControlLine.limit_of_number hnumber, if_pos hlt]
    rfl

theorem InUnified.value_period :
    (Cpu.period .v2 d files).value = Metric.ofAmount a.period.toNat := by
  have hword : Text.IsWord (a.quota.elim "max" toString) := by
    cases a.quota with
    | none => decide
    | some n => exact Numeral.isWord_toString n
  obtain ⟨path, hread⟩ := ControlDirectory.readLine_of_two h.quota hword (Numeral.isWord_toString _)
  simp only [Cpu.period, Logged.value_bind, Logged.value_pure, ControlDirectory.value_observe]
  rw [ControlDirectory.readNumberOfTwo, hread]
  dsimp only
  rw [ControlLine.number_toString path (Numeral.toNat_le_max64 a.period)]
  rfl

theorem InUnified.value_shares : (Cpu.shares .v2 d files).value = Metric.unknown := by
  simp only [Cpu.shares, Logged.value_bind]
  rcases h.weight with hweight | hweight
  · rw [ControlDirectory.value_number_of_lacks _ hweight]
    rfl
  · rw [ControlDirectory.number, ControlDirectory.value_observe,
      ControlDirectory.readNumber_of_holds hweight (by decide)]
    rfl

theorem InUnified.value_limit : (Memory.limit .v2 d files bound).value =
    a.limit.elim Metric.unknown fun n => Metric.ofAmountBelow bound n.toNat := by
  have hlimit := h.limit
  rw [Memory.limit, Memory.Unified.value_limit]
  cases hn : a.limit with
  | none =>
    rw [hn] at hlimit
    rw [ControlDirectory.readLimit_of_max hlimit]
    rfl
  | some n =>
    rw [hn, Option.elim_some] at hlimit
    rw [ControlDirectory.readLimit_of_readNumber bound
      (ControlDirectory.readNumber_of_holds hlimit (Numeral.toNat_le_max64 n))]
    exact Metric.ofLimit_cut bound n.toNat

/-- A directory of version 2 that stores the amounts is told as they are to be. -/
theorem InUnified.readings_eq : readings .v2 d files bound = a.told bound := by
  obtain ⟨text, htext, hanonymous, hcache⟩ := h.statistics
  have husage : (Memory.usage .v2 d files).value = Metric.ofAmount a.usage.toNat :=
    ControlDirectory.numberMetric_of_holds _ h.usage (Numeral.toNat_le_max64 _)
  have hsoft : (Memory.softLimit .v2 d files bound).value =
      Metric.ofAmountBelow bound a.softLimit.toNat :=
    ControlDirectory.limitMetric_of_holds _ bound h.softLimit (Numeral.toNat_le_max64 _)
  have hpeak : (Memory.peakUsage .v2 d files).value = Metric.ofAmount a.peakUsage.toNat :=
    ControlDirectory.numberMetric_of_holds _ h.peakUsage (Numeral.toNat_le_max64 _)
  have hresident : (Memory.residentUsage .v2 d files).value = Metric.ofAmount a.anonymous.toNat :=
    ControlDirectory.keyMetric_of_gives _ htext hanonymous (Numeral.toNat_le_max64 _)
  have hcached : (Memory.cacheUsage .v2 d files).value = Metric.ofAmount a.cache.toNat :=
    ControlDirectory.keyMetric_of_gives _ htext hcache (Numeral.toNat_le_max64 _)
  rw [readings, h.value_quota, h.value_period, h.value_shares, h.value_limit, husage,
    hsoft, hpeak, hresident, hcached]
  rfl

end Unified

/-- Both versions tell the same of the same amounts, namely what is to be told of them, as long as
    the host has no more memory than the number that stands for no limit in version 1. -/
theorem readings_agree {a : Amounts} {d₁ d₂ : ControlDirectory} {files₁ files₂ : Files}
    {bound : Nat} (h₁ : a.InLegacy d₁ files₁) (h₂ : a.InUnified d₂ files₂)
    (hbound : bound ≤ 9223372036854771712) :
    readings .v1 d₁ files₁ bound = readings .v2 d₂ files₂ bound ∧
    readings .v2 d₂ files₂ bound = a.told bound :=
  ⟨(h₁.readings_eq hbound).trans h₂.readings_eq.symm, h₂.readings_eq⟩

/-- Half as much again as one processor, no limit on memory, and some use of it. -/
def sample : Amounts where
  quota := some 150000
  quota_le := by decide
  period := 100000
  limit := none
  softLimit := 18446744073709551615
  usage := 4096
  peakUsage := 8192
  anonymous := 10
  cache := 20

/-- The sample as version 1 stores it, with the default shares. -/
def sampleLegacy : Files
  | "cg/cpu.cfs_quota_us" => .file (Text.toBytes "150000\n")
  | "cg/cpu.cfs_period_us" => .file (Text.toBytes "100000\n")
  | "cg/cpu.shares" => .file (Text.toBytes "1024\n")
  | "cg/memory.limit_in_bytes" => .file (Text.toBytes "9223372036854771712\n")
  | "cg/memory.soft_limit_in_bytes" => .file (Text.toBytes "18446744073709551615\n")
  | "cg/memory.usage_in_bytes" => .file (Text.toBytes "4096\n")
  | "cg/memory.max_usage_in_bytes" => .file (Text.toBytes "8192\n")
  | "cg/memory.stat" => .file (Text.toBytes "cache 20\nrss 10\nrss_huge 5\n")
  | _ => .failed .missing

/-- The sample as version 2 stores it, without a weight. -/
def sampleUnified : Files
  | "cg/cpu.max" => .file (Text.toBytes "150000 100000\n")
  | "cg/memory.max" => .file (Text.toBytes "max\n")
  | "cg/memory.low" => .file (Text.toBytes "18446744073709551615\n")
  | "cg/memory.current" => .file (Text.toBytes "4096\n")
  | "cg/memory.peak" => .file (Text.toBytes "8192\n")
  | "cg/memory.stat" => .file (Text.toBytes "anon 10\nanon_thp 5\nfile 20")
  | _ => .failed .missing

theorem sample_inLegacy : sample.InLegacy ⟨⟨"/", "cg", "/"⟩, 1024⟩ sampleLegacy where
  quota := ⟨_, [Line.newline], by rfl, by rfl, Or.inr ⟨[], rfl⟩, by decide⟩
  period := ⟨_, [Line.newline], by rfl, by rfl, Or.inr ⟨[], rfl⟩, by decide⟩
  shares := Or.inr ⟨_, [Line.newline], by rfl, by rfl, Or.inr ⟨[], rfl⟩, by decide⟩
  limit := ⟨_, [Line.newline], by rfl, by rfl, Or.inr ⟨[], rfl⟩, by decide⟩
  softLimit := ⟨_, [Line.newline], by rfl, by rfl, Or.inr ⟨[], rfl⟩, by decide⟩
  usage := ⟨_, [Line.newline], by rfl, by rfl, Or.inr ⟨[], rfl⟩, by decide⟩
  peakUsage := ⟨_, [Line.newline], by rfl, by rfl, Or.inr ⟨[], rfl⟩, by decide⟩
  statistics := ⟨"cache 20\nrss 10\nrss_huge 5\n", ⟨_, by rfl, by rfl, by decide⟩,
    ⟨["cache 20"], ["rss_huge 5", ""], by decide, by decide⟩,
    ⟨[], ["rss 10", "rss_huge 5", ""], by decide, by decide⟩, by decide⟩

theorem sample_inUnified : sample.InUnified ⟨⟨"/", "cg", "/"⟩, 1024⟩ sampleUnified where
  quota := ⟨_, [Line.newline], by rfl, by rfl, Or.inr ⟨[], rfl⟩, by decide⟩
  weight := Or.inl ⟨_, by rfl, by rfl⟩
  limit := ⟨_, [Line.newline], by rfl, by rfl, Or.inr ⟨[], rfl⟩, by decide⟩
  softLimit := ⟨_, [Line.newline], by rfl, by rfl, Or.inr ⟨[], rfl⟩, by decide⟩
  usage := ⟨_, [Line.newline], by rfl, by rfl, Or.inr ⟨[], rfl⟩, by decide⟩
  peakUsage := ⟨_, [Line.newline], by rfl, by rfl, Or.inr ⟨[], rfl⟩, by decide⟩
  statistics := ⟨"anon 10\nanon_thp 5\nfile 20", ⟨_, by rfl, by rfl, by decide⟩,
    ⟨[], ["anon_thp 5", "file 20"], by decide, by decide⟩,
    ⟨["anon 10", "anon_thp 5"], [], by decide, by decide⟩⟩

/-- Both versions tell the same of the sample. -/
theorem readings_agree_sample :
    let d : ControlDirectory := ⟨⟨"/", "cg", "/"⟩, 1024⟩
    let told : Readings := ⟨150000, 100000, -1, -1, 4096, -1, 8192, 10, 20⟩
    sample.InLegacy d sampleLegacy ∧ sample.InUnified d sampleUnified ∧
    readings .v1 d sampleLegacy 8589934592 = told ∧
    readings .v2 d sampleUnified 8589934592 = told := by
  intro d told
  have hbound : 8589934592 ≤ 9223372036854771712 := by decide
  obtain ⟨hsame, htold⟩ := readings_agree sample_inLegacy sample_inUnified hbound
  have hreadings : sample.told 8589934592 = told := by decide
  exact ⟨sample_inLegacy, sample_inUnified, hsame.trans (htold.trans hreadings),
    htold.trans hreadings⟩

end Amounts

end CgroupLimits
