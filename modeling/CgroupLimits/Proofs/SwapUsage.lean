import CgroupLimits.Proofs.Inheritance

/-! The memory and swap in use, next to the memory in use and the limits.

    Version 2 adds the swap in use to the memory in use, and the sum is unknown exactly where the
    memory in use is (`Unified.swapUsage_unknown_iff`). Version 1 has a file for the sum and reads
    it only if the limits leave room for swap, which they do only by a limit on both that is chosen,
    in a group that swaps (`Legacy.leavesRoom_iff`). Any other group is told the memory in use,
    whatever limits its ancestors have. -/

namespace CgroupLimits

/-- A sum of amounts is cut off above only. -/
theorem Metric.add_ofAmount_eq_min (m n : Nat) :
    add (ofAmount m) (ofAmount n) = min greatest (ofAmount m + ofAmount n) := by
  simp only [add, ofAmount, least, greatest, Numeral.max63]
  omega

theorem Metric.exists_of_known_reading {reading : Option Nat} (h : ofReading reading ≠ unknown) :
    ∃ n, ofReading reading = ofAmount n := by
  cases reading with
  | none => exact absurd rfl h
  | some n => exact ⟨n, rfl⟩

namespace Memory

namespace Unified

/-- The swap in use, none if it is not told. -/
def swapInUse (d : ControlDirectory) (files : Files) : Int :=
  (d.readNumber files "memory.swap.current").toOption.elim 0 Metric.ofAmount

variable (d : ControlDirectory) (files : Files)

theorem value_usage : (usage d files).value =
    Metric.ofReading (d.readNumber files "memory.current").toOption :=
  d.value_numberMetric files _ _

theorem swapUsage_of_unknown (h : (usage d files).value = Metric.unknown) :
    (swapUsage d files).value = Metric.unknown := by
  rw [swapUsage, Logged.value_bind, h, if_pos rfl, Logged.value_pure]

/-- Memory that is known is added to, and so nothing is lost of it. -/
theorem swapUsage_of_known (h : (usage d files).value ≠ Metric.unknown) :
    (swapUsage d files).value =
      min Metric.greatest ((usage d files).value + swapInUse d files) ∧
    (usage d files).value ≤ (swapUsage d files).value := by
  rw [value_usage] at h
  obtain ⟨n, hn⟩ := Metric.exists_of_known_reading h
  rw [← value_usage] at hn
  have hnonneg := Metric.ofAmount_nonneg n
  have hgreatest := Metric.ofAmount_le_greatest n
  rw [swapUsage, Logged.value_bind, hn, if_neg (Metric.ofAmount_ne_unknown n), Logged.value_bind,
    ControlDirectory.number, ControlDirectory.value_observe, swapInUse]
  cases d.readNumber files "memory.swap.current" with
  | error error =>
    show Metric.ofAmount n = min Metric.greatest (Metric.ofAmount n + 0) ∧
      Metric.ofAmount n ≤ Metric.ofAmount n
    omega
  | ok m =>
    show Metric.add (Metric.ofAmount n) (Metric.ofAmount m) =
        min Metric.greatest (Metric.ofAmount n + Metric.ofAmount m) ∧
      Metric.ofAmount n ≤ Metric.add (Metric.ofAmount n) (Metric.ofAmount m)
    have hswap := Metric.ofAmount_nonneg m
    rw [Metric.add_ofAmount_eq_min]
    omega

theorem swapUsage_unknown_iff :
    (swapUsage d files).value = Metric.unknown ↔ (usage d files).value = Metric.unknown := by
  refine ⟨fun hboth => by_contra fun hknown => ?_, swapUsage_of_unknown d files⟩
  have hle := (swapUsage_of_known d files hknown).2
  rw [value_usage] at hknown hle
  obtain ⟨n, hn⟩ := Metric.exists_of_known_reading hknown
  have hnonneg := Metric.ofAmount_nonneg n
  rw [hboth, hn, Metric.unknown] at hle
  omega

end Unified

namespace Legacy

variable (d : ControlDirectory) (files : Files) (hostMemory hostSwap : Nat)

/-- Whether the limits leave room for swap: that on memory is above zero, and that on both is above
    it. -/
def LeavesRoom : Prop :=
  0 < (limit d files hostMemory).value ∧
    (limit d files hostMemory).value < (swapLimit d files hostMemory hostSwap).value

/-- Limits leave room for swap only by a limit on both that is chosen, in a group that swaps. -/
theorem leavesRoom_iff : LeavesRoom d files hostMemory hostSwap ↔
    0 < (limit d files hostMemory).value ∧ ∃ n,
      chosenBoth d files hostMemory hostSwap = some (.value n) ∧ ¬ Swapless d files ∧
      (limit d files hostMemory).value < Metric.ofAmount n := by
  refine and_congr_right fun hpos => ?_
  constructor
  · intro hlt
    rcases swapLimit_cases d files hostMemory hostSwap with
      hunknown | hmemory | ⟨n, hchosen, hswap, hvalue⟩
    · rw [hunknown, Metric.unknown] at hlt
      omega
    · exact absurd hlt (Int.not_lt.2 (Int.le_of_eq hmemory))
    · exact ⟨n, hchosen, hswap, hvalue ▸ hlt⟩
  · rintro ⟨n, hchosen, hswap, hlt⟩
    rw [value_swapLimit_eq, hchosen]
    simpa only [if_neg hswap] using hlt

/-- Without a limit on both that can be read, or without swapping, there is no room for swap. -/
theorem not_leavesRoom
    (h : (∃ bound error,
        d.readLimit files "memory.memsw.limit_in_bytes" bound = .error error) ∨
      d.readNumber files "memory.swappiness" = .ok 0) :
    ¬ LeavesRoom d files hostMemory hostSwap := by
  rw [leavesRoom_iff]
  rintro ⟨-, n, hchosen, hswap, -⟩
  rcases h with ⟨bound, error, hread⟩ | hread
  · have hstated : d.stated files "memory.memsw.limit_in_bytes" = none := by
      have hcut := d.readLimit_eq_cut files "memory.memsw.limit_in_bytes" bound
      rw [hread] at hcut
      exact Option.map_eq_none_iff.1 hcut.symm
    rw [chosenBoth, hstated] at hchosen
    cases hchosen
  · refine hswap ?_
    rw [Swapless, ControlDirectory.number, ControlDirectory.value_observe, hread]
    rfl

variable {d files hostMemory hostSwap}

theorem swapUsage_of_room (h : LeavesRoom d files hostMemory hostSwap) :
    (swapUsage d files hostMemory hostSwap).value =
      Metric.ofReading (d.readNumber files "memory.memsw.usage_in_bytes").toOption := by
  have hboth := Int.lt_trans h.1 h.2
  rw [swapUsage, Logged.value_bind, Logged.value_bind, if_pos ⟨hboth, h.1, h.2⟩,
    ControlDirectory.value_numberMetric]

theorem swapUsage_of_no_room (h : ¬ LeavesRoom d files hostMemory hostSwap) :
    (swapUsage d files hostMemory hostSwap).value = (usage d files).value := by
  rw [swapUsage, Logged.value_bind, Logged.value_bind, if_neg fun hroom => h hroom.2]

end Legacy

/-- The memory and swap in use, for all contents of the files and all that the host has. In version
    2 it is unknown exactly if the memory in use is, and else that and the swap in use together,
    which is not less. In version 1 it is what its own file tells if the limit on memory is above
    zero and that on both above it, and else the memory in use: so it is where the limit on both
    cannot be read or the group does not swap. -/
theorem swapUsage_consistent (d : ControlDirectory) (files : Files) (hostMemory hostSwap : Nat) :
    let memory (version : Version) := (usage version d files).value
    let both (version : Version) := (swapUsage version d files hostMemory hostSwap).value
    let limit := (limit .v1 d files hostMemory).value
    let swapLimit := (swapLimit .v1 d files hostMemory hostSwap).value
    (both .v2 = Metric.unknown ↔ memory .v2 = Metric.unknown) ∧
    (memory .v2 ≠ Metric.unknown →
      both .v2 = min Metric.greatest (memory .v2 + Unified.swapInUse d files) ∧
      memory .v2 ≤ both .v2) ∧
    (0 < limit ∧ limit < swapLimit →
      both .v1 = Metric.ofReading (d.readNumber files "memory.memsw.usage_in_bytes").toOption) ∧
    (¬ (0 < limit ∧ limit < swapLimit) → both .v1 = memory .v1) ∧
    ((∃ bound error, d.readLimit files "memory.memsw.limit_in_bytes" bound = .error error) ∨
      d.readNumber files "memory.swappiness" = .ok 0 → both .v1 = memory .v1) := by
  intro memory both limit swapLimit
  exact ⟨Unified.swapUsage_unknown_iff d files, Unified.swapUsage_of_known d files,
    Legacy.swapUsage_of_room, Legacy.swapUsage_of_no_room,
    fun hcase => Legacy.swapUsage_of_no_room
      (Legacy.not_leavesRoom d files hostMemory hostSwap hcase)⟩

/-- A group with a limit on both above that on memory, and an ancestor with lower ones. -/
def withUsage (swappiness : String) : Files
  | "cg/memory.limit_in_bytes" => .file (Text.toBytes "100\n")
  | "cg/memory.memsw.limit_in_bytes" => .file (Text.toBytes "300\n")
  | "cg/memory.swappiness" => .file (Text.toBytes swappiness)
  | "cg/memory.usage_in_bytes" => .file (Text.toBytes "40\n")
  | "cg/memory.memsw.usage_in_bytes" => .file (Text.toBytes "70\n")
  | "cg/memory.current" => .file (Text.toBytes "9223372036854775800\n")
  | "cg/memory.swap.current" => .file (Text.toBytes "1000\n")
  | "cg/memory.stat" =>
    .file (Text.toBytes "hierarchical_memory_limit 50\nhierarchical_memsw_limit 60\n")
  | _ => .failed .missing

/-- With swapping there is room for swap, and without there is not. The sum stops at the greatest
    metric. -/
theorem swapUsage_consistent_swapping :
    let d : ControlDirectory := ⟨⟨"/", "cg", "/"⟩, 1024⟩
    let both (version : Version) (swappiness : String) :=
      (swapUsage version d (withUsage swappiness) 1000 500).value
    (usage .v2 d (withUsage "60\n")).value ≠ Metric.unknown ∧ both .v2 "60\n" = Metric.greatest ∧
    (limit .v1 d (withUsage "60\n") 1000).value = 100 ∧
    (swapLimit .v1 d (withUsage "60\n") 1000 500).value = 300 ∧ both .v1 "60\n" = 70 ∧
    d.readNumber (withUsage "0\n") "memory.swappiness" = .ok 0 ∧ both .v1 "0\n" = 40 := by
  intro d both
  obtain ⟨-, hsum, hroom, -, -⟩ := swapUsage_consistent d (withUsage "60\n") 1000 500
  obtain ⟨-, -, -, -, hplain⟩ := swapUsage_consistent d (withUsage "0\n") 1000 500
  have hknown : (usage .v2 d (withUsage "60\n")).value ≠ Metric.unknown := by decide +kernel
  have hlimit : (limit .v1 d (withUsage "60\n") 1000).value = 100 := by decide +kernel
  have hswapLimit : (swapLimit .v1 d (withUsage "60\n") 1000 500).value = 300 := by decide +kernel
  have hread : d.readNumber (withUsage "0\n") "memory.swappiness" = .ok 0 := by decide +kernel
  have hcondition : 0 < (limit .v1 d (withUsage "60\n") 1000).value ∧
      (limit .v1 d (withUsage "60\n") 1000).value <
        (swapLimit .v1 d (withUsage "60\n") 1000 500).value := by
    rw [hlimit, hswapLimit]
    decide
  exact ⟨hknown, (hsum hknown).1.trans (by decide +kernel), hlimit, hswapLimit,
    (hroom hcondition).trans (by decide +kernel), hread,
    (hplain (Or.inr hread)).trans (by decide +kernel)⟩

end Memory

end CgroupLimits
