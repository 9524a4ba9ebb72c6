import CgroupLimits.Proofs.Bounds

/-! Limits below the ceiling that the host sets.

    A limit read with a bound is below it, whichever file or key it comes from; so the limits on
    memory are below the memory of the host. The limit on memory and swap together is below both
    together in version 1, where it is read as such. In version 2 it is a sum, and of the two
    parts only the one about memory is read with a bound: `Memory.SumReaches` says when that is
    too little. -/

namespace CgroupLimits

/-! ### Metrics and limits below a bound -/

/-- Whether a limit, if it is one, is below `bound`. -/
def Limit.Below (bound : Nat) : Limit → Prop
  | .value n => n < bound
  | .unlimited => True

namespace Limit

theorem below_cut (l : Limit) (bound : Nat) : (l.cut bound).Below bound := by
  cases l with
  | unlimited => trivial
  | value n =>
    by_cases hn : n < bound
    · rw [cut_of_lt hn]
      exact hn
    · rw [cut_of_le (Nat.not_lt.1 hn)]
      trivial

theorem below_prefer (own inherited : Limit) (bound : Nat) :
    (own.prefer bound inherited).Below bound := by
  cases hown : own.cut bound with
  | value n =>
    rw [prefer_of_own hown, ← hown]
    exact own.below_cut bound
  | unlimited =>
    rw [prefer_of_cut hown]
    exact inherited.below_cut bound

end Limit

namespace Metric

/-- Whether a metric is unknown or an amount below `bound`. -/
def Below (bound : Nat) (metric : Int) : Prop := metric = unknown ∨ 0 ≤ metric ∧ metric < bound

instance (bound : Nat) (metric : Int) : Decidable (Below bound metric) :=
  inferInstanceAs (Decidable (_ ∨ _))

theorem below_unknown (bound : Nat) : Below bound unknown := Or.inl rfl

theorem below_ofAmount_iff {bound n : Nat} :
    Below bound (ofAmount n) ↔ min n Numeral.max63 < bound := by
  constructor
  · rintro (h | ⟨-, hlt⟩)
    · exact absurd h (ofAmount_ne_unknown n)
    · simp only [ofAmount, greatest] at hlt
      omega
  · intro h
    refine Or.inr ⟨ofAmount_nonneg n, ?_⟩
    simp only [ofAmount, greatest]
    omega

theorem below_ofLimit {bound : Nat} {l : Limit} (h : l.Below bound) : Below bound (ofLimit l) := by
  cases l with
  | unlimited => exact below_unknown bound
  | value n => exact below_ofAmount_iff.2 (Nat.lt_of_le_of_lt (Nat.min_le_left _ _) h)

theorem below_ofLimitReading {bound : Nat} {reading : Option Limit}
    (h : ∀ l ∈ reading, l.Below bound) : Below bound (ofLimitReading reading) := by
  cases reading with
  | none => exact below_unknown bound
  | some l => exact below_ofLimit (h l rfl)

theorem ofLimitReading_le_greatest (reading : Option Limit) :
    ofLimitReading reading ≤ greatest := by
  rcases reading with _ | n | _
  · decide
  · exact ofAmount_le_greatest n
  · decide

/-- A metric below one bound is below every greater one, and below all amounts of 64 bits. -/
theorem Below.weaken {bound bound' : Nat} {metric : Int} (h : Below bound metric)
    (hle : bound ≤ bound') (hmetric : metric ≤ greatest) :
    Below (min bound' Numeral.max64) metric := by
  rcases h with h | ⟨hnonneg, hlt⟩
  · exact Or.inl h
  · right
    simp only [greatest, Numeral.max63, Numeral.max64] at hmetric ⊢
    omega

/-- The sum of two amounts, cut off once or three times. -/
theorem add_ofAmount (m n : Nat) : add (ofAmount m) (ofAmount n) = ofAmount (m + n) := by
  simp only [add, ofAmount, least, greatest, Numeral.max63]
  omega

end Metric

/-! ### Readings with a bound -/

namespace ControlDirectory

theorem limit_below (d : ControlDirectory) (files : Files) (name what : String) (bound : Nat) :
    ∀ l ∈ (d.limit files name what bound).value, l.Below bound := by
  intro l hl
  rw [value_limit, readLimit_eq_cut] at hl
  obtain ⟨own, -, rfl⟩ := Option.map_eq_some_iff.1 hl
  exact own.below_cut bound

theorem limitMetric_below (d : ControlDirectory) (files : Files) (name what : String)
    (bound : Nat) : Metric.Below bound (d.limitMetric files name what bound).value :=
  Metric.below_ofLimitReading (limit_below d files name what bound)

end ControlDirectory

/-! ### The memory controller -/

namespace Memory

namespace Legacy

/-- Neither the file nor the statistics give a limit at the bound or above it. -/
theorem inherited_below (d : ControlDirectory) (files : Files) (name key what : String)
    (bound : Nat) : ∀ l ∈ (inherited d files name key what bound).value, l.Below bound := by
  intro l hl
  rw [value_inherited_eq] at hl
  obtain ⟨own, -, rfl⟩ := Option.map_eq_some_iff.1 hl
  exact own.below_prefer _ bound

end Legacy

theorem limit_below (version : Version) (d : ControlDirectory) (files : Files) (bound : Nat) :
    Metric.Below bound (limit version d files bound).value := by
  cases version with
  | v1 => exact Metric.below_ofLimitReading (Legacy.inherited_below d files _ _ _ bound)
  | v2 => exact d.limitMetric_below files "memory.max" "Memory Limit" bound

theorem softLimit_below (version : Version) (d : ControlDirectory) (files : Files) (bound : Nat) :
    Metric.Below bound (softLimit version d files bound).value := by
  cases version with
  | v1 => exact d.limitMetric_below files "memory.soft_limit_in_bytes" "Memory Soft Limit" bound
  | v2 => exact d.limitMetric_below files "memory.low" "Memory Soft Limit" bound

/-- The limit on memory may stand for that on memory and swap. -/
theorem limit_below_sum (version : Version) (d : ControlDirectory) (files : Files)
    (hostMemory hostSwap : Nat) :
    Metric.Below (min (hostMemory + hostSwap) Numeral.max64)
      (limit version d files hostMemory).value := by
  refine (limit_below version d files hostMemory).weaken (Nat.le_add_right _ _) ?_
  cases version <;> exact Metric.ofLimitReading_le_greatest _

namespace Legacy

theorem swapLimit_below (d : ControlDirectory) (files : Files) (hostMemory hostSwap : Nat) :
    Metric.Below (min (hostMemory + hostSwap) Numeral.max64)
      (swapLimit d files hostMemory hostSwap).value := by
  have hmemory := limit_below_sum .v1 d files hostMemory hostSwap
  rw [value_swapLimit_eq]
  cases hchosen : chosenBoth d files hostMemory hostSwap with
  | none => exact hmemory
  | some l =>
    obtain ⟨own, -, rfl⟩ := Option.map_eq_some_iff.1 hchosen
    have hbelow := Metric.below_ofLimit (own.below_prefer
      (inheritedLimit d files "hierarchical_memsw_limit") (hostBoth hostMemory hostSwap))
    generalize own.prefer _ _ = chosen at hbelow ⊢
    cases chosen with
    | unlimited => exact hbelow
    | value n =>
      by_cases hswap : Swapless d files
      · simp only [if_pos hswap]
        exact hmemory
      · simp only [if_neg hswap]
        exact hbelow

end Legacy

namespace Unified

theorem value_limit (d : ControlDirectory) (files : Files) (bound : Nat) :
    (limit d files bound).value =
      Metric.ofLimitReading (d.readLimit files "memory.max" bound).toOption :=
  d.value_limitMetric files "memory.max" "Memory Limit" bound

/-- Where both files have a limit, the limit on memory and swap together is their sum. -/
theorem swapLimit_of_both {d : ControlDirectory} {files : Files} {hostMemory memory swap : Nat}
    (hmemory : d.readLimit files "memory.max" hostMemory = .ok (.value memory))
    (hswap : d.readLimit files "memory.swap.max" Numeral.max64 = .ok (.value swap)) :
    (swapLimit d files hostMemory).value = Metric.ofAmount (memory + swap) := by
  have hlimit : (limit d files hostMemory).value = Metric.ofAmount memory := by
    rw [value_limit, hmemory]
    rfl
  simp only [swapLimit, Logged.value_bind, ControlDirectory.value_limit, hswap, Except.toOption,
    hlimit, Logged.value_pure]
  rw [if_neg (Metric.ofAmount_ne_unknown memory), Metric.add_ofAmount]

/-- Where one file has no limit, the sum is not taken. -/
theorem swapLimit_of_not_both {d : ControlDirectory} {files : Files} {hostMemory : Nat}
    (h : ¬ ∃ memory swap, d.readLimit files "memory.max" hostMemory = .ok (.value memory) ∧
      d.readLimit files "memory.swap.max" Numeral.max64 = .ok (.value swap)) :
    (swapLimit d files hostMemory).value = Metric.unknown ∨
      (swapLimit d files hostMemory).value = (limit d files hostMemory).value := by
  unfold swapLimit
  simp only [Logged.value_bind, ControlDirectory.value_limit]
  cases hswap : d.readLimit files "memory.swap.max" Numeral.max64 with
  | error error => exact Or.inr rfl
  | ok l =>
    cases l with
    | unlimited => exact Or.inl rfl
    | value swap =>
      left
      have hlimit : (limit d files hostMemory).value = Metric.unknown := by
        rw [value_limit]
        rcases hmemory : d.readLimit files "memory.max" hostMemory with error | memory | _
        · rfl
        · exact absurd ⟨memory, swap, hmemory, hswap⟩ h
        · rfl
      simp only [Except.toOption, Logged.value_bind, Logged.value_pure, if_pos hlimit]

end Unified

/-- Whether the limits of version 2 on memory and on swap add up to what the host has or more. -/
def SumReaches (version : Version) (d : ControlDirectory) (files : Files)
    (hostMemory hostSwap : Nat) : Prop :=
  version = .v2 ∧ hostMemory + hostSwap ≤ Numeral.max63 ∧ ∃ memory swap,
    d.readLimit files "memory.max" hostMemory = .ok (.value memory) ∧
    d.readLimit files "memory.swap.max" Numeral.max64 = .ok (.value swap) ∧
    hostMemory + hostSwap ≤ memory + swap

/-- Which limits stay below the ceiling of the host, for every content of the control files. The
    limits on memory always do. The limit on memory and swap together does unless it is a sum that
    reaches the ceiling, which is possible in version 2 alone, as it reads swap without a bound. -/
theorem limits_below (version : Version) (d : ControlDirectory) (files : Files)
    (bound hostMemory hostSwap : Nat) :
    Metric.Below bound (limit version d files bound).value ∧
    Metric.Below bound (softLimit version d files bound).value ∧
    (Metric.Below (min (hostMemory + hostSwap) Numeral.max64)
        (swapLimit version d files hostMemory hostSwap).value ↔
      ¬ SumReaches version d files hostMemory hostSwap) := by
  refine ⟨limit_below version d files bound, softLimit_below version d files bound, ?_⟩
  cases version with
  | v1 =>
    refine iff_of_true (Legacy.swapLimit_below d files hostMemory hostSwap) ?_
    rintro ⟨hversion, -⟩
    cases hversion
  | v2 =>
    by_cases hboth : ∃ memory swap,
        d.readLimit files "memory.max" hostMemory = .ok (.value memory) ∧
        d.readLimit files "memory.swap.max" Numeral.max64 = .ok (.value swap)
    · obtain ⟨memory, swap, hmemory, hswap⟩ := hboth
      have hsum : SumReaches .v2 d files hostMemory hostSwap ↔
          hostMemory + hostSwap ≤ Numeral.max63 ∧ hostMemory + hostSwap ≤ memory + swap := by
        simp only [SumReaches, hmemory, hswap, Except.ok.injEq, Limit.value.injEq]
        simp
      rw [hsum]
      show Metric.Below _ (Unified.swapLimit d files hostMemory).value ↔ _
      rw [Unified.swapLimit_of_both hmemory hswap, Metric.below_ofAmount_iff]
      simp only [Numeral.max63, Numeral.max64]
      omega
    · refine iff_of_true ?_ ?_
      · show Metric.Below _ (Unified.swapLimit d files hostMemory).value
        rcases Unified.swapLimit_of_not_both hboth with h | h
        · rw [h]
          exact Metric.below_unknown _
        · rw [h]
          exact limit_below_sum .v2 d files hostMemory hostSwap
      · rintro ⟨-, -, memory, swap, hmemory, hswap, -⟩
        exact hboth ⟨memory, swap, hmemory, hswap⟩

/-- The sum does reach it: 500 bytes of memory and 600 of swap on a host of 1000 bytes and no swap
    are a limit of 1100. -/
theorem swapLimit_reaches_host :
    let files : Files
      | "cg/memory.max" => .file (Text.toBytes "500\n")
      | "cg/memory.swap.max" => .file (Text.toBytes "600\n")
      | _ => .failed .missing
    let limit := (swapLimit .v2 ⟨⟨"/", "cg", "/"⟩, 1024⟩ files 1000 0).value
    limit = 1100 ∧ ¬ Metric.Below (min (1000 + 0) Numeral.max64) limit := by
  decide

end Memory

end CgroupLimits
