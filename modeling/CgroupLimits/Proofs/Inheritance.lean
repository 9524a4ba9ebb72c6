import CgroupLimits.Proofs.Ceiling

/-! Own limits before inherited ones, and what follows from the preference.

    A limit of version 1 is the group's own one as soon as the ceiling leaves it, also where an
    ancestor has a lower one. Two things that hold of limits with one source hold therefore with an
    exception. A higher ceiling changes no limit that is known already, unless it uncovers an own
    limit in place of the inherited one (`Uncovers`). And the limit on memory and swap together is
    not below that on memory, unless the one is inherited and the other, the group's own, is higher
    (`Undercut`). Both exceptions are exact. -/

namespace CgroupLimits

/-! ### Two ceilings -/

theorem Metric.exists_of_known {reading : Option Limit} (h : ofLimitReading reading ≠ unknown) :
    ∃ n, reading = some (.value n) := by
  rcases reading with _ | n | _
  · exact absurd rfl h
  · exact ⟨n, rfl⟩
  · exact absurd rfl h

/-- Under a higher bound the same limit is chosen, or else an own one that the lower bound hid. -/
theorem Limit.prefer_higher {low high m : Nat} {own inherited : Limit} (hle : low ≤ high)
    (h : own.prefer low inherited = .value m) :
    own.prefer high inherited = .value m ∨
      inherited = .value m ∧ ∃ n, own = .value n ∧ low ≤ n ∧ n < high := by
  obtain ⟨hm, rfl | ⟨hown, hinherited⟩⟩ := prefer_eq_value_iff.1 h
  · exact Or.inl (prefer_of_own (cut_of_lt (Nat.lt_of_lt_of_le hm hle)))
  · cases hhigh : own.cut high with
    | unlimited =>
      have hm' : m < high := Nat.lt_of_lt_of_le hm hle
      exact Or.inl (prefer_eq_value_iff.2 ⟨hm', Or.inr ⟨hhigh, hinherited⟩⟩)
    | value n =>
      obtain ⟨rfl, hn⟩ := cut_eq_value_iff.1 hhigh
      refine Or.inr ⟨hinherited, n, rfl, Nat.not_lt.1 fun hlow => ?_, hn⟩
      rw [cut_of_lt hlow] at hown
      cases hown

/-- A file with a limit below one bound has the same below every higher one. -/
theorem ControlDirectory.limitMetric_higher {d : ControlDirectory} {files : Files}
    {name what : String} {low high : Nat} (hle : low ≤ high)
    (h : (d.limitMetric files name what low).value ≠ Metric.unknown) :
    (d.limitMetric files name what high).value = (d.limitMetric files name what low).value := by
  simp only [value_limitMetric, readLimit_eq_cut] at h ⊢
  obtain ⟨m, hm⟩ := Metric.exists_of_known h
  obtain ⟨own, hown, hcut⟩ := Option.map_eq_some_iff.1 hm
  obtain ⟨rfl, hlt⟩ := Limit.cut_eq_value_iff.1 hcut
  rw [hown, Option.map_some, Option.map_some, Limit.cut_of_lt hlt,
    Limit.cut_of_lt (Nat.lt_of_lt_of_le hlt hle)]

namespace Memory

/-- Whether `n` is the own limit on memory of a group of version 1, hidden by the lower of two
    ceilings and left by the higher. -/
def Uncovers (version : Version) (d : ControlDirectory) (files : Files) (low high n : Nat) : Prop :=
  version = .v1 ∧ ownLimit version d files = some (.value n) ∧ low ≤ n ∧ n < high

section Higher

variable {version : Version} {d : ControlDirectory} {files : Files} {low high : Nat}

theorem limit_higher (hle : low ≤ high) (hno : ¬ ∃ n, Uncovers version d files low high n)
    (hknown : (limit version d files low).value ≠ Metric.unknown) :
    (limit version d files high).value = (limit version d files low).value := by
  obtain hunknown | ⟨own, m, hown, hlow, hvalue⟩ := limit_cases version d files low
  · exact absurd hunknown hknown
  · rcases Limit.prefer_higher hle hlow with hhigh | ⟨hparent, n, rfl, hn⟩
    · rw [hvalue, value_limit_eq, hown, Option.map_some, hhigh]
      rfl
    · cases version with
      | v1 => exact absurd ⟨n, rfl, hown, hn⟩ hno
      | v2 => cases hparent

theorem Uncovers.limit_higher {n : Nat} (h : Uncovers version d files low high n)
    (hknown : (limit version d files low).value ≠ Metric.unknown) :
    (limit version d files high).value = Metric.ofAmount n ∧
      ((limit version d files low).value < (limit version d files high).value ∨
        (limit version d files low).value = Metric.greatest) := by
  obtain ⟨-, hown, hlow, hhigh⟩ := h
  have hvalue := limit_of_own hown hhigh
  obtain hunknown | ⟨_, m, -, hprefer, hvalue_low⟩ := limit_cases version d files low
  · exact absurd hunknown hknown
  · have hm : m < low := (Limit.prefer_eq_value_iff.1 hprefer).1
    refine ⟨hvalue, ?_⟩
    rw [hvalue, hvalue_low]
    simp only [Metric.ofAmount, Metric.greatest]
    omega

theorem softLimit_higher (hle : low ≤ high)
    (hknown : (softLimit version d files low).value ≠ Metric.unknown) :
    (softLimit version d files high).value = (softLimit version d files low).value := by
  cases version <;> exact ControlDirectory.limitMetric_higher hle hknown

end Higher

/-- A higher ceiling does not change a limit that is known under a lower one. The one exception is
    an own limit on memory that it uncovers while the known limit is that of an ancestor: the own
    one then takes its place and is higher. -/
theorem limits_under_higher_ceiling (version : Version) (d : ControlDirectory) (files : Files)
    {low high : Nat} (hle : low ≤ high) :
    let soft (bound : Nat) := (softLimit version d files bound).value
    let memory (bound : Nat) := (limit version d files bound).value
    (soft low ≠ Metric.unknown → soft high = soft low) ∧
    (memory low ≠ Metric.unknown →
      ((¬ ∃ n, Uncovers version d files low high n) → memory high = memory low) ∧
      ∀ n, Uncovers version d files low high n → memory high = Metric.ofAmount n ∧
        (memory low < memory high ∨ memory low = Metric.greatest)) := by
  intro soft memory
  refine ⟨softLimit_higher hle, fun hknown => ⟨fun hno => ?_, fun n huncovers => ?_⟩⟩
  · exact limit_higher hle hno hknown
  · exact huncovers.limit_higher hknown

/-- A group of version 1 with a limit of its own above that of an ancestor. -/
def ownAboveParent : Files
  | "cg/memory.limit_in_bytes" => .file (Text.toBytes "1000\n")
  | "cg/memory.stat" => .file (Text.toBytes "hierarchical_memory_limit 500\n")
  | _ => .failed .missing

/-- Up to the own limit the ceiling makes no difference. -/
theorem limits_under_higher_ceiling_covered :
    let d : ControlDirectory := ⟨⟨"/", "cg", "/"⟩, 1024⟩
    600 ≤ 1000 ∧ (limit .v1 d ownAboveParent 600).value ≠ Metric.unknown ∧
    (¬ ∃ n, Uncovers .v1 d ownAboveParent 600 1000 n) ∧
    (limit .v1 d ownAboveParent 1000).value = (limit .v1 d ownAboveParent 600).value := by
  intro d
  have hknown : (limit .v1 d ownAboveParent 600).value ≠ Metric.unknown := by
    decide +kernel
  have hown : ownLimit .v1 d ownAboveParent = some (.value 1000) := by decide
  have hno : ¬ ∃ n, Uncovers .v1 d ownAboveParent 600 1000 n := by
    rintro ⟨n, -, hn, -, hlt⟩
    obtain rfl : 1000 = n := Limit.value.inj (Option.some.inj (hown.symm.trans hn))
    exact absurd hlt (Nat.lt_irrefl _)
  exact ⟨by decide, hknown, hno,
    ((limits_under_higher_ceiling .v1 d ownAboveParent (by decide)).2 hknown).1 hno⟩

/-- Above the own limit it does: the limit of the ancestor, reported before, is replaced by the
    greater own one. -/
theorem parent_limit_replaced :
    let d : ControlDirectory := ⟨⟨"/", "cg", "/"⟩, 1024⟩
    let memory (bound : Nat) := (limit .v1 d ownAboveParent bound).value
    memory 600 = 500 ∧ memory 2000 = 1000 ∧
    ¬ (600 ≤ 2000 → memory 600 ≠ Metric.unknown → memory 2000 = memory 600) := by
  decide +kernel

end Memory

/-! ### Memory and swap together -/

namespace Limit

/-- Whether a limit is not above another one. -/
def AtMost : Limit → Limit → Prop
  | _, .unlimited => True
  | .unlimited, .value _ => False
  | .value m, .value n => m ≤ n

theorem AtMost.trans {l l' l'' : Limit} (h : l.AtMost l') (h' : l'.AtMost l'') : l.AtMost l'' := by
  cases l'' with
  | unlimited => cases l <;> trivial
  | value n =>
    cases l' with
    | unlimited => exact h'.elim
    | value k =>
      cases l with
      | unlimited => exact h.elim
      | value m => exact Nat.le_trans h h'

/-- A chosen limit is not above the own one if the inherited one is not. -/
theorem atMost_of_prefer {bound m : Nat} {own inherited : Limit}
    (h : own.prefer bound inherited = .value m)
    (hinherited : ∀ n, inherited = .value n → (value n).AtMost own) : (value m).AtMost own := by
  obtain ⟨-, rfl | ⟨-, hm⟩⟩ := prefer_eq_value_iff.1 h
  · exact Nat.le_refl m
  · exact hinherited m hm

end Limit

theorem Metric.ofAmount_le_ofAmount {m n : Nat} (h : m ≤ n) : ofAmount m ≤ ofAmount n := by
  simp only [ofAmount]
  omega

theorem Metric.unknown_le_ofAmount (n : Nat) : unknown ≤ ofAmount n :=
  Int.le_trans (by decide) (ofAmount_nonneg n)

namespace Memory

namespace Legacy

/-- What holds of the limits of a group in every hierarchy: swap only adds to memory, for the group
    and for its ancestors, and the ancestors' limits count the group's own. A limit that is not told
    is not compared. -/
structure Consistent (d : ControlDirectory) (files : Files) : Prop where
  own : ∀ memory ∈ d.stated files "memory.limit_in_bytes",
    ∀ both ∈ d.stated files "memory.memsw.limit_in_bytes", memory.AtMost both
  inherited : ∀ memory ∈ ancestral d files "hierarchical_memory_limit",
    ∀ both ∈ ancestral d files "hierarchical_memsw_limit", memory ≤ both
  memory : ∀ n ∈ ancestral d files "hierarchical_memory_limit",
    ∀ own ∈ d.stated files "memory.limit_in_bytes", (Limit.value n).AtMost own
  both : ∀ n ∈ ancestral d files "hierarchical_memsw_limit",
    ∀ own ∈ d.stated files "memory.memsw.limit_in_bytes", (Limit.value n).AtMost own

theorem inheritedLimit_eq_value_iff {d : ControlDirectory} {files : Files} {key : String}
    {n : Nat} : inheritedLimit d files key = .value n ↔ ancestral d files key = some n := by
  unfold inheritedLimit
  cases ancestral d files key with
  | none => exact ⟨nofun, nofun⟩
  | some m => simp

/-- A limit on both that is known is that on memory, or one that is chosen in a group that swaps. -/
theorem swapLimit_cases (d : ControlDirectory) (files : Files) (hostMemory hostSwap : Nat) :
    (swapLimit d files hostMemory hostSwap).value = Metric.unknown ∨
      (swapLimit d files hostMemory hostSwap).value = (limit d files hostMemory).value ∨
      ∃ n, chosenBoth d files hostMemory hostSwap = some (.value n) ∧ ¬ Swapless d files ∧
        (swapLimit d files hostMemory hostSwap).value = Metric.ofAmount n := by
  rw [value_swapLimit_eq]
  rcases chosenBoth d files hostMemory hostSwap with _ | n | _
  · exact Or.inr (Or.inl rfl)
  · right
    by_cases hswap : Swapless d files
    · exact Or.inl (if_pos hswap)
    · exact Or.inr ⟨n, rfl, hswap, if_neg hswap⟩
  · exact Or.inl rfl

/-- Whether the limit on both is that of an ancestor, and the group's own limit on memory, which
    goes before that of the ancestor, is higher. -/
def Undercut (d : ControlDirectory) (files : Files) (hostMemory hostSwap : Nat) : Prop :=
  ∃ own inherited both,
    d.stated files "memory.limit_in_bytes" = some (.value own) ∧ own < hostMemory ∧
    d.stated files "memory.memsw.limit_in_bytes" = some both ∧
    both.cut (hostBoth hostMemory hostSwap) = .unlimited ∧
    ancestral d files "hierarchical_memsw_limit" = some inherited ∧
    inherited < own ∧ inherited < Numeral.max63 ∧ ¬ Swapless d files

section Together

variable {d : ControlDirectory} {files : Files} {hostMemory hostSwap : Nat}

/-- There the own limit is told for memory, and that of the ancestor for both. -/
theorem Undercut.told (h : Undercut d files hostMemory hostSwap) :
    ∃ own inherited, d.stated files "memory.limit_in_bytes" = some (.value own) ∧
      ancestral d files "hierarchical_memsw_limit" = some inherited ∧
      inherited < own ∧ inherited < Numeral.max63 ∧
      (limit d files hostMemory).value = Metric.ofAmount own ∧
      (swapLimit d files hostMemory hostSwap).value = inherited := by
  obtain ⟨own, n, both, hown, hlt, hboth, hcut, hn, hnown, hnmax, hswap⟩ := h
  have hbound : n < hostBoth hostMemory hostSwap := by
    simp only [hostBoth, Numeral.max63, Numeral.max64] at hnmax ⊢
    omega
  have hchosen : chosenBoth d files hostMemory hostSwap = some (.value n) := by
    rw [chosenBoth, hboth, Option.map_some, Limit.prefer_of_cut hcut,
      inheritedLimit_eq_value_iff.2 hn, Limit.cut_of_lt hbound]
  have hexact : Metric.ofAmount n = n := by
    simp only [Metric.ofAmount, Metric.greatest]
    omega
  have hmemory : (Memory.limit .v1 d files hostMemory).value = Metric.ofAmount own :=
    limit_of_own hown hlt
  refine ⟨own, n, hown, hn, hnown, hnmax, hmemory, ?_⟩
  rw [value_swapLimit_eq, hchosen, ← hexact]
  exact if_neg hswap

theorem Undercut.swapLimit_lt (h : Undercut d files hostMemory hostSwap) :
    (swapLimit d files hostMemory hostSwap).value ≠ Metric.unknown ∧
      (swapLimit d files hostMemory hostSwap).value < (limit d files hostMemory).value := by
  obtain ⟨own, n, -, -, hnown, hnmax, hmemory, hboth⟩ := h.told
  rw [hmemory, hboth]
  simp only [Metric.unknown, Metric.ofAmount, Metric.greatest]
  omega

namespace Consistent

variable (h : Consistent d files)

include h

/-- The own limit on both is not below any limit on memory that is told. -/
theorem limit_le_of_own {n : Nat}
    (hboth : d.stated files "memory.memsw.limit_in_bytes" = some (.value n)) :
    (limit d files hostMemory).value ≤ Metric.ofAmount n := by
  show (Memory.limit .v1 d files hostMemory).value ≤ _
  rcases limit_cases .v1 d files hostMemory with hvalue | ⟨own, m, hown, hprefer, hvalue⟩
  · rw [hvalue]
    exact Metric.unknown_le_ofAmount n
  · rw [hvalue]
    have hm : (Limit.value m).AtMost own := Limit.atMost_of_prefer hprefer fun k hk =>
      h.memory k (inheritedLimit_eq_value_iff.1 hk) own hown
    exact Metric.ofAmount_le_ofAmount (hm.trans (h.own own hown _ hboth))

/-- Nor is that of an ancestor, if it is not below what the own limit on memory is told as. -/
theorem limit_le_of_inherited {n : Nat}
    (hn : ancestral d files "hierarchical_memsw_limit" = some n)
    (hno : ∀ own, d.stated files "memory.limit_in_bytes" = some (.value own) →
      own < hostMemory → min own Numeral.max63 ≤ n) :
    (limit d files hostMemory).value ≤ Metric.ofAmount n := by
  show (Memory.limit .v1 d files hostMemory).value ≤ _
  rcases limit_cases .v1 d files hostMemory with hvalue | ⟨own, m, hown, hprefer, hvalue⟩
  · rw [hvalue]
    exact Metric.unknown_le_ofAmount n
  · rw [hvalue]
    obtain ⟨hlt, rfl | ⟨-, hm⟩⟩ := Limit.prefer_eq_value_iff.1 hprefer
    · have hleast := hno m hown hlt
      simp only [Metric.ofAmount, Metric.greatest]
      omega
    · exact Metric.ofAmount_le_ofAmount (h.inherited m (inheritedLimit_eq_value_iff.1 hm) n hn)

theorem limit_le_of_chosen {n : Nat} (hswap : ¬ Swapless d files)
    (hchosen : chosenBoth d files hostMemory hostSwap = some (.value n))
    (hno : ¬ Undercut d files hostMemory hostSwap) :
    (limit d files hostMemory).value ≤ Metric.ofAmount n := by
  obtain ⟨both, hboth, hprefer⟩ := Option.map_eq_some_iff.1 hchosen
  obtain ⟨-, rfl | ⟨hcut, hinherited⟩⟩ := Limit.prefer_eq_value_iff.1 hprefer
  · exact h.limit_le_of_own hboth
  · have hn := inheritedLimit_eq_value_iff.1 hinherited
    refine h.limit_le_of_inherited hn fun own hown hlt => Nat.not_lt.1 fun hless => hno ?_
    have hless : n < own ∧ n < Numeral.max63 := Nat.lt_min.1 hless
    exact ⟨own, n, both, hown, hlt, hboth, hcut, hn, hless.1, hless.2, hswap⟩

theorem limit_le_swapLimit_iff :
    ((swapLimit d files hostMemory hostSwap).value = Metric.unknown ∨
      (limit d files hostMemory).value ≤ (swapLimit d files hostMemory hostSwap).value) ↔
      ¬ Undercut d files hostMemory hostSwap := by
  constructor
  · rintro (hunknown | hle) hundercut
    · exact hundercut.swapLimit_lt.1 hunknown
    · exact Int.not_lt.2 hle hundercut.swapLimit_lt.2
  · intro hno
    rcases swapLimit_cases d files hostMemory hostSwap with
      hunknown | hmemory | ⟨n, hchosen, hswap, hvalue⟩
    · exact Or.inl hunknown
    · exact Or.inr (Int.le_of_eq hmemory.symm)
    · rw [hvalue]
      exact Or.inr (h.limit_le_of_chosen hswap hchosen hno)

end Consistent

end Together

end Legacy

namespace Unified

/-- Swap only adds to the limit on memory. -/
theorem limit_le_swapLimit (d : ControlDirectory) (files : Files) (hostMemory : Nat) :
    (swapLimit d files hostMemory).value = Metric.unknown ∨
      (limit d files hostMemory).value ≤ (swapLimit d files hostMemory).value := by
  by_cases hboth : ∃ memory swap,
      d.readLimit files "memory.max" hostMemory = .ok (.value memory) ∧
      d.readLimit files "memory.swap.max" Numeral.max64 = .ok (.value swap)
  · obtain ⟨memory, swap, hmemory, hswap⟩ := hboth
    right
    rw [swapLimit_of_both hmemory hswap, value_limit, hmemory]
    exact Metric.ofAmount_le_ofAmount (Nat.le_add_right memory swap)
  · rcases swapLimit_of_not_both hboth with h | h
    · exact Or.inl h
    · exact Or.inr (Int.le_of_eq h.symm)

end Unified

/-- The limit on memory and swap together is unknown or not below that on memory: in version 2
    always, in version 1 for consistent limits except where the one is undercut by the other. There
    the own limit is told for memory, cut off at 63 bits, and that of the ancestor for both. -/
theorem swapLimit_atLeast_limit (d : ControlDirectory) (files : Files) (hostMemory hostSwap : Nat) :
    ((swapLimit .v2 d files hostMemory hostSwap).value = Metric.unknown ∨
      (limit .v2 d files hostMemory).value ≤ (swapLimit .v2 d files hostMemory hostSwap).value) ∧
    (Legacy.Consistent d files →
      ((swapLimit .v1 d files hostMemory hostSwap).value = Metric.unknown ∨
        (limit .v1 d files hostMemory).value ≤
          (swapLimit .v1 d files hostMemory hostSwap).value ↔
        ¬ Legacy.Undercut d files hostMemory hostSwap)) ∧
    (Legacy.Undercut d files hostMemory hostSwap →
      ∃ own inherited, d.stated files "memory.limit_in_bytes" = some (.value own) ∧
        Legacy.ancestral d files "hierarchical_memsw_limit" = some inherited ∧
        (limit .v1 d files hostMemory).value = Metric.ofAmount own ∧
        (swapLimit .v1 d files hostMemory hostSwap).value = inherited) := by
  refine ⟨Unified.limit_le_swapLimit d files hostMemory, fun h => h.limit_le_swapLimit_iff, ?_⟩
  intro hundercut
  obtain ⟨own, n, hown, hn, -, -, hmemory, hboth⟩ := hundercut.told
  exact ⟨own, n, hown, hn, hmemory, hboth⟩

/-- A group of version 1 with a limit on memory above those of an ancestor, and with a limit on
    memory and swap. -/
def withBoth (both : String) : Files
  | "cg/memory.limit_in_bytes" => .file (Text.toBytes "100\n")
  | "cg/memory.memsw.limit_in_bytes" => .file (Text.toBytes both)
  | "cg/memory.stat" =>
    .file (Text.toBytes "hierarchical_memory_limit 50\nhierarchical_memsw_limit 60\n")
  | _ => .failed .missing

theorem withBoth_consistent {d : ControlDirectory} {both : String} {n : Nat}
    (hmemory : d.stated (withBoth both) "memory.limit_in_bytes" = some (.value 100))
    (hboth : d.stated (withBoth both) "memory.memsw.limit_in_bytes" = some (.value n))
    (hparent : Legacy.ancestral d (withBoth both) "hierarchical_memory_limit" = some 50)
    (hparentBoth : Legacy.ancestral d (withBoth both) "hierarchical_memsw_limit" = some 60)
    (hn : 100 ≤ n) : Legacy.Consistent d (withBoth both) where
  own := by
    rw [hmemory, hboth]
    rintro _ ⟨⟩ _ ⟨⟩
    exact hn
  inherited := by
    rw [hparent, hparentBoth]
    rintro _ ⟨⟩ _ ⟨⟩
    decide
  memory := by
    rw [hparent, hmemory]
    rintro _ ⟨⟩ _ ⟨⟩
    exact (by decide : 50 ≤ 100)
  both := by
    rw [hparentBoth, hboth]
    rintro _ ⟨⟩ _ ⟨⟩
    exact Nat.le_trans (by decide) hn

/-- Where the own limits are both chosen, they are in order; where the host has less than the own
    limit on both, the limits told are those of the group and of the ancestor. -/
theorem swapLimit_atLeast_limit_own :
    let d : ControlDirectory := ⟨⟨"/", "cg", "/"⟩, 1024⟩
    Legacy.Consistent d (withBoth "200\n") ∧ ¬ Legacy.Undercut d (withBoth "200\n") 1000 0 ∧
    ((swapLimit .v1 d (withBoth "200\n") 1000 0).value = Metric.unknown ∨
      (limit .v1 d (withBoth "200\n") 1000).value ≤
        (swapLimit .v1 d (withBoth "200\n") 1000 0).value) ∧
    Legacy.Undercut d (withBoth "200\n") 150 0 ∧
    (limit .v1 d (withBoth "200\n") 150).value = 100 ∧
    (swapLimit .v1 d (withBoth "200\n") 150 0).value = 60 := by
  intro d
  have hboth : d.stated (withBoth "200\n") "memory.memsw.limit_in_bytes" = some (.value 200) := by
    decide +kernel
  have hmemory : d.stated (withBoth "200\n") "memory.limit_in_bytes" = some (.value 100) := by
    decide +kernel
  have hparent : Legacy.ancestral d (withBoth "200\n") "hierarchical_memsw_limit" = some 60 := by
    decide +kernel
  have hconsistent : Legacy.Consistent d (withBoth "200\n") :=
    withBoth_consistent hmemory hboth (by decide +kernel) hparent (by decide)
  have hno : ¬ Legacy.Undercut d (withBoth "200\n") 1000 0 := by
    rintro ⟨own, n, both, -, -, hstated, hcut, -⟩
    obtain rfl : Limit.value 200 = both := Option.some.inj (hboth.symm.trans hstated)
    rw [Limit.cut_of_lt (by decide)] at hcut
    cases hcut
  have hundercut : Legacy.Undercut d (withBoth "200\n") 150 0 :=
    ⟨100, 60, .value 200, hmemory, by decide, hboth, Limit.cut_of_le (by decide), hparent,
      by decide, by decide, by decide +kernel⟩
  obtain ⟨own, n, hown, hn, hlimit, hswap⟩ :=
    (swapLimit_atLeast_limit d (withBoth "200\n") 150 0).2.2 hundercut
  obtain ⟨rfl⟩ : Limit.value 100 = .value own := Option.some.inj (hmemory.symm.trans hown)
  obtain rfl : 60 = n := Option.some.inj (hparent.symm.trans hn)
  exact ⟨hconsistent, hno,
    ((swapLimit_atLeast_limit d (withBoth "200\n") 1000 0).2.1 hconsistent).2 hno,
    hundercut, hlimit, hswap⟩

/-- With no own limit on memory and swap below what the host has, that of the ancestor stands, and
    is below the own limit on memory. -/
theorem inherited_swapLimit_below_own :
    let d : ControlDirectory := ⟨⟨"/", "cg", "/"⟩, 1024⟩
    let files := withBoth "9223372036854771712\n"
    let memory := (limit .v1 d files 1000).value
    let both := (swapLimit .v1 d files 1000 0).value
    memory = 100 ∧ both = 60 ∧
    ¬ (Legacy.Consistent d files → both = Metric.unknown ∨ memory ≤ both) := by
  intro d files memory both
  have hmemory : memory = 100 := by decide +kernel
  have hboth : both = 60 := by decide +kernel
  have hconsistent : Legacy.Consistent d files :=
    withBoth_consistent (n := 9223372036854771712) (by decide +kernel) (by decide +kernel)
      (by decide +kernel) (by decide +kernel) (by decide)
  refine ⟨hmemory, hboth, fun h => ?_⟩
  have hclaim := h hconsistent
  rw [hmemory, hboth] at hclaim
  exact absurd hclaim (by decide)

end Memory

end CgroupLimits
