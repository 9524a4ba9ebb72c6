import CgroupLimits.Memory
import CgroupLimits.Proofs.Readings

/-! Limits as the files state them, and what a bound leaves of them.

    A file states one limit, whatever the bound it is read with; the bound takes away what is not
    below it and changes nothing else (`readLimit_eq_cut`). A limit of version 1 has two sources:
    the group's own file and the statistics about its ancestors. `Limit.prefer` is the choice
    between them, made under the bound: the own limit wherever the bound leaves it, else the
    inherited one. -/

namespace CgroupLimits

namespace Limit

/-- What a bound leaves of a limit. -/
def cut (bound : Nat) : Limit → Limit
  | .value n => if n < bound then .value n else .unlimited
  | .unlimited => .unlimited

/-- The own limit if the bound leaves it, else what the bound leaves of the inherited one. -/
def prefer (bound : Nat) (own inherited : Limit) : Limit :=
  match own.cut bound with
  | .value n => .value n
  | .unlimited => inherited.cut bound

variable {bound n : Nat} {own inherited : Limit}

theorem cut_of_lt (h : n < bound) : (value n).cut bound = .value n := if_pos h

theorem cut_of_le (h : bound ≤ n) : (value n).cut bound = .unlimited := if_neg (Nat.not_lt.2 h)

theorem cut_eq_value_iff {l : Limit} : l.cut bound = .value n ↔ l = .value n ∧ n < bound := by
  cases l with
  | unlimited => exact ⟨nofun, fun h => nomatch h.1⟩
  | value m =>
    by_cases hm : m < bound
    · rw [cut_of_lt hm]
      exact ⟨fun h => ⟨h, value.inj h ▸ hm⟩, fun h => h.1⟩
    · rw [cut_of_le (Nat.not_lt.1 hm)]
      exact ⟨nofun, fun h => absurd (value.inj h.1 ▸ h.2) hm⟩

theorem prefer_of_own (h : own.cut bound = .value n) : own.prefer bound inherited = .value n := by
  rw [prefer, h]

theorem prefer_of_cut (h : own.cut bound = .unlimited) :
    own.prefer bound inherited = inherited.cut bound := by
  rw [prefer, h]

theorem prefer_unlimited (own : Limit) : own.prefer bound .unlimited = own.cut bound := by
  unfold prefer
  cases own.cut bound <;> rfl

theorem prefer_self (l : Limit) : l.prefer bound l = l.cut bound := by
  unfold prefer
  cases hl : l.cut bound <;> rfl

/-- A limit that is chosen is below the bound and comes from one of the two sources, from the
    inherited one only if the bound leaves nothing of the own one. -/
theorem prefer_eq_value_iff : own.prefer bound inherited = .value n ↔
    n < bound ∧ (own = .value n ∨ own.cut bound = .unlimited ∧ inherited = .value n) := by
  cases hown : own.cut bound with
  | value m =>
    obtain ⟨rfl, hm⟩ := cut_eq_value_iff.1 hown
    rw [prefer_of_own hown]
    constructor
    · intro h
      exact ⟨value.inj h ▸ hm, Or.inl h⟩
    · rintro ⟨-, h | ⟨h, -⟩⟩
      · exact h
      · cases h
  | unlimited =>
    rw [prefer_of_cut hown, cut_eq_value_iff]
    constructor
    · rintro ⟨h, hn⟩
      exact ⟨hn, Or.inr ⟨rfl, h⟩⟩
    · rintro ⟨hn, rfl | ⟨-, h⟩⟩
      · rw [cut_of_lt hn] at hown
        cases hown
      · exact ⟨h, hn⟩

end Limit

/-! ### What a file states -/

/-- A word as a limit, whatever the bound. -/
def ControlLine.stated (path w : String) : Except ControlError Limit :=
  if w = "max" then .ok .unlimited
  else if w.toList.head? = some '-' then (signed path w).map fun _ => .unlimited
  else (number path w).map .value

theorem ControlLine.limit_eq_cut (bound : Nat) (path : String) :
    limit bound path = fun w => Limit.cut bound <$> stated path w := by
  funext w
  unfold limit stated
  split
  · rfl
  · split
    · cases signed path w <;> rfl
    · cases number path w <;> rfl

namespace ControlDirectory

/-- A reading of a file's only word that succeeds has found one, which every reading of it reads. -/
theorem exists_word_of_readLine {α : Type} {d : ControlDirectory} {files : Files} {name : String}
    {reader : String → String → Except ControlError α} {a : α}
    (h : (d.readLine files name fun path line => ControlLine.word path line >>= reader path) =
      .ok a) :
    ∃ path w, reader path w = .ok a ∧
      ∀ {β : Type} (reader' : String → String → Except ControlError β),
        (d.readLine files name fun path line => ControlLine.word path line >>= reader' path) =
          reader' path w := by
  obtain ⟨path, hpath, h⟩ := exists_of_bind_ok h
  obtain ⟨line, hline, h⟩ := exists_of_bind_ok h
  obtain ⟨w, hw, h⟩ := exists_of_bind_ok h
  refine ⟨path, w, h, fun reader' => ?_⟩
  simp only [readLine, hpath, hline, hw, bind, Except.bind]

/-- The limit that a file states, if it states one. -/
def stated (d : ControlDirectory) (files : Files) (name : String) : Option Limit :=
  (d.readLine files name fun path line =>
    ControlLine.word path line >>= ControlLine.stated path).toOption

theorem readLimit_eq_cut (d : ControlDirectory) (files : Files) (name : String) (bound : Nat) :
    (d.readLimit files name bound).toOption = (d.stated files name).map (Limit.cut bound) := by
  have hmap : d.readLimit files name bound = Limit.cut bound <$> d.readLine files name
      fun path line => ControlLine.word path line >>= ControlLine.stated path := by
    simp only [readLimit, readLine, ControlLine.limit_eq_cut, map_bind]
  rw [hmap, stated]
  cases d.readLine files name _ <;> rfl

theorem value_limit (d : ControlDirectory) (files : Files) (name what : String) (bound : Nat) :
    (d.limit files name what bound).value = (d.readLimit files name bound).toOption :=
  value_observe _ _ _

theorem value_limitMetric (d : ControlDirectory) (files : Files) (name what : String)
    (bound : Nat) : (d.limitMetric files name what bound).value =
      Metric.ofLimitReading (d.readLimit files name bound).toOption := by
  rw [← value_limit d files name what]
  rfl

theorem value_numberMetric (d : ControlDirectory) (files : Files) (name what : String) :
    (d.numberMetric files name what).value =
      Metric.ofReading (d.readNumber files name).toOption := by
  rw [numberMetric, Logged.value_map, number, value_observe]

end ControlDirectory

/-! ### The limits on memory -/

namespace Memory

namespace Legacy

/-- The amount that the statistics give for the ancestors under a key, if they give one. -/
def ancestral (d : ControlDirectory) (files : Files) (key : String) : Option Nat :=
  (d.readKey files "memory.stat" key).value.toOption

/-- The limit of the ancestors under a key, none if the statistics give no amount. -/
def inheritedLimit (d : ControlDirectory) (files : Files) (key : String) : Limit :=
  (ancestral d files key).elim .unlimited .value

theorem value_inherited_eq (d : ControlDirectory) (files : Files) (name key what : String)
    (bound : Nat) :
    (inherited d files name key what bound).value =
      (d.stated files name).map fun own => own.prefer bound (inheritedLimit d files key) := by
  unfold inherited
  rw [Logged.value_bind, ControlDirectory.value_limit, ControlDirectory.readLimit_eq_cut]
  cases d.stated files name with
  | none => rfl
  | some own =>
    simp only [Option.map_some]
    cases hown : own.cut bound with
    | value n => rw [Limit.prefer_of_own hown]; rfl
    | unlimited =>
      rw [Limit.prefer_of_cut hown, inheritedLimit, ancestral]
      simp only [Logged.value_bind, ControlDirectory.key, ControlDirectory.value_observe]
      cases (d.readKey files "memory.stat" key).value <;> rfl

/-- Whether the group does not swap, by its own account. -/
def Swapless (d : ControlDirectory) (files : Files) : Prop :=
  (d.number files "memory.swappiness" "Swappiness").value = some 0

instance (d : ControlDirectory) (files : Files) : Decidable (Swapless d files) :=
  inferInstanceAs (Decidable (_ = _))

/-- What the host has in memory and swap together, as far as 64 bits count. -/
def hostBoth (hostMemory hostSwap : Nat) : Nat := min (hostMemory + hostSwap) Numeral.max64

/-- The limit on both that is chosen, if the group's own file states one at all. -/
def chosenBoth (d : ControlDirectory) (files : Files) (hostMemory hostSwap : Nat) : Option Limit :=
  (d.stated files "memory.memsw.limit_in_bytes").map fun own =>
    own.prefer (hostBoth hostMemory hostSwap) (inheritedLimit d files "hierarchical_memsw_limit")

/-- The limit on both by what is chosen: nothing, no limit, or a limit, for which that on memory
    stands in a group that does not swap. -/
theorem value_swapLimit_eq (d : ControlDirectory) (files : Files) (hostMemory hostSwap : Nat) :
    (swapLimit d files hostMemory hostSwap).value =
      match chosenBoth d files hostMemory hostSwap with
      | none => (limit d files hostMemory).value
      | some .unlimited => Metric.unknown
      | some (.value n) =>
        if Swapless d files then (limit d files hostMemory).value else Metric.ofAmount n := by
  have hchosen : (inherited d files "memory.memsw.limit_in_bytes" "hierarchical_memsw_limit"
      "Memory and Swap Limit" (min (hostMemory + hostSwap) Numeral.max64)).value =
      chosenBoth d files hostMemory hostSwap := value_inherited_eq _ _ _ _ _ _
  rw [swapLimit, Logged.value_bind, hchosen]
  rcases chosenBoth d files hostMemory hostSwap with _ | n | _
  · rfl
  · simp only [Logged.value_bind]
    by_cases hswap : Swapless d files
    · rw [if_pos hswap, show _ = some 0 from hswap]
      rfl
    · rw [if_neg hswap]
      split
      · exact absurd ‹_› hswap
      · rfl
  · rfl

end Legacy

/-- The limit on memory that the group's own file states, if it states one. -/
def ownLimit (version : Version) (d : ControlDirectory) (files : Files) : Option Limit :=
  match version with
  | .v1 => d.stated files "memory.limit_in_bytes"
  | .v2 => d.stated files "memory.max"

/-- The limit on memory that the ancestors have; version 2 does not tell. -/
def parentLimit (version : Version) (d : ControlDirectory) (files : Files) : Limit :=
  match version with
  | .v1 => Legacy.inheritedLimit d files "hierarchical_memory_limit"
  | .v2 => .unlimited

theorem value_limit_eq (version : Version) (d : ControlDirectory) (files : Files) (bound : Nat) :
    (limit version d files bound).value = Metric.ofLimitReading
      ((ownLimit version d files).map fun own =>
        own.prefer bound (parentLimit version d files)) := by
  cases version with
  | v1 =>
    rw [limit, Legacy.limit, Logged.value_map, Legacy.value_inherited_eq]
    rfl
  | v2 =>
    rw [limit, Unified.limit, ControlDirectory.value_limitMetric,
      ControlDirectory.readLimit_eq_cut]
    simp only [ownLimit, parentLimit, Limit.prefer_unlimited]

theorem limit_of_own {version : Version} {d : ControlDirectory} {files : Files} {bound n : Nat}
    (hown : ownLimit version d files = some (.value n)) (hlt : n < bound) :
    (limit version d files bound).value = Metric.ofAmount n := by
  rw [value_limit_eq, hown, Option.map_some, Limit.prefer_of_own (Limit.cut_of_lt hlt)]
  rfl

/-- A limit on memory that is known is one that is chosen, in a group whose own file states one or
    states that there is none. -/
theorem limit_cases (version : Version) (d : ControlDirectory) (files : Files) (bound : Nat) :
    (limit version d files bound).value = Metric.unknown ∨
      ∃ own n, ownLimit version d files = some own ∧
        own.prefer bound (parentLimit version d files) = .value n ∧
        (limit version d files bound).value = Metric.ofAmount n := by
  rw [value_limit_eq]
  cases hown : ownLimit version d files with
  | none => exact Or.inl rfl
  | some own =>
    cases hchosen : own.prefer bound (parentLimit version d files) with
    | unlimited =>
      rw [Option.map_some, hchosen]
      exact Or.inl rfl
    | value n =>
      refine Or.inr ⟨own, n, rfl, hchosen, ?_⟩
      rw [Option.map_some, hchosen]
      rfl

end Memory

end CgroupLimits
