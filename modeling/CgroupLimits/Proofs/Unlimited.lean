import CgroupLimits.Host
import CgroupLimits.Proofs.Ceiling

/-! The number that stands for no limit in version 1, and when it is taken for a limit.

    Version 1 has no word for a limit that is not set: its files then hold the greatest signed
    amount of 64 bits, rounded down to whole pages. The program knows that number only by its being
    at or above what the host has. What the host has comes from the memory table, which may be
    missing, malformed or large beyond all memory, and each of the three limits is compared in its
    own way. The main result combines all these outcomes: the number is recognised in all three
    limits exactly if the memory of the host is known and, alone and with swap, not past it. -/

namespace CgroupLimits

/-! ### What the host has -/

namespace Host

/-- A total of the memory table, if the table tells. -/
def total? (files : Files) (procRoot key : String) : Option Nat :=
  (firstValue (amount key) key files (Path.join procRoot "meminfo")).toOption

theorem value_detectAmount (files : Files) (procRoot key : String) (level : Level) (what : String)
    (fallback : Nat) :
    (detectAmount files procRoot key level what fallback).value =
      (total? files procRoot key).getD fallback := by
  unfold detectAmount total?
  cases firstValue (amount key) key files (Path.join procRoot "meminfo") <;> rfl

theorem memory_detect (files : Files) (procRoot : String) (fallback : Nat) :
    (detect files procRoot fallback).value.memory =
      (total? files procRoot "MemTotal").getD Numeral.max64 :=
  value_detectAmount files procRoot "MemTotal" .warn "memory" Numeral.max64

theorem swap_detect (files : Files) (procRoot : String) (fallback : Nat) :
    (detect files procRoot fallback).value.swap = (total? files procRoot "SwapTotal").getD 0 :=
  value_detectAmount files procRoot "SwapTotal" .debug "swap" 0

end Host

/-! ### A number read as a limit -/

theorem ControlLine.stated_of_number {n : Nat} {path w : String} (h : number path w = .ok n) :
    stated path w = .ok (.value n) := by
  have hmax : w ≠ "max" := by
    rintro rfl
    cases h
  have hsign : w.toList.head? ≠ some '-' := by
    intro hhead
    obtain ⟨cs, hcs⟩ := List.head?_eq_some_iff.1 hhead
    have hdigit : Numeral.unsigned Numeral.max64 w = .error .invalidDigit := by
      simp [Numeral.unsigned, hcs, Numeral.magnitude, Numeral.digits, Numeral.digit?]
    rw [number, hdigit] at h
    cases h
  rw [stated, if_neg hmax, if_neg hsign, h]
  rfl

theorem ControlLine.limit_of_number {bound n : Nat} {path w : String}
    (h : number path w = .ok n) :
    limit bound path w = .ok (if n < bound then .value n else .unlimited) := by
  rw [limit_eq_cut]
  simp only [stated_of_number h]
  rfl

theorem ControlDirectory.readLimit_of_readNumber {d : ControlDirectory} {files : Files}
    {name : String} {n : Nat} (bound : Nat) (h : d.readNumber files name = .ok n) :
    d.readLimit files name bound = .ok (if n < bound then .value n else .unlimited) := by
  obtain ⟨path, w, hw, hreads⟩ := exists_word_of_readLine h
  rw [readLimit, hreads, ControlLine.limit_of_number hw]

theorem ControlDirectory.stated_of_readNumber {d : ControlDirectory} {files : Files}
    {name : String} {n : Nat} (h : d.readNumber files name = .ok n) :
    d.stated files name = some (.value n) := by
  obtain ⟨path, w, hw, hreads⟩ := exists_word_of_readLine h
  rw [stated, hreads, ControlLine.stated_of_number hw]
  rfl

/-! ### The number in place of a limit -/

namespace Memory

/-- What the kernel writes for no limit: the greatest signed amount in whole pages. -/
def noLimit (pageSize : Nat) : Nat := Numeral.max63 / pageSize * pageSize

theorem noLimit_le (pageSize : Nat) : noLimit pageSize ≤ Numeral.max63 := Nat.div_mul_le_self _ _

namespace Legacy

/-- The limits of a cgroup all hold one number, and none is inherited but that number. -/
structure HoldsOnly (n : Nat) (d : ControlDirectory) (files : Files) : Prop where
  memory : d.readNumber files "memory.limit_in_bytes" = .ok n
  both : d.readNumber files "memory.memsw.limit_in_bytes" = .ok n
  soft : d.readNumber files "memory.soft_limit_in_bytes" = .ok n
  inherited_memory : ∀ m,
    (d.readKey files "memory.stat" "hierarchical_memory_limit").value = .ok m → m = n
  inherited_both : ∀ m,
    (d.readKey files "memory.stat" "hierarchical_memsw_limit").value = .ok m → m = n

section HoldsOnly

variable {n : Nat} {d : ControlDirectory} {files : Files}

/-- The statistics do not change what the comparison with the bound gives. -/
theorem value_inherited {name key : String} (what : String) (bound : Nat)
    (hfile : d.readNumber files name = .ok n)
    (hstat : ∀ m, (d.readKey files "memory.stat" key).value = .ok m → m = n) :
    (inherited d files name key what bound).value =
      some (if n < bound then .value n else .unlimited) := by
  have hchosen : (Limit.value n).prefer bound (inheritedLimit d files key) =
      (Limit.value n).cut bound := by
    rw [inheritedLimit, ancestral]
    cases hkey : (d.readKey files "memory.stat" key).value with
    | error error => exact Limit.prefer_unlimited _
    | ok m =>
      obtain rfl := hstat m hkey
      exact Limit.prefer_self _
  rw [value_inherited_eq, ControlDirectory.stated_of_readNumber hfile, Option.map_some, hchosen]
  rfl

variable (h : HoldsOnly n d files) (hn : n ≤ Numeral.max63)

include h hn

theorem HoldsOnly.value_limit (bound : Nat) :
    (limit d files bound).value = if n < bound then (n : Int) else Metric.unknown := by
  rw [limit, Logged.value_map, value_inherited _ _ h.memory h.inherited_memory]
  split
  · exact Metric.ofAmount_eq hn
  · rfl

theorem HoldsOnly.value_softLimit (bound : Nat) :
    (softLimit d files bound).value = if n < bound then (n : Int) else Metric.unknown := by
  rw [softLimit, ControlDirectory.value_limitMetric,
    ControlDirectory.readLimit_of_readNumber bound h.soft]
  split
  · exact Metric.ofAmount_eq hn
  · rfl

/-- Past the sum of memory and swap the number is taken for a limit, unless swap is not used: then
    the limit on memory stands for that on both. -/
theorem HoldsOnly.value_swapLimit (hostMemory hostSwap : Nat) :
    (swapLimit d files hostMemory hostSwap).value =
      if n < hostMemory + hostSwap then
        if (d.number files "memory.swappiness" "Swappiness").value = some 0 then
          (limit d files hostMemory).value
        else n
      else Metric.unknown := by
  have hbound : n < min (hostMemory + hostSwap) Numeral.max64 ↔ n < hostMemory + hostSwap := by
    simp only [Numeral.max63, Numeral.max64] at hn ⊢
    omega
  have hchosen : chosenBoth d files hostMemory hostSwap =
      some (if n < min (hostMemory + hostSwap) Numeral.max64 then .value n else .unlimited) := by
    rw [← value_inherited "Memory and Swap Limit" _ h.both h.inherited_both, value_inherited_eq]
    rfl
  rw [value_swapLimit_eq, hchosen]
  by_cases hsum : n < hostMemory + hostSwap
  · rw [if_pos (hbound.2 hsum), if_pos hsum, ← Metric.ofAmount_eq hn]
    rfl
  · rw [if_neg (mt hbound.1 hsum), if_neg hsum]

/-- All three limits are unknown exactly if the number is not below the memory of the host nor,
    where swap is used, below the sum. -/
theorem HoldsOnly.unknown_iff (hostMemory hostSwap : Nat) :
    ((limit d files hostMemory).value = Metric.unknown ∧
      (softLimit d files hostMemory).value = Metric.unknown ∧
      (swapLimit d files hostMemory hostSwap).value = Metric.unknown) ↔
      hostMemory ≤ n ∧ (hostMemory + hostSwap ≤ n ∨
        (d.number files "memory.swappiness" "Swappiness").value = some 0) := by
  have hne : (n : Int) ≠ Metric.unknown := by
    simp only [Metric.unknown]
    omega
  rw [h.value_swapLimit hn, h.value_softLimit hn, h.value_limit hn]
  by_cases hmemory : n < hostMemory
  · rw [if_pos hmemory]
    exact iff_of_false (fun hall => hne hall.1) fun hboth => by omega
  · rw [if_neg hmemory]
    by_cases hsum : n < hostMemory + hostSwap
    · rw [if_pos hsum]
      by_cases hswap : (d.number files "memory.swappiness" "Swappiness").value = some 0
      · rw [if_pos hswap]
        exact iff_of_true ⟨rfl, rfl, rfl⟩ ⟨by omega, Or.inr hswap⟩
      · rw [if_neg hswap]
        exact iff_of_false (fun hall => hne hall.2.2)
          fun hboth => hboth.2.elim (by omega) hswap
    · rw [if_neg hsum]
      exact iff_of_true ⟨rfl, rfl, rfl⟩ ⟨by omega, Or.inl (by omega)⟩

end HoldsOnly

/-- What becomes of the number for no limit that all three limits of a cgroup hold, for every
    content of the memory table. Each limit is unknown or that number, as its own comparison has it.
    All are unknown exactly if the table tells the memory of the host, that is not past the number,
    and neither is the sum with swap, unless swap is not used. -/
theorem noLimit_unknown_iff (tables : Files) (procRoot : String) (fallback : Nat)
    {d : ControlDirectory} {files : Files} {pageSize : Nat}
    (h : HoldsOnly (noLimit pageSize) d files) :
    let host := (Host.detect tables procRoot fallback).value
    let limit := (limit d files host.memory).value
    let soft := (softLimit d files host.memory).value
    let both := (swapLimit d files host.memory host.swap).value
    let swappiness := (d.number files "memory.swappiness" "Swappiness").value
    limit = (if noLimit pageSize < host.memory then (noLimit pageSize : Int)
      else Metric.unknown) ∧
    soft = (if noLimit pageSize < host.memory then (noLimit pageSize : Int)
      else Metric.unknown) ∧
    both = (if noLimit pageSize < host.memory + host.swap then
      if swappiness = some 0 then limit else noLimit pageSize else Metric.unknown) ∧
    (limit = Metric.unknown ∧ soft = Metric.unknown ∧ both = Metric.unknown ↔
      ∃ memory, Host.total? tables procRoot "MemTotal" = some memory ∧
        memory ≤ noLimit pageSize ∧
        (memory + (Host.total? tables procRoot "SwapTotal").getD 0 ≤ noLimit pageSize ∨
          swappiness = some 0)) := by
  intro host limit soft both swappiness
  have hn := noLimit_le pageSize
  refine ⟨h.value_limit hn host.memory, h.value_softLimit hn host.memory,
    h.value_swapLimit hn host.memory host.swap, ?_⟩
  rw [h.unknown_iff hn, show host.memory = _ from Host.memory_detect tables procRoot fallback,
    show host.swap = _ from Host.swap_detect tables procRoot fallback]
  cases Host.total? tables procRoot "MemTotal" with
  | none =>
    -- The memory then counts as the greatest amount of 64 bits, which is past every such number.
    refine iff_of_false (fun hboth => ?_) fun ⟨_, hnone, _⟩ => by cases hnone
    have hmost := hboth.1
    simp only [Option.getD_none, Numeral.max63, Numeral.max64] at hn hmost
    omega
  | some memory =>
    simp only [Option.getD_some, Option.some.injEq, exists_eq_left', swappiness]

/-- A cgroup without limits, on a host with some table of its memory. -/
def withoutLimits (table : Opened) : Files
  | "proc/meminfo" => table
  | "cg/memory.limit_in_bytes" => .file (Text.toBytes "9223372036854771712\n")
  | "cg/memory.memsw.limit_in_bytes" => .file (Text.toBytes "9223372036854771712\n")
  | "cg/memory.soft_limit_in_bytes" => .file (Text.toBytes "9223372036854771712\n")
  | _ => .failed .missing

theorem holdsOnly_withoutLimits (table : Opened) :
    HoldsOnly (noLimit 4096) ⟨⟨"/", "cg", "/"⟩, 1024⟩ (withoutLimits table) where
  memory := by rfl
  both := by rfl
  soft := by rfl
  inherited_memory := nofun
  inherited_both := nofun

/-- With sixteen kilobytes of memory told, nothing is taken for a limit. -/
theorem noLimit_unknown_of_table :
    let d : ControlDirectory := ⟨⟨"/", "cg", "/"⟩, 1024⟩
    let files := withoutLimits (.file (Text.toBytes "MemTotal: 16 kB\nSwapTotal: 4 kB\n"))
    let host := (Host.detect files "proc" 4).value
    HoldsOnly (noLimit 4096) d files ∧ host = ⟨4, 16384, 4096⟩ ∧
    (limit d files host.memory).value = Metric.unknown ∧
    (softLimit d files host.memory).value = Metric.unknown ∧
    (swapLimit d files host.memory host.swap).value = Metric.unknown := by
  intro d files host
  have hholds : HoldsOnly (noLimit 4096) d files := holdsOnly_withoutLimits _
  refine ⟨hholds, by decide, (noLimit_unknown_iff files "proc" 4 hholds).2.2.2.2 ?_⟩
  exact ⟨16384, by decide, by decide, Or.inl (by decide)⟩

/-- Without a table the number is reported as a limit, three times over. -/
theorem noLimit_reported :
    let d : ControlDirectory := ⟨⟨"/", "cg", "/"⟩, 1024⟩
    let files := withoutLimits (.failed .missing)
    let host := (Host.detect files "proc" 4).value
    HoldsOnly (noLimit 4096) d files ∧
    (limit d files host.memory).value = 9223372036854771712 ∧
    (softLimit d files host.memory).value = 9223372036854771712 ∧
    (swapLimit d files host.memory host.swap).value = 9223372036854771712 :=
  ⟨holdsOnly_withoutLimits _, by decide, by decide, by decide⟩

end Legacy

end Memory

end CgroupLimits
