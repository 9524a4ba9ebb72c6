import CgroupLimits.Proofs.Coverage
import CgroupLimits.Proofs.Readings
import CgroupLimits.Proofs.Scans
import CgroupLimits.Proofs.Unlimited

/-! Which lines the resources of the host come from.

    Each resource has a key and is read from the lines that begin with it (`Table.Takes`); all other
    lines are passed over, whatever they hold. Of the lines with the key the first gives the value,
    but all have to be good, and the whole file has to be a text (`Host.Tells`). So each of the
    three resources depends on its own lines alone, and where they do not tell it, it alone falls
    back. -/

namespace CgroupLimits

namespace Table

variable {ε α : Type} {entry : String → Except ε (Option α)}

/-! ### Tables that are searched for a key -/

/-- What stands behind a text in the lines that begin with it. -/
def behind (lead s : String) : List String := (Text.lines s).filterMap (Text.after? lead)

/-- A line that does not begin with the text may be put in or left out. -/
theorem behind_insert {lead line : String} (hline : '\n' ∉ line.toList)
    (hother : Text.after? lead line = none) (front rest : String) :
    behind lead (front ++ "\n" ++ (line ++ "\n" ++ rest)) =
      behind lead (front ++ "\n" ++ rest) := by
  rw [behind, behind, Text.lines_append front, Text.lines_whole rest hline,
    Text.lines_append front rest, List.filterMap_append, List.filterMap_append,
    List.filterMap_cons_none hother]

/-- Whether a reader of entries takes one from each line that begins with `lead` and none from any
    other: what stands behind `lead` then tells the entry, or cannot be read. -/
structure Takes (entry : String → Except ε (Option α)) (lead : String)
    (tells : String → α → Prop) : Prop where
  other : ∀ {line : String}, Text.after? lead line = none → entry line = .ok none
  own : ∀ {value : String} {a : α}, entry (lead ++ value) = .ok (some a) ↔ tells value a
  found : ∀ value : String, entry (lead ++ value) ≠ .ok none
  shown : ∀ value : String, Text.allBlank (lead ++ value) = false

namespace Takes

variable {lead : String} {tells : String → α → Prop} (h : Takes entry lead tells)

include h

theorem yields_other {line : String} (hother : Text.after? lead line = none) {found : Option α} :
    Yields entry line found ↔ found = none := by
  have hread := h.other hother
  constructor
  · intro hyields
    cases hyields with
    | blank _ => rfl
    | read _ hfound => exact Except.ok.inj (hfound.symm.trans hread)
  · rintro rfl
    cases hblank : Text.allBlank line with
    | true => exact .blank hblank
    | false => exact .read hblank hread

theorem yields_own {value : String} {found : Option α} :
    Yields entry (lead ++ value) found ↔ ∃ a, found = some a ∧ tells value a := by
  have hshown := h.shown value
  constructor
  · intro hyields
    cases hyields with
    | blank hblank =>
      rw [hshown] at hblank
      cases hblank
    | read _ hread =>
      cases found with
      | none => exact absurd hread (h.found value)
      | some a => exact ⟨a, rfl, h.own.1 hread⟩
  · rintro ⟨a, rfl, ha⟩
    exact .read hshown (h.own.2 ha)

theorem forall₂_iff {lines : List String} {entries : List α} :
    (∃ found, List.Forall₂ (Yields entry) lines found ∧ entries = found.reduceOption) ↔
      List.Forall₂ tells (lines.filterMap (Text.after? lead)) entries := by
  induction lines generalizing entries with
  | nil =>
    constructor
    · rintro ⟨found, hfound, rfl⟩
      cases hfound
      exact .nil
    · intro hentries
      cases hentries
      exact ⟨[], .nil, rfl⟩
  | cons line lines ih =>
    cases hafter : Text.after? lead line with
    | none =>
      rw [List.filterMap_cons_none hafter, ← ih]
      constructor
      · rintro ⟨found, hfound, rfl⟩
        cases hfound with
        | cons hline hrest =>
          obtain rfl := (h.yields_other hafter).1 hline
          exact ⟨_, hrest, List.reduceOption_cons_of_none _⟩
      · rintro ⟨found, hrest, rfl⟩
        exact ⟨none :: found, .cons ((h.yields_other hafter).2 rfl) hrest,
          (List.reduceOption_cons_of_none _).symm⟩
    | some value =>
      rw [List.filterMap_cons_some hafter]
      obtain rfl := Text.after?_eq_some_iff.1 hafter
      constructor
      · rintro ⟨found, hfound, rfl⟩
        cases hfound with
        | cons hline hrest =>
          obtain ⟨a, rfl, ha⟩ := h.yields_own.1 hline
          exact .cons ha (ih.1 ⟨_, hrest, rfl⟩)
      · intro hentries
        cases hentries with
        | cons ha hrest =>
          obtain ⟨found, hfound, rfl⟩ := ih.2 hrest
          exact ⟨some _ :: found, .cons (h.yields_own.2 ⟨_, rfl, ha⟩) hfound, rfl⟩

/-- The entries of a text are what its lines with the key say, and no other line has a part in
    whether it can be read. -/
theorem ofBytes_ok_iff {origin s : String} {entries : List α} :
    ofBytes entry origin (Text.toBytes s) = .ok entries ↔
      List.Forall₂ tells (behind lead s) entries :=
  Table.ofBytes_ok_iff.trans h.forall₂_iff

end Takes

end Table

namespace Host

/-! ### What a file tells -/

/-- Whether an open file is a text in which the first line that begins with `lead` tells `n`, and
    all others that begin with it tell something. -/
def Tells (lead : String) (tells : String → Nat → Prop) (opened : Opened) (n : Nat) : Prop :=
  ∃ s value further, opened = .file (Text.toBytes s) ∧
    Table.behind lead s = value :: further ∧ tells value n ∧ ∀ v ∈ further, ∃ m, tells v m

theorem tells_text_iff {lead s : String} {tells : String → Nat → Prop} {n : Nat} :
    Tells lead tells (.file (Text.toBytes s)) n ↔ ∃ value further,
      Table.behind lead s = value :: further ∧ tells value n ∧ ∀ v ∈ further, ∃ m, tells v m := by
  constructor
  · rintro ⟨t, value, further, hfile, h⟩
    obtain rfl := Text.toBytes_injective (Opened.file.inj hfile)
    exact ⟨value, further, h⟩
  · rintro ⟨value, further, h⟩
    exact ⟨s, value, further, rfl, h⟩

/-- Texts tell the same if they agree in what stands behind the key. -/
theorem tells_congr {lead s t : String} (h : Table.behind lead s = Table.behind lead t)
    (tells : String → Nat → Prop) (n : Nat) :
    Tells lead tells (.file (Text.toBytes s)) n ↔
      Tells lead tells (.file (Text.toBytes t)) n := by
  rw [tells_text_iff, tells_text_iff, h]

theorem firstValue_eq_ok_iff {entry : String → Except HostFault (Option Nat)} {key path : String}
    {files : Files} {n : Nat} : firstValue entry key files path = .ok n ↔
      ∃ bytes further, files path = .file bytes ∧
        Table.ofBytes entry path bytes = .ok (n :: further) := by
  rw [firstValue, Table.ofFile, Table.withBytes]
  cases files path with
  | failed cause => exact iff_of_false nofun nofun
  | directory => exact iff_of_false nofun nofun
  | file bytes =>
    simp only [Opened.file.injEq, exists_and_left, exists_eq_left']
    rcases Table.ofBytes entry path bytes with error | _ | ⟨m, further⟩
    · exact iff_of_false nofun nofun
    · exact iff_of_false nofun nofun
    · simp

/-- A file gives a value exactly if it tells it. -/
theorem firstValue_ok_iff {entry : String → Except HostFault (Option Nat)} {lead : String}
    {tells : String → Nat → Prop} (h : Table.Takes entry lead tells) {key path : String}
    {files : Files} {n : Nat} :
    firstValue entry key files path = .ok n ↔ Tells lead tells (files path) n := by
  rw [firstValue_eq_ok_iff]
  constructor
  · rintro ⟨bytes, ns, hfile, hread⟩
    obtain ⟨s, rfl⟩ := Table.spells_of_ofBytes hread
    obtain ⟨value, further, hvalue, hfurther, hbehind⟩ :=
      List.forall₂_cons_right_iff.1 (h.ofBytes_ok_iff.1 hread)
    exact ⟨s, value, further, hfile, hbehind, hvalue, exists_forall₂_iff.1 ⟨ns, hfurther⟩⟩
  · rintro ⟨s, value, further, hfile, hbehind, hvalue, hfurther⟩
    obtain ⟨ns, hns⟩ := exists_forall₂_iff.2 hfurther
    refine ⟨_, ns, hfile, h.ofBytes_ok_iff.2 ?_⟩
    rw [hbehind]
    exact .cons hvalue hns

/-! ### The keys of the three resources -/

/-- What a value of the memory table says: its first word is a number of 64 bits, of which `kB` as
    the second one makes 1024 bytes each, as far as 64 bits count. -/
inductive IsAmount (value : String) : Nat → Prop
  | kilobytes {w : String} {rest : List String} {n : Nat}
      (hwords : Text.words value = w :: "kB" :: rest) (hnumber : Numeral.Writes w n)
      (hle : n ≤ Numeral.max64) : IsAmount value (min (n * 1024) Numeral.max64)
  | bytes {w : String} {rest : List String} {n : Nat} (hwords : Text.words value = w :: rest)
      (hunit : rest.head? ≠ some "kB") (hnumber : Numeral.Writes w n) (hle : n ≤ Numeral.max64) :
      IsAmount value n

theorem isAmount_iff {value : String} {n : Nat} : IsAmount value n ↔
    ∃ w rest m, Text.words value = w :: rest ∧ (Numeral.Writes w m ∧ m ≤ Numeral.max64) ∧
      min (m * if rest.head? = some "kB" then 1024 else 1) Numeral.max64 = n := by
  constructor
  · intro h
    cases h with
    | kilobytes hwords hnumber hle => exact ⟨_, _, _, hwords, ⟨hnumber, hle⟩, rfl⟩
    | bytes hwords hunit hnumber hle =>
      refine ⟨_, _, _, hwords, ⟨hnumber, hle⟩, ?_⟩
      rw [if_neg hunit, Nat.mul_one, Nat.min_eq_left hle]
  · rintro ⟨w, rest, m, hwords, ⟨hnumber, hle⟩, rfl⟩
    by_cases hunit : rest.head? = some "kB"
    · obtain ⟨others, rfl⟩ := List.head?_eq_some_iff.1 hunit
      exact .kilobytes hwords hnumber hle
    · rw [if_neg hunit, Nat.mul_one, Nat.min_eq_left hle]
      exact .bytes hwords hunit hnumber hle

/-- What a list of allowed processors says: how many they are. -/
def IsCount (list : String) (n : Nat) : Prop := CpuList.count? (Text.trim list) = some n

section Amount

variable {key value : String} (hkey : ':' ∉ key.toList)

include hkey

theorem cut?_own : Text.cut? ":" (key ++ ":" ++ value) = some (key, value) :=
  (Text.cut?_eq_some_iff rfl).2 ⟨rfl, hkey⟩

theorem amount_of_error {fault : RowFault}
    (hread : RowFault.number Numeral.max64 (key ++ ":" ++ value) ((Text.words value).headD "") =
      .error fault) : amount key (key ++ ":" ++ value) = .error (.row fault) := by
  simp only [amount, cut?_own hkey, if_true, hread]

theorem amount_of_ok {n : Nat}
    (hread : RowFault.number Numeral.max64 (key ++ ":" ++ value) ((Text.words value).headD "") =
      .ok n) : amount key (key ++ ":" ++ value) =
    .ok (some (min (n * if (Text.words value)[1]? = some "kB" then 1024 else 1)
      Numeral.max64)) := by
  simp only [amount, cut?_own hkey, if_true, hread]

theorem amount_ok_iff {n : Nat} :
    amount key (key ++ ":" ++ value) = .ok (some n) ↔ IsAmount value n := by
  rw [isAmount_iff]
  cases hread : RowFault.number Numeral.max64 (key ++ ":" ++ value)
      ((Text.words value).headD "") with
  | error fault =>
    rw [amount_of_error hkey hread]
    refine iff_of_false nofun ?_
    rintro ⟨w, rest, m, hwords, hnumber, -⟩
    rw [hwords, List.headD_cons, RowFault.number_ok_iff.2 hnumber] at hread
    cases hread
  | ok m =>
    rw [amount_of_ok hkey hread, Except.ok.injEq, Option.some.injEq]
    constructor
    · rintro rfl
      have hnumber := RowFault.number_ok_iff.1 hread
      cases hwords : Text.words value with
      | nil =>
        rw [hwords] at hnumber
        exact absurd rfl hnumber.1.ne_empty
      | cons w rest =>
        rw [hwords] at hnumber
        refine ⟨w, rest, m, rfl, hnumber, ?_⟩
        rw [List.getElem?_cons_succ, List.head?_eq_getElem?]
    · rintro ⟨w, rest, m', hwords, hnumber, rfl⟩
      rw [hwords, List.headD_cons, RowFault.number_ok_iff.2 hnumber] at hread
      obtain rfl := Except.ok.inj hread
      rw [hwords, List.getElem?_cons_succ, List.head?_eq_getElem?]

theorem takes_amount : Table.Takes (amount key) (key ++ ":") IsAmount where
  other := by
    intro line hother
    rw [amount]
    cases hcut : Text.cut? ":" line with
    | none => rfl
    | some halves =>
      obtain ⟨name, value⟩ := halves
      refine if_neg ?_
      rintro rfl
      rw [Text.after?_eq_some_iff.2 (Text.eq_append_of_cut? hcut)] at hother
      cases hother
  own := amount_ok_iff hkey
  found value := by
    cases hread : RowFault.number Numeral.max64 (key ++ ":" ++ value)
        ((Text.words value).headD "") with
    | error fault => rw [amount_of_error hkey hread]; nofun
    | ok n => rw [amount_of_ok hkey hread]; nofun
  shown value := by
    rw [Text.allBlank, List.all_eq_false]
    exact ⟨':', by simp, by decide⟩

end Amount

theorem takes_allowed : Table.Takes allowedCount allowedKey IsCount where
  other := by
    intro line hother
    rw [allowedCount, hother]
  own := by
    intro value n
    rw [allowedCount, Text.after?_eq_some_iff.2 rfl, IsCount]
    cases hcount : CpuList.count? (Text.trim value) <;> simp [hcount]
  found value := by
    rw [allowedCount, Text.after?_eq_some_iff.2 rfl]
    cases hcount : CpuList.count? (Text.trim value) <;> simp [hcount]
  shown value := by
    rw [Text.allBlank, List.all_eq_false]
    exact ⟨':', by simp [allowedKey], by decide⟩

/-! ### The resources -/

section Detect

variable {files : Files} {procRoot : String}

theorem total?_eq_some_iff {key : String} (hkey : ':' ∉ key.toList) {n : Nat} :
    total? files procRoot key = some n ↔
      Tells (key ++ ":") IsAmount (files (Path.join procRoot "meminfo")) n := by
  rw [total?, toOption_eq_some_iff]
  exact firstValue_ok_iff (takes_amount hkey)

/-- The allowed processors, if the status file tells. -/
def processors? (files : Files) (procRoot : String) : Option Nat :=
  (firstValue allowedCount allowedKey files (Path.join procRoot "self/status")).toOption

theorem processors?_eq_some_iff {n : Nat} : processors? files procRoot = some n ↔
    Tells allowedKey IsCount (files (Path.join procRoot "self/status")) n := by
  rw [processors?, toOption_eq_some_iff]
  exact firstValue_ok_iff takes_allowed

theorem processors_pos {n : Nat} (h : processors? files procRoot = some n) : 0 < n := by
  obtain ⟨_, _, _, -, -, hcount, -⟩ := processors?_eq_some_iff.1 h
  exact CpuList.count?_pos hcount

/-- No list is empty, so the fallback stands only for a file that does not tell. -/
theorem processors_detect (fallback : Nat) :
    (detect files procRoot fallback).value.processors =
      (processors? files procRoot).getD fallback := by
  show (detectProcessors files procRoot fallback).value = _
  have hpos {n : Nat} (h : processors? files procRoot = some n) := processors_pos h
  rw [processors?] at hpos ⊢
  rw [detectProcessors]
  cases hread : firstValue allowedCount allowedKey files (Path.join procRoot "self/status") with
  | error error => rfl
  | ok n =>
    rw [hread] at hpos
    exact if_pos (hpos rfl)

theorem total?_congr {other : Files} {key s t : String} (hkey : ':' ∉ key.toList)
    (hs : files (Path.join procRoot "meminfo") = .file (Text.toBytes s))
    (ht : other (Path.join procRoot "meminfo") = .file (Text.toBytes t))
    (h : Table.behind (key ++ ":") s = Table.behind (key ++ ":") t) :
    total? other procRoot key = total? files procRoot key := by
  refine Option.ext fun n => ?_
  rw [total?_eq_some_iff hkey, total?_eq_some_iff hkey, hs, ht]
  exact (tells_congr h IsAmount n).symm

theorem total?_of_eq {other : Files} (key : String)
    (h : other (Path.join procRoot "meminfo") = files (Path.join procRoot "meminfo")) :
    total? other procRoot key = total? files procRoot key := by
  rw [total?, total?, firstValue, firstValue, Table.ofFile, Table.ofFile, Table.withBytes,
    Table.withBytes, h]

theorem processors?_of_eq {other : Files}
    (h : other (Path.join procRoot "self/status") = files (Path.join procRoot "self/status")) :
    processors? other procRoot = processors? files procRoot := by
  rw [processors?, processors?, firstValue, firstValue, Table.ofFile, Table.ofFile,
    Table.withBytes, Table.withBytes, h]

end Detect

/-- What is told is the value, and where nothing is told the fallback is. -/
theorem getD_told {told : Option Nat} {tells : Nat → Prop} (h : ∀ n, told = some n ↔ tells n)
    (fallback : Nat) :
    (∀ n, tells n → told.getD fallback = n) ∧
      ((¬ ∃ n, tells n) → told.getD fallback = fallback) := by
  constructor
  · intro n hn
    rw [(h n).2 hn, Option.getD_some]
  · intro hnone
    have htold : told = none :=
      Option.eq_none_iff_forall_ne_some.2 fun n hn => hnone ⟨n, (h n).1 hn⟩
    rw [htold, Option.getD_none]

/-- Where the resources of the host come from, for every content of the two files. Each resource is
    what the lines with its own key tell, and its own fallback if they do not, be it that there is
    none, that one of them is bad or that the file is no text. So two memory tables that agree in
    the lines for a key give the same amount for it, and a line that does not begin with the key can
    be put in anywhere. The status file has no part in the amounts, and the memory table none in
    the processors. -/
theorem detect_isolated (files : Files) (procRoot : String) (fallback : Nat) :
    let meminfo := Path.join procRoot "meminfo"
    let status := Path.join procRoot "self/status"
    let host (files : Files) := (detect files procRoot fallback).value
    ((∀ n, Tells "MemTotal:" IsAmount (files meminfo) n → (host files).memory = n) ∧
      ((¬ ∃ n, Tells "MemTotal:" IsAmount (files meminfo) n) →
        (host files).memory = Numeral.max64)) ∧
    ((∀ n, Tells "SwapTotal:" IsAmount (files meminfo) n → (host files).swap = n) ∧
      ((¬ ∃ n, Tells "SwapTotal:" IsAmount (files meminfo) n) → (host files).swap = 0)) ∧
    ((∀ n, Tells "Cpus_allowed_list:" IsCount (files status) n →
        (host files).processors = n ∧ 0 < n) ∧
      ((¬ ∃ n, Tells "Cpus_allowed_list:" IsCount (files status) n) →
        (host files).processors = fallback)) ∧
    (∀ (other : Files) (s t : String), files meminfo = .file (Text.toBytes s) →
      other meminfo = .file (Text.toBytes t) →
        (Table.behind "MemTotal:" s = Table.behind "MemTotal:" t →
          (host other).memory = (host files).memory) ∧
        (Table.behind "SwapTotal:" s = Table.behind "SwapTotal:" t →
          (host other).swap = (host files).swap)) ∧
    (∀ (other : Files) (front line rest : String), '\n' ∉ line.toList →
      files meminfo = .file (Text.toBytes (front ++ "\n" ++ rest)) →
      other meminfo = .file (Text.toBytes (front ++ "\n" ++ (line ++ "\n" ++ rest))) →
        (Text.after? "MemTotal:" line = none → (host other).memory = (host files).memory) ∧
        (Text.after? "SwapTotal:" line = none → (host other).swap = (host files).swap)) ∧
    (∀ other : Files, other meminfo = files meminfo →
      (host other).memory = (host files).memory ∧ (host other).swap = (host files).swap) ∧
    (∀ other : Files, other status = files status →
      (host other).processors = (host files).processors) := by
  intro meminfo status host
  have hmem : ':' ∉ "MemTotal".toList := by decide
  have hswap : ':' ∉ "SwapTotal".toList := by decide
  simp only [host, memory_detect, swap_detect, processors_detect]
  refine ⟨getD_told (fun n => total?_eq_some_iff hmem) _,
    getD_told (fun n => total?_eq_some_iff hswap) _, ⟨fun n hn => ?told, ?untold⟩, ?lines,
    ?inserted, ?table, ?status⟩
  case told =>
    have hread := processors?_eq_some_iff.2 hn
    rw [hread]
    exact ⟨rfl, processors_pos hread⟩
  case untold => exact (getD_told (fun n => processors?_eq_some_iff) fallback).2
  case lines =>
    intro other s t hs ht
    refine ⟨fun hlines => ?_, fun hlines => ?_⟩
    · rw [total?_congr hmem hs ht hlines]
    · rw [total?_congr hswap hs ht hlines]
  case inserted =>
    intro other front line rest hline hs ht
    refine ⟨fun hother => ?_, fun hother => ?_⟩
    · rw [total?_congr hmem hs ht (Table.behind_insert hline hother front rest).symm]
    · rw [total?_congr hswap hs ht (Table.behind_insert hline hother front rest).symm]
  case table =>
    intro other hsame
    rw [total?_of_eq "MemTotal" hsame, total?_of_eq "SwapTotal" hsame]
    exact ⟨rfl, rfl⟩
  case status =>
    intro other hsame
    rw [processors?_of_eq hsame]

/-- A proc root with a memory table and a list of allowed processors. -/
def withTable (table : String) : Files
  | "proc/meminfo" => .file (Text.toBytes table)
  | "proc/self/status" => .file (Text.toBytes "Cpus_allowed:\tx\nCpus_allowed_list:\t0-1,4\n")
  | _ => .failed .missing

/-- A bad total of swap and a bad line with a longer key leave the memory and the processors as they
    are, and of two good lines the first counts. -/
theorem detect_isolated_defect :
    let table := "MemTotal: 16 kB\nSwapTotal: 8\nMemTotal:5\n"
    let defect := "MemTotal: 16 kB\nSwapTotal: many\nMemTotalX: -\nMemTotal:5\n"
    let host (table : String) := (detect (withTable table) "proc" 1).value
    Tells "MemTotal:" IsAmount (withTable table "proc/meminfo") 16384 ∧
    Table.behind "MemTotal:" table = Table.behind "MemTotal:" defect ∧
    (¬ ∃ n, Tells "SwapTotal:" IsAmount (withTable defect "proc/meminfo") n) ∧
    (∀ text, Tells "Cpus_allowed_list:" IsCount (withTable text "proc/self/status") 3) ∧
    (host table).memory = 16384 ∧ (host defect).memory = 16384 ∧ (host defect).swap = 0 ∧
    (host table).processors = 3 ∧ (host defect).processors = 3 := by
  intro table defect host
  have hmemory : Tells "MemTotal:" IsAmount (withTable table "proc/meminfo") 16384 := by
    have hread : total? (withTable table) "proc" "MemTotal" = some 16384 := by decide +kernel
    exact (total?_eq_some_iff (by decide)).1 hread
  have hlines : Table.behind "MemTotal:" table = Table.behind "MemTotal:" defect := by
    decide +kernel
  have hswap : ¬ ∃ n, Tells "SwapTotal:" IsAmount (withTable defect "proc/meminfo") n := by
    rintro ⟨n, hn⟩
    have hread : total? (withTable defect) "proc" "SwapTotal" = some n :=
      (total?_eq_some_iff (by decide)).2 hn
    have hnone : total? (withTable defect) "proc" "SwapTotal" = none := by decide +kernel
    rw [hnone] at hread
    cases hread
  have hcount (text : String) :
      Tells "Cpus_allowed_list:" IsCount (withTable text "proc/self/status") 3 := by
    have hranges : CpuList.ranges? (Text.trim "\t0-1,4") = some [(0, 1), (4, 4)] := by
      decide +kernel
    have hlist : IsCount "\t0-1,4" 3 := by
      rw [IsCount, CpuList.count?, hranges, Option.map_some, CpuList.size, CpuList.sweep_mergeSort]
      decide
    exact ⟨_, "\t0-1,4", [], rfl, by decide +kernel, hlist, List.forall_mem_nil _⟩
  obtain ⟨htold, -, hprocessors, hsame, -⟩ := detect_isolated (withTable table) "proc" 1
  obtain ⟨-, hunknown, hprocessors', -⟩ := detect_isolated (withTable defect) "proc" 1
  have hvalue : (host table).memory = 16384 := htold.1 _ hmemory
  exact ⟨hmemory, hlines, hswap, hcount, hvalue,
    ((hsame (withTable defect) table defect rfl rfl).1 hlines).trans hvalue, hunknown.2 hswap,
    (hprocessors.1 _ (hcount table)).1, (hprocessors'.1 _ (hcount defect)).1⟩

end Host

end CgroupLimits
