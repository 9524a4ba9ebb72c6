import CgroupLimits.ControllerRow
import CgroupLimits.Membership
import CgroupLimits.Mount
import CgroupLimits.Proofs.Lines
import Mathlib.Data.List.Forall2
import Mathlib.Data.List.ReduceOption

/-! Tables read piece by piece.

    Where a stream is cut behind a newline, its lines are those of the two pieces
    (`Line.all_append`), so a table can be read in pieces as well: the second piece is looked at
    only if the first has no bad line, and its own first bad line has a number that is higher by
    the lines of the first piece. `Table.ofBytes_append` says all of this in one equation. The scan
    of a text needs no bytes: it is the scan of the lines of the text (`Table.scan_toBytes`). Each
    of these lines passes or stops the scan. The first that stops it is the one that is told
    (`Table.ofBytes_error_iff`), and without one the entries are what the lines yield
    (`Table.ofBytes_ok_iff`). -/

namespace CgroupLimits

namespace Line

/-! ### Streams of whole lines -/

/-- Whether a stream is made of whole lines: it is empty or ends in a newline. -/
def Whole (bytes : List UInt8) : Prop := bytes = [] ∨ bytes.getLast? = some newline

theorem Whole.tail {text tail : List UInt8} (h : Whole (text ++ newline :: tail)) : Whole tail := by
  rcases h with hnil | hlast
  · simp at hnil
  · rcases tail.eq_nil_or_concat with rfl | ⟨front, b, rfl⟩
    · exact Or.inl rfl
    · refine Or.inr ?_
      rw [List.concat_eq_append, ← List.cons_append, ← List.append_assoc,
        List.getLast?_concat] at hlast
      rw [List.concat_eq_append, List.getLast?_concat, hlast]

theorem Whole.eq_nil {bytes : List UInt8} (h : Whole bytes) (hfree : newline ∉ bytes) :
    bytes = [] :=
  h.resolve_right fun hlast => hfree (List.mem_of_getLast? hlast)

theorem all_append {a : List UInt8} (h : Whole a) (b : List UInt8) :
    all (a ++ b) = all a ++ all b := by
  induction a using lines_induction with
  | last a hfree =>
    rw [h.eq_nil hfree]
    rfl
  | whole text tail htext ih =>
    rw [List.append_assoc, List.cons_append, all_whole _ htext, all_whole _ htext, ih h.tail,
      List.cons_append]

theorem length_all {bytes : List UInt8} (h : Whole bytes) :
    (all bytes).length = bytes.count newline := by
  induction bytes using lines_induction with
  | last bytes hfree =>
    rw [h.eq_nil hfree]
    rfl
  | whole text tail htext ih =>
    rw [all_whole _ htext, List.length_cons, ih h.tail, List.count_append, List.count_cons_self,
      List.count_eq_zero_of_not_mem htext, Nat.zero_add]

end Line

theorem Text.allBlank_of_mem_lines {s : String} (h : allBlank s = true) :
    ∀ text ∈ lines s, allBlank text = true := by
  induction s using texts_induction with
  | last s hfree =>
    rw [lines_last hfree]
    exact List.forall_mem_singleton.2 h
  | whole t u ht ih =>
    simp only [allBlank, String.toList_append, List.all_append, Bool.and_eq_true] at h
    rw [lines_whole u ht]
    exact List.forall_mem_cons.2 ⟨h.1.1, ih h.2⟩

/-- The text of lines, each with a newline behind it. -/
def Text.ofLines (rows : List String) : String := String.join (rows.map (· ++ "\n"))

theorem Text.lines_ofLines {rows : List String} (h : ∀ row ∈ rows, '\n' ∉ row.toList) :
    lines (ofLines rows) = rows ++ [""] := by
  induction rows with
  | nil => rfl
  | cons row rows ih =>
    obtain ⟨hrow, hrows⟩ := List.forall_mem_cons.1 h
    rw [ofLines, List.map_cons, String.join_cons, lines_whole _ hrow, ← ofLines, ih hrows,
      List.cons_append]

/-! ### Scans one after the other -/

variable {ε α : Type}

/-- The fault of a line that has `k` further lines in front of it. -/
def TableFault.later (k : Nat) : TableFault ε → TableFault ε
  | .notText => .notText
  | .malformed number cause => .malformed (number + k) cause

theorem TableFault.later_later (fault : TableFault ε) (j k : Nat) :
    (fault.later j).later k = fault.later (j + k) := by
  cases fault with
  | notText => rfl
  | malformed number cause => rw [later, later, later, Nat.add_assoc]

/-- The error of a line that has `k` further lines in front of it. -/
def TableError.later (k : Nat) : TableError ε → TableError ε
  | .cannotOpen path cause => .cannotOpen path cause
  | .unreadable path cause => .unreadable path cause
  | .malformed path number cause => .malformed path (number + k) cause

namespace TableScan

/-- The scan of lines that have `k` further lines in front of them. -/
def later (k : Nat) (scan : TableScan ε α) : TableScan ε α :=
  { scan with fault := scan.fault.map (.later k) }

/-- One scan after another, which is not come to if the first one meets a bad line. -/
def andThen (first next : TableScan ε α) : TableScan ε α :=
  match first.fault with
  | none => ⟨first.entries ++ next.entries, next.fault⟩
  | some _ => first

theorem later_push (k : Nat) (found : Option α) (scan : TableScan ε α) :
    (scan.push found).later k = (scan.later k).push found := rfl

theorem andThen_push (found : Option α) (first next : TableScan ε α) :
    (first.push found).andThen next = (first.andThen next).push found := by
  obtain ⟨entries, fault⟩ := first
  cases fault with
  | none => simp only [andThen, push, List.append_assoc]
  | some fault => rfl

theorem result_later (origin : String) (k : Nat) (scan : TableScan ε α) :
    (scan.later k).result origin = (scan.result origin).mapError (.later k) := by
  obtain ⟨entries, fault⟩ := scan
  cases fault with
  | none => rfl
  | some fault => cases fault <;> rfl

theorem result_andThen (origin : String) (first next : TableScan ε α) :
    (first.andThen next).result origin = do
      let entries ← first.result origin
      let further ← next.result origin
      return entries ++ further := by
  obtain ⟨entries, fault⟩ := first
  cases fault with
  | none =>
    obtain ⟨further, fault⟩ := next
    cases fault with
    | none => rfl
    | some fault => cases fault <;> rfl
  | some fault => cases fault <;> rfl

end TableScan

namespace Table

variable {entry : String → Except ε (Option α)}

/-- What a line does to a scan, wherever it stands: it puts an entry, or none, in front of the scan
    of the lines behind it, or it ends the scan. -/
theorem scanLines_cons (entry : String → Except ε (Option α)) (line : List UInt8) :
    (∃ found, ∀ number lines, scanLines entry number (line :: lines) =
      (scanLines entry (number + 1) lines).push found) ∨
    (∃ fault : TableFault ε, ∀ number lines, scanLines entry number (line :: lines) =
      ⟨[], some (fault.later number)⟩) := by
  cases htext : Text.ofBytes? (Line.body line) with
  | none => exact Or.inr ⟨.notText, fun number lines => by rw [scanLines, htext]; rfl⟩
  | some text =>
    by_cases hblank : Text.allBlank text = true
    · refine Or.inl ⟨none, fun number lines => ?_⟩
      rw [scanLines, htext]
      exact if_pos hblank
    · cases hread : entry text with
      | ok found =>
        refine Or.inl ⟨found, fun number lines => ?_⟩
        simp only [scanLines, htext, if_neg hblank, hread]
      | error cause =>
        refine Or.inr ⟨.malformed 0 cause, fun number lines => ?_⟩
        simp only [scanLines, htext, if_neg hblank, hread, TableFault.later, Nat.zero_add]

theorem scanLines_add (number k : Nat) (lines : List (List UInt8)) :
    scanLines entry (number + k) lines = (scanLines entry number lines).later k := by
  induction lines generalizing number with
  | nil => rfl
  | cons line lines ih =>
    rcases scanLines_cons entry line with ⟨found, hline⟩ | ⟨fault, hline⟩
    · rw [hline, hline, TableScan.later_push, ← ih, Nat.add_right_comm]
    · rw [hline, hline, ← TableFault.later_later]
      rfl

theorem scanLines_append (number : Nat) (lines lines' : List (List UInt8)) :
    scanLines entry number (lines ++ lines') =
      (scanLines entry number lines).andThen
        (scanLines entry (number + lines.length) lines') := by
  induction lines generalizing number with
  | nil => rfl
  | cons line lines ih =>
    rw [List.cons_append]
    rcases scanLines_cons entry line with ⟨found, hline⟩ | ⟨fault, hline⟩
    · rw [hline, hline, TableScan.andThen_push, ih, List.length_cons, Nat.add_assoc,
        Nat.add_comm 1]
    · rw [hline, hline]
      rfl

theorem scan_append {a : List UInt8} (h : Line.Whole a) (b : List UInt8) :
    scan entry (a ++ b) = (scan entry a).andThen ((scan entry b).later (a.count Line.newline)) := by
  rw [scan, Line.all_append h, scanLines_append, Line.length_all h, scanLines_add, scan, scan]

/-- A table whose first piece is of whole lines is read in two pieces. -/
theorem ofBytes_append (origin : String) {a : List UInt8} (h : Line.Whole a) (b : List UInt8) :
    ofBytes entry origin (a ++ b) = do
      let entries ← ofBytes entry origin a
      let further ← (ofBytes entry origin b).mapError (.later (a.count Line.newline))
      return entries ++ further := by
  rw [ofBytes, scan_append h, TableScan.result_andThen, TableScan.result_later]
  rfl

theorem length_entries_le (number : Nat) (lines : List (List UInt8)) :
    (scanLines entry number lines).entries.length ≤ lines.length := by
  induction lines generalizing number with
  | nil => exact Nat.le_refl _
  | cons line lines ih =>
    rcases scanLines_cons entry line with ⟨found, hline⟩ | ⟨fault, hline⟩
    · have hfound : found.toList.length ≤ 1 := by cases found <;> simp
      have hrest := ih (number + 1)
      rw [hline, TableScan.push, List.length_append, List.length_cons]
      omega
    · rw [hline]
      exact Nat.zero_le _

/-- The newline behind the last line makes no difference, and behind a newline it makes a blank
    line. -/
theorem scanLines_newline (number : Nat) (bytes : List UInt8) :
    scanLines entry number (Line.all (bytes ++ [Line.newline])) =
      scanLines entry number (Line.all bytes) := by
  induction bytes using Line.lines_induction generalizing number with
  | last line hfree =>
    rw [Line.all_whole [] hfree]
    by_cases hne : line = []
    · subst hne
      rw [scanLines]
      rfl
    · rw [Line.all_last hne hfree, scanLines, scanLines, Line.body_whole, Line.body_last hfree]
      rfl
  | whole text tail htext ih =>
    rw [List.append_assoc, List.cons_append, Line.all_whole _ htext, Line.all_whole _ htext]
    simp only [scanLines, ih]

/-! ### Scans of texts -/

/-- Reads the entries of lines that are texts, the first of which has the number `number`. -/
def scanTexts (entry : String → Except ε (Option α)) (number : Nat) :
    List String → TableScan ε α
  | [] => ⟨[], none⟩
  | text :: texts =>
    if Text.allBlank text then scanTexts entry (number + 1) texts
    else
      match entry text with
      | .error cause => ⟨[], some (.malformed number cause)⟩
      | .ok found => (scanTexts entry (number + 1) texts).push found

theorem scanLines_toBytes (number : Nat) (s : String) :
    scanLines entry number (Line.all (Text.toBytes s)) =
      scanTexts entry number (Text.lines s) := by
  induction s using Text.texts_induction generalizing number with
  | last s hfree =>
    rw [Text.lines_last hfree]
    by_cases hne : s = ""
    · subst hne
      rw [Text.toBytes_empty]
      rfl
    · have hbytes : Line.newline ∉ Text.toBytes s := fun h => hfree (Text.newline_mem_toBytes.1 h)
      rw [Text.all_toBytes_last hne hfree, scanLines, Line.body_last hbytes, Text.ofBytes?_toBytes]
      rfl
  | whole t u ht ih =>
    rw [Text.all_toBytes_whole u ht, Text.lines_whole u ht, scanLines, Text.toBytes_newline,
      Line.body_whole, Text.ofBytes?_toBytes, ih]
    rfl

/-- The scan of a text is the scan of its lines. -/
theorem scan_toBytes (s : String) :
    scan entry (Text.toBytes s) = scanTexts entry 1 (Text.lines s) :=
  scanLines_toBytes 1 s

theorem scanTexts_blank {texts : List String} (h : ∀ text ∈ texts, Text.allBlank text = true)
    (number : Nat) : scanTexts entry number texts = ⟨[], none⟩ := by
  induction texts generalizing number with
  | nil => rfl
  | cons text texts ih =>
    obtain ⟨htext, htexts⟩ := List.forall_mem_cons.1 h
    rw [scanTexts, if_pos htext, ih htexts]

/-- Whether a line ends no scan: it is blank, or its entry can be read. -/
def Passes (entry : String → Except ε (Option α)) (line : String) : Prop :=
  Text.allBlank line = true ∨ ∃ found, entry line = .ok found

/-- Whether a line ends a scan, and why. -/
def Stops (entry : String → Except ε (Option α)) (line : String) (cause : ε) : Prop :=
  Text.allBlank line = false ∧ entry line = .error cause

theorem passes_or_stops (entry : String → Except ε (Option α)) (line : String) :
    Passes entry line ∨ ∃ cause, Stops entry line cause := by
  cases hblank : Text.allBlank line with
  | true => exact Or.inl (Or.inl hblank)
  | false =>
    cases hread : entry line with
    | ok found => exact Or.inl (Or.inr ⟨found, hread⟩)
    | error cause => exact Or.inr ⟨cause, hblank, hread⟩

theorem Stops.not_passes {line : String} {cause : ε} (h : Stops entry line cause) :
    ¬ Passes entry line := by
  rintro (hblank | ⟨found, hfound⟩)
  · rw [h.1] at hblank
    cases hblank
  · rw [h.2] at hfound
    cases hfound

theorem fault_of_passes {line : String} (h : Passes entry line) (number : Nat)
    (lines : List String) :
    (scanTexts entry number (line :: lines)).fault =
      (scanTexts entry (number + 1) lines).fault := by
  rw [scanTexts]
  split
  · rfl
  · rename_i hblank
    obtain ⟨found, hfound⟩ := h.resolve_left hblank
    rw [hfound]
    rfl

theorem fault_of_stops {line : String} {cause : ε} (h : Stops entry line cause) (number : Nat)
    (lines : List String) :
    (scanTexts entry number (line :: lines)).fault = some (.malformed number cause) := by
  rw [scanTexts, if_neg (by simp [h.1]), h.2]

/-- A scan of texts has no fault exactly if all lines pass. -/
theorem fault_eq_none_iff (number : Nat) {lines : List String} :
    (scanTexts entry number lines).fault = none ↔ ∀ line ∈ lines, Passes entry line := by
  induction lines generalizing number with
  | nil => exact iff_of_true rfl (List.forall_mem_nil _)
  | cons line lines ih =>
    rw [List.forall_mem_cons]
    rcases passes_or_stops entry line with h | ⟨cause, h⟩
    · rw [fault_of_passes h, ih, and_iff_right h]
    · rw [fault_of_stops h]
      exact iff_of_false nofun fun hall => h.not_passes hall.1

/-- The fault of a scan of texts is that of the first line that does not pass. -/
theorem fault_eq_some_iff {number : Nat} {lines : List String} {fault : TableFault ε} :
    (scanTexts entry number lines).fault = some fault ↔
      ∃ before line behind cause, lines = before ++ line :: behind ∧
        (∀ text ∈ before, Passes entry text) ∧ Stops entry line cause ∧
        fault = .malformed (number + before.length) cause := by
  constructor
  · intro h
    induction lines generalizing number with
    | nil => cases h
    | cons line lines ih =>
      rcases passes_or_stops entry line with hpasses | ⟨cause, hstops⟩
      · rw [fault_of_passes hpasses] at h
        obtain ⟨before, bad, behind, cause, rfl, hbefore, hbad, rfl⟩ := ih h
        refine ⟨line :: before, bad, behind, cause, rfl,
          List.forall_mem_cons.2 ⟨hpasses, hbefore⟩, hbad, ?_⟩
        rw [List.length_cons, Nat.add_right_comm, Nat.add_assoc]
      · rw [fault_of_stops hstops] at h
        exact ⟨[], line, lines, cause, rfl, List.forall_mem_nil _, hstops,
          (Option.some.inj h).symm⟩
  · rintro ⟨before, line, behind, cause, rfl, hbefore, hline, rfl⟩
    induction before generalizing number with
    | nil => exact fault_of_stops hline number behind
    | cons text before ih =>
      obtain ⟨htext, hbefore⟩ := List.forall_mem_cons.1 hbefore
      rw [List.cons_append, fault_of_passes htext, ih hbefore, List.length_cons,
        Nat.add_right_comm, Nat.add_assoc]

theorem exists_ofBytes_iff {origin s : String} :
    (∃ entries, ofBytes entry origin (Text.toBytes s) = .ok entries) ↔
      ∀ line ∈ Text.lines s, Passes entry line := by
  rw [ofBytes, scan_toBytes, ← fault_eq_none_iff 1, TableScan.result]
  split
  · rename_i hfault
    exact iff_of_true ⟨_, rfl⟩ hfault
  · rename_i hfault
    exact iff_of_false nofun (by simp [hfault])
  · rename_i hfault
    exact iff_of_false nofun (by simp [hfault])

theorem ofBytes_error_iff {origin s : String} {error : TableError ε} :
    ofBytes entry origin (Text.toBytes s) = .error error ↔
      ∃ before line behind cause, Text.lines s = before ++ line :: behind ∧
        (∀ text ∈ before, Passes entry text) ∧ Stops entry line cause ∧
        error = .malformed origin (before.length + 1) cause := by
  have hresult : ofBytes entry origin (Text.toBytes s) = .error error ↔
      ∃ number cause, (scanTexts entry 1 (Text.lines s)).fault = some (.malformed number cause) ∧
        error = .malformed origin number cause := by
    rw [ofBytes, scan_toBytes, TableScan.result]
    split
    · rename_i hfault
      simp [hfault]
    · rename_i hfault
      obtain ⟨_, _, _, _, _, _, _, hnot⟩ := fault_eq_some_iff.1 hfault
      cases hnot
    · rename_i number cause hfault
      simp [hfault, eq_comm]
  rw [hresult]
  constructor
  · rintro ⟨number, cause, hfault, rfl⟩
    obtain ⟨before, line, behind, cause', hlines, hbefore, hline, heq⟩ :=
      fault_eq_some_iff.1 hfault
    obtain ⟨rfl, rfl⟩ := TableFault.malformed.inj heq
    rw [Nat.add_comm]
    exact ⟨before, line, behind, cause, hlines, hbefore, hline, rfl⟩
  · rintro ⟨before, line, behind, cause, hlines, hbefore, hline, rfl⟩
    exact ⟨before.length + 1, cause, fault_eq_some_iff.2
      ⟨before, line, behind, cause, hlines, hbefore, hline, by rw [Nat.add_comm]⟩, rfl⟩

/-- What a line adds to the entries of a table: nothing if it is blank, else what its entry is
    read as. -/
inductive Yields (entry : String → Except ε (Option α)) (line : String) : Option α → Prop
  | blank (h : Text.allBlank line = true) : Yields entry line none
  | read {found : Option α} (hblank : Text.allBlank line = false) (h : entry line = .ok found) :
    Yields entry line found

theorem Yields.passes {line : String} {found : Option α} (h : Yields entry line found) :
    Passes entry line := by
  cases h with
  | blank hblank => exact Or.inl hblank
  | read _ hread => exact Or.inr ⟨found, hread⟩

theorem scanTexts_of_yields {line : String} {found : Option α} (h : Yields entry line found)
    (number : Nat) (lines : List String) :
    scanTexts entry number (line :: lines) = (scanTexts entry (number + 1) lines).push found := by
  cases h with
  | blank hblank => exact if_pos hblank
  | read hblank hread => rw [scanTexts, if_neg (by simp [hblank]), hread]

theorem yields_or_stops (entry : String → Except ε (Option α)) (line : String) :
    (∃ found, Yields entry line found) ∨ ∃ cause, Stops entry line cause := by
  rcases passes_or_stops entry line with (hblank | ⟨found, hread⟩) | hstops
  · exact Or.inl ⟨none, .blank hblank⟩
  · cases hblank : Text.allBlank line with
    | true => exact Or.inl ⟨none, .blank hblank⟩
    | false => exact Or.inl ⟨found, .read hblank hread⟩
  · exact Or.inr hstops

/-- A scan of texts without a fault has found what its lines yield, one by one. -/
theorem scanTexts_eq_iff (number : Nat) {lines : List String} {entries : List α} :
    scanTexts entry number lines = ⟨entries, none⟩ ↔
      ∃ found, List.Forall₂ (Yields entry) lines found ∧ entries = found.reduceOption := by
  constructor
  · intro h
    induction lines generalizing number entries with
    | nil =>
      obtain rfl : [] = entries := congrArg TableScan.entries h
      exact ⟨[], .nil, rfl⟩
    | cons line lines ih =>
      rcases yields_or_stops entry line with ⟨found, hline⟩ | ⟨cause, hstops⟩
      · rw [scanTexts_of_yields hline] at h
        have hrest : scanTexts entry (number + 1) lines =
            ⟨(scanTexts entry (number + 1) lines).entries, none⟩ :=
          congrArg (TableScan.mk _) (congrArg TableScan.fault h)
        obtain ⟨others, hothers, hentries⟩ := ih (number + 1) hrest
        refine ⟨found :: others, .cons hline hothers, ?_⟩
        have hpush : found.toList ++ _ = entries := congrArg TableScan.entries h
        rw [← hpush, hentries]
        cases found <;> rfl
      · have hfault := fault_of_stops hstops number lines
        rw [h] at hfault
        cases hfault
  · rintro ⟨found, hfound, rfl⟩
    induction hfound generalizing number with
    | nil => rfl
    | @cons line found lines others hline _ ih =>
      rw [scanTexts_of_yields hline, ih]
      cases found <;> rfl

/-- What a text is read as, if it can be read. -/
theorem ofBytes_ok_iff {origin s : String} {entries : List α} :
    ofBytes entry origin (Text.toBytes s) = .ok entries ↔
      ∃ found, List.Forall₂ (Yields entry) (Text.lines s) found ∧
        entries = found.reduceOption := by
  rw [ofBytes, scan_toBytes, ← scanTexts_eq_iff 1]
  generalize scanTexts entry 1 (Text.lines s) = scan
  obtain ⟨found, fault⟩ := scan
  cases fault with
  | none => simp [TableScan.result]
  | some fault => cases fault <;> simp [TableScan.result]

/-- A scan without a fault has read all lines as texts. -/
theorem spells_of_scanLines {number : Nat} {lines : List (List UInt8)}
    (h : (scanLines entry number lines).fault = none) : ∀ line ∈ lines, Text.Spells line := by
  induction lines generalizing number with
  | nil => exact List.forall_mem_nil _
  | cons line lines ih =>
    rw [scanLines] at h
    cases htext : Text.ofBytes? (Line.body line) with
    | none =>
      rw [htext] at h
      cases h
    | some text =>
      have hline : Text.Spells line :=
        Text.spells_body_iff.1 ⟨text, Text.ofBytes?_eq_some_iff.1 htext⟩
      rw [htext] at h
      dsimp only at h
      refine List.forall_mem_cons.2 ⟨hline, ?_⟩
      split at h
      · exact ih h
      · cases hread : entry text with
        | error cause =>
          rw [hread] at h
          cases h
        | ok found =>
          rw [hread] at h
          exact ih h

/-- Bytes that can be read as a table are a text. -/
theorem spells_of_ofBytes {origin : String} {bytes : List UInt8} {entries : List α}
    (h : ofBytes entry origin bytes = .ok entries) : Text.Spells bytes := by
  have hfault : (scan entry bytes).fault = none := by
    rw [ofBytes, TableScan.result] at h
    split at h
    · assumption
    · cases h
    · cases h
  rw [← Line.flatten_all bytes]
  exact Text.spells_flatten (spells_of_scanLines hfault)

/-- What the lines of a text yield, each with a newline behind it, is what the text is read as. -/
theorem ofBytes_rows (rows : List (String × Option α))
    (hline : ∀ row ∈ rows, '\n' ∉ row.1.toList)
    (hrow : ∀ row ∈ rows, Yields entry row.1 row.2) (origin : String) :
    ofBytes entry origin (Text.toBytes (Text.ofLines (rows.map Prod.fst))) =
      .ok (rows.map Prod.snd).reduceOption := by
  have hrows : List.Forall₂ (Yields entry) (rows.map Prod.fst) (rows.map Prod.snd) := by
    rw [List.forall₂_map_left_iff, List.forall₂_map_right_iff, List.forall₂_same]
    exact hrow
  -- Behind the newline of the last line there is an empty one.
  have hlast : List.Forall₂ (Yields entry) [""] [none] := .cons (.blank rfl) .nil
  rw [ofBytes_ok_iff, Text.lines_ofLines (List.forall_mem_map.2 hline)]
  refine ⟨rows.map Prod.snd ++ [none], List.rel_append hrows hlast, ?_⟩
  rw [List.reduceOption_append, List.reduceOption_cons_of_none, List.reduceOption_nil,
    List.append_nil]

/-- Entries that are read back from their own lines are read back from all of the lines. -/
theorem ofBytes_ofLines {print : α → String} {entries : List α}
    (hline : ∀ x ∈ entries, '\n' ∉ (print x).toList)
    (hblank : ∀ x ∈ entries, Text.allBlank (print x) = false)
    (hread : ∀ x ∈ entries, entry (print x) = .ok (some x)) (origin : String) :
    ofBytes entry origin (Text.toBytes (Text.ofLines (entries.map print))) = .ok entries := by
  have hrows := ofBytes_rows (entries.map fun x => (print x, some x))
    (List.forall_mem_map.2 hline)
    (List.forall_mem_map.2 fun x hx => .read (hblank x hx) (hread x hx)) origin
  rw [List.map_map, List.map_map] at hrows
  rw [show entries.map print = entries.map (Prod.fst ∘ fun x => (print x, some x)) from rfl, hrows]
  simp [List.reduceOption, List.filterMap_map]

/-! ### The laws of reading line by line -/

/-- What it means that tables are read line by line, and no further than to the first bad line.
    The first piece `a` of a stream is made of whole lines; all other pieces are any bytes. -/
structure LineWise (read : List UInt8 → Except (TableError ε) (List α)) : Prop where
  /-- An error in a piece is one in whatever it begins. -/
  failed {a : List UInt8} (h : Line.Whole a) {error : TableError ε} (ha : read a = .error error)
    (b : List UInt8) : read (a ++ b) = .error error
  /-- The entries of two pieces are those of the one and those of the other. -/
  joined {a b : List UInt8} (h : Line.Whole a) {entries further : List α}
    (ha : read a = .ok entries) (hb : read b = .ok further) :
    read (a ++ b) = .ok (entries ++ further)
  /-- A piece that is no text is none behind another piece either. -/
  unreadable {a b : List UInt8} (h : Line.Whole a) {entries : List α} {path : String}
    {cause : ReadFailure} (ha : read a = .ok entries)
    (hb : read b = .error (.unreadable path cause)) :
    read (a ++ b) = .error (.unreadable path cause)
  /-- A malformed line has a number that is higher by the newlines in front of its piece. -/
  malformed {a b : List UInt8} (h : Line.Whole a) {entries : List α} {path : String}
    {number : Nat} {cause : ε} (ha : read a = .ok entries)
    (hb : read b = .error (.malformed path number cause)) :
    read (a ++ b) = .error (.malformed path (number + a.count Line.newline) cause)
  /-- Blank lines hold no entries. -/
  blank {text : String} (h : Text.allBlank text = true) : read (Text.toBytes text) = .ok []
  /-- A blank line counts as a line. -/
  counted {line : String} (h : Text.allBlank line = true) (hline : '\n' ∉ line.toList)
    (b : List UInt8) :
    read (Text.toBytes line ++ Line.newline :: b) = (read b).mapError (.later 1)
  /-- The last line can do without its newline. -/
  ended (bytes : List UInt8) : read (bytes ++ [Line.newline]) = read bytes
  /-- A line holds one entry at most. -/
  single {line : List UInt8} (h : Line.newline ∉ line) {entries : List α}
    (hline : read line = .ok entries) : entries.length ≤ 1

theorem ofBytes_blank (origin : String) {text : String} (h : Text.allBlank text = true) :
    ofBytes entry origin (Text.toBytes text) = .ok [] := by
  rw [ofBytes, scan_toBytes, scanTexts_blank (Text.allBlank_of_mem_lines h)]
  rfl

theorem ofBytes_blank_line (origin : String) {line : String} (h : Text.allBlank line = true)
    (hline : '\n' ∉ line.toList) (b : List UInt8) :
    ofBytes entry origin (Text.toBytes line ++ Line.newline :: b) =
      (ofBytes entry origin b).mapError (.later 1) := by
  have hfree : Line.newline ∉ Text.toBytes line := fun hmem =>
    hline (Text.newline_mem_toBytes.1 hmem)
  rw [ofBytes, scan, Line.all_whole b hfree, scanLines, Line.body_whole, Text.ofBytes?_toBytes]
  dsimp only
  rw [if_pos h, scanLines_add, TableScan.result_later]
  rfl

theorem ofBytes_newline (origin : String) (bytes : List UInt8) :
    ofBytes entry origin (bytes ++ [Line.newline]) = ofBytes entry origin bytes := by
  rw [ofBytes, scan, scanLines_newline]
  rfl

theorem length_le_of_ofBytes {origin : String} {bytes : List UInt8} {entries : List α}
    (h : ofBytes entry origin bytes = .ok entries) :
    entries.length ≤ (Line.all bytes).length := by
  have hle : (scan entry bytes).entries.length ≤ (Line.all bytes).length :=
    length_entries_le 1 (Line.all bytes)
  rw [ofBytes, TableScan.result] at h
  split at h
  · obtain rfl := Except.ok.inj h
    exact hle
  · cases h
  · cases h

theorem length_all_le_one {line : List UInt8} (h : Line.newline ∉ line) :
    (Line.all line).length ≤ 1 := by
  by_cases hne : line = []
  · rw [hne]
    exact Nat.zero_le 1
  · rw [Line.all_last hne h]
    exact Nat.le_refl 1

/-- All readers of tables go by lines, whatever reads their entries. -/
theorem lineWise_ofBytes (entry : String → Except ε (Option α)) (origin : String) :
    LineWise (ofBytes entry origin) where
  failed h error ha b := by
    rw [ofBytes_append origin h, ha]
    rfl
  joined h entries further ha hb := by
    rw [ofBytes_append origin h, ha, hb]
    rfl
  unreadable h entries path cause ha hb := by
    rw [ofBytes_append origin h, ha, hb]
    rfl
  malformed h entries path number cause ha hb := by
    rw [ofBytes_append origin h, ha, hb]
    rfl
  blank h := ofBytes_blank origin h
  counted h hline b := ofBytes_blank_line origin h hline b
  ended bytes := ofBytes_newline origin bytes
  single h entries hline :=
    Nat.le_trans (length_le_of_ofBytes hline) (length_all_le_one h)

/-- The mounts, the controllers and the memberships of the process are read line by line. -/
theorem readers_lineWise (origin : String) :
    LineWise (fun bytes => (Mount.ofBytes origin bytes).value) ∧
    LineWise (ControllerRow.ofBytes origin) ∧
    LineWise (Membership.ofBytes origin) :=
  ⟨lineWise_ofBytes Mount.parse origin, lineWise_ofBytes ControllerRow.parse origin,
    lineWise_ofBytes Membership.parse origin⟩

/-- The bad line of a second piece is counted from the start of the first, with the blank line in
    front of it, and the bytes behind it are not looked at. -/
theorem readers_lineWise_badLine :
    let first := Text.toBytes "#name id\ncpu 4 1 1\n"
    let second := Text.toBytes " \t\ncpu x 1 1\n" ++ [0xff]
    ControllerRow.ofBytes "cgroups" first = .ok [⟨"cpu", 4, 1, true⟩] ∧
    ControllerRow.ofBytes "cgroups" second =
      .error (.malformed "cgroups" 2 (.invalidNumber "x" "cpu x 1 1" .invalidDigit)) ∧
    ControllerRow.ofBytes "cgroups" (first ++ second) =
      .error (.malformed "cgroups" 4 (.invalidNumber "x" "cpu x 1 1" .invalidDigit)) := by
  intro first second
  have hfirst : ControllerRow.ofBytes "cgroups" first = .ok [⟨"cpu", 4, 1, true⟩] := by
    decide +kernel
  have hsecond : ControllerRow.ofBytes "cgroups" second =
      .error (.malformed "cgroups" 2 (.invalidNumber "x" "cpu x 1 1" .invalidDigit)) := by
    decide +kernel
  exact ⟨hfirst, hsecond,
    (readers_lineWise "cgroups").2.1.malformed (Or.inr (by decide +kernel)) hfirst hsecond⟩

end Table

end CgroupLimits
