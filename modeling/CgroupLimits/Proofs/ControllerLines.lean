import CgroupLimits.Proofs.Numerals
import CgroupLimits.Proofs.Readings
import CgroupLimits.Proofs.Scans

/-! The lines of the kernel's table of controllers, as a grammar and as the kernel writes them.

    A line is blank, a comment or a row of four words. What counts as a comment is told by the very
    first character, before the words are looked at, so a name may begin with the mark of a comment
    behind a blank. `ControllerRow.Tells` says what a good line holds and `ControllerRow.Flaw` what
    is wrong with any other: the words are counted first, then the numbers are read from the
    left. -/

namespace CgroupLimits

/-! ### Words with any blanks between them -/

namespace Text

theorem words_blanks {g : String} (hg : allBlank g = true) (s : String) :
    words (g ++ s) = words s := by
  obtain ⟨cs, rfl⟩ := g.exists_eq_ofList
  induction cs with
  | nil => rw [String.ofList_nil, String.empty_append]
  | cons c cs ih =>
    simp only [allBlank, String.toList_ofList, List.all_cons, Bool.and_eq_true] at hg ih
    have hsplit : String.ofList (c :: cs) ++ s =
        String.singleton c ++ (String.ofList cs ++ s) := by
      rw [← String.toList_inj]
      simp
    rw [hsplit, words_blank hg.1, ih hg.2]

/-- What stands between two words of a line: blanks, at least one. -/
structure Gap (g : String) : Prop where
  nonempty : g ≠ ""
  blank : allBlank g = true
  newline : '\n' ∉ g.toList

instance (g : String) : Decidable (Gap g) :=
  decidable_of_iff (g ≠ "" ∧ allBlank g = true ∧ '\n' ∉ g.toList)
    ⟨fun h => ⟨h.1, h.2.1, h.2.2⟩, fun h => ⟨h.nonempty, h.blank, h.newline⟩⟩

theorem words_gap {g : String} (hg : Gap g) (s t : String) :
    words (s ++ g ++ t) = words s ++ words t := by
  obtain ⟨cs, rfl⟩ := g.exists_eq_ofList
  cases cs with
  | nil => exact absurd rfl hg.nonempty
  | cons c cs =>
    have hblank := hg.blank
    simp only [allBlank, String.toList_ofList, List.all_cons, Bool.and_eq_true] at hblank
    have hsplit : s ++ String.ofList (c :: cs) ++ t =
        s ++ String.singleton c ++ (String.ofList cs ++ t) := by
      rw [← String.toList_inj]
      simp
    rw [hsplit, words_append hblank.1, words_blanks (by simpa [allBlank] using hblank.2)]

end Text

namespace ControllerRow

/-! ### Lines as a grammar -/

/-- Whether a word is a number of 32 bits, perhaps behind a plus sign. -/
def IsNumber (w : String) (n : Nat) : Prop := Numeral.Writes w n ∧ n ≤ Numeral.max32

/-- Whether a line holds no row by design: it is blank, or its very first character marks it as a
    comment. -/
def Idle (line : String) : Prop := Text.allBlank line = true ∨ line.toList.head? = some '#'

instance (line : String) : Decidable (Idle line) := inferInstanceAs (Decidable (_ ∨ _))

/-- Whether a line is a row: a name and three numbers, the last of which is one exactly if the
    controller is enabled. -/
def IsRow (line : String) (row : ControllerRow) : Prop :=
  ∃ fields flag, Text.words line = row.name :: fields ∧
    List.Forall₂ IsNumber fields [row.hierarchy, row.cgroupCount, flag] ∧
    (row.enabled = true ↔ flag = 1)

/-- What a good line tells: nothing or a row. -/
inductive Tells (line : String) : Option ControllerRow → Prop
  | nothing (h : Idle line) : Tells line none
  | row {row : ControllerRow} (hidle : ¬ Idle line) (h : IsRow line row) : Tells line (some row)

/-- What is wrong with a line that should be a row: it has more or fewer than four words, or four of
    them, and this is the leftmost behind the name that is no number. -/
inductive Flaw (line : String) : RowFault → Prop
  | fieldCount (h : (Text.words line).length ≠ 4) :
    Flaw line (.fieldCount 4 (Text.words line).length line)
  | invalidNumber {name w : String} {before behind : List String} {cause : NumeralFault}
    (hcount : (Text.words line).length = 4)
    (hwords : Text.words line = name :: (before ++ w :: behind))
    (hbefore : ∀ v ∈ before, ∃ n, IsNumber v n) (hbad : ¬ ∃ n, IsNumber w n)
    (hcause : Numeral.unsigned Numeral.max32 w = .error cause) :
    Flaw line (.invalidNumber w line cause)

/-- The numbers of a line, read from the left. -/
def numbers (line : String) (fields : List String) : Except RowFault (List Nat) :=
  fields.mapM (RowFault.number Numeral.max32 line)

section Numbers

variable {line : String} {fields : List String}

theorem numbers_ok_iff {ns : List Nat} :
    numbers line fields = .ok ns ↔ List.Forall₂ IsNumber fields ns := by
  simp only [numbers, mapM_ok_iff, RowFault.number_ok_iff]
  rfl

theorem numbers_error_iff {fault : RowFault} :
    numbers line fields = .error fault ↔ ∃ before w behind cause,
      fields = before ++ w :: behind ∧ (∀ v ∈ before, ∃ n, IsNumber v n) ∧
      Numeral.unsigned Numeral.max32 w = .error cause ∧ fault = .invalidNumber w line cause := by
  simp only [numbers, mapM_error_iff, RowFault.number_ok_iff, RowFault.number_error_iff, IsNumber,
    ← exists_and_left]

theorem not_isNumber_of_error {w : String} {cause : NumeralFault}
    (h : Numeral.unsigned Numeral.max32 w = .error cause) : ¬ ∃ n, IsNumber w n := by
  rintro ⟨n, hn⟩
  rw [Numeral.unsigned_ok_iff.2 hn] at h
  cases h

end Numbers

/-- The row of a name and the numbers behind it. -/
def ofNumbers (name : String) : List Nat → Option ControllerRow
  | [hierarchy, cgroupCount, flag] => some ⟨name, hierarchy, cgroupCount, flag = 1⟩
  | _ => none

section Line

variable {line : String} (hcomment : line.toList.head? ≠ some '#')

include hcomment

theorem parse_of_count (hcount : (Text.words line).length ≠ 4) :
    parse line = .error (.fieldCount 4 (Text.words line).length line) := by
  rw [parse, if_neg hcomment]
  split
  · rename_i hwords
    exact absurd (by rw [hwords]; rfl) hcount
  · rfl

/-- A line of four words fails or not as its numbers do. -/
theorem parse_of_numbers {name : String} {fields : List String}
    (hwords : Text.words line = name :: fields) (hcount : fields.length = 3) :
    parse line = (numbers line fields).map (ofNumbers name) := by
  obtain ⟨hierarchy, count, flag, rfl⟩ := List.length_eq_three.1 hcount
  simp only [parse, if_neg hcomment, hwords, numbers, List.mapM_cons, List.mapM_nil]
  cases RowFault.number Numeral.max32 line hierarchy with
  | error fault => rfl
  | ok n =>
    cases RowFault.number Numeral.max32 line count with
    | error fault => rfl
    | ok m => cases RowFault.number Numeral.max32 line flag <;> rfl

theorem IsRow.parse_eq {row : ControllerRow} (h : IsRow line row) :
    parse line = .ok (some row) := by
  obtain ⟨fields, flag, hwords, hnumbers, henabled⟩ := h
  have hflag : decide (flag = 1) = row.enabled := by
    rw [Bool.eq_iff_iff, decide_eq_true_iff, henabled]
  rw [parse_of_numbers hcomment hwords hnumbers.length_eq, numbers_ok_iff.2 hnumbers]
  show Except.ok (some (ControllerRow.mk _ _ _ (decide (flag = 1)))) = _
  rw [hflag]

theorem Flaw.parse_eq {fault : RowFault} (h : Flaw line fault) : parse line = .error fault := by
  cases h with
  | fieldCount hcount => exact parse_of_count hcomment hcount
  | @invalidNumber name w before behind cause hcount hwords hbefore _ hcause =>
    have hfields : (before ++ w :: behind).length = 3 := by
      rw [hwords] at hcount
      exact Nat.succ.inj hcount
    have hnumbers : numbers line (before ++ w :: behind) = .error (.invalidNumber w line cause) :=
      numbers_error_iff.2 ⟨before, w, behind, cause, rfl, hbefore, hcause, rfl⟩
    rw [parse_of_numbers hcomment hwords hfields, hnumbers]
    rfl

end Line

/-- A line is a row or has a flaw. -/
theorem isRow_or_flaw (line : String) : (∃ row, IsRow line row) ∨ ∃ fault, Flaw line fault := by
  by_cases hcount : (Text.words line).length = 4
  · obtain ⟨name, fields, hwords, hfields⟩ := List.length_eq_succ_iff.1 hcount
    cases hnumbers : numbers line fields with
    | ok ns =>
      have hns := numbers_ok_iff.1 hnumbers
      obtain ⟨hierarchy, count, flag, rfl⟩ :=
        List.length_eq_three.1 (hns.length_eq.symm.trans hfields)
      exact Or.inl ⟨⟨name, hierarchy, count, flag = 1⟩, fields, flag, hwords.symm, hns, by simp⟩
    | error fault =>
      obtain ⟨before, w, behind, cause, rfl, hbefore, hcause, rfl⟩ :=
        numbers_error_iff.1 hnumbers
      exact Or.inr
        ⟨_, .invalidNumber hcount hwords.symm hbefore (not_isNumber_of_error hcause) hcause⟩
  · exact Or.inr ⟨_, .fieldCount hcount⟩

theorem not_idle_iff {line : String} :
    ¬ Idle line ↔ Text.allBlank line = false ∧ line.toList.head? ≠ some '#' := by
  rw [Idle, not_or, Bool.not_eq_true]

/-- Reading a line adds to the table what the line tells. -/
theorem yields_iff {line : String} {found : Option ControllerRow} :
    Table.Yields parse line found ↔ Tells line found := by
  constructor
  · intro h
    cases h with
    | blank hblank => exact .nothing (Or.inl hblank)
    | read hblank hread =>
      by_cases hcomment : line.toList.head? = some '#'
      · rw [parse, if_pos hcomment] at hread
        obtain rfl := Except.ok.inj hread
        exact .nothing (Or.inr hcomment)
      · rcases isRow_or_flaw line with ⟨row, hrow⟩ | ⟨fault, hflaw⟩
        · rw [hrow.parse_eq hcomment] at hread
          obtain rfl := Except.ok.inj hread
          exact .row (not_idle_iff.2 ⟨hblank, hcomment⟩) hrow
        · rw [hflaw.parse_eq hcomment] at hread
          cases hread
  · intro h
    cases h with
    | nothing hidle =>
      cases hblank : Text.allBlank line with
      | true => exact .blank hblank
      | false =>
        have hcomment := hidle.resolve_left (by simp [hblank])
        exact .read hblank (if_pos hcomment)
    | row hidle hrow =>
      obtain ⟨hblank, hcomment⟩ := not_idle_iff.1 hidle
      exact .read hblank (hrow.parse_eq hcomment)

/-- Reading stops at a line that is not idle and has a flaw. -/
theorem stops_iff {line : String} {fault : RowFault} :
    Table.Stops parse line fault ↔ ¬ Idle line ∧ Flaw line fault := by
  constructor
  · rintro ⟨hblank, hread⟩
    have hcomment : line.toList.head? ≠ some '#' := by
      intro hcomment
      rw [parse, if_pos hcomment] at hread
      cases hread
    refine ⟨not_idle_iff.2 ⟨hblank, hcomment⟩, ?_⟩
    rcases isRow_or_flaw line with ⟨row, hrow⟩ | ⟨fault', hflaw⟩
    · rw [hrow.parse_eq hcomment] at hread
      cases hread
    · rw [hflaw.parse_eq hcomment] at hread
      obtain rfl := Except.error.inj hread
      exact hflaw
  · rintro ⟨hidle, hflaw⟩
    obtain ⟨hblank, hcomment⟩ := not_idle_iff.1 hidle
    exact ⟨hblank, hflaw.parse_eq hcomment⟩

/-! ### Tables as they are written -/

/-- What a row must have to be told from its line: a name that is a word and does not look like a
    comment, and numbers of 32 bits. -/
structure Printable (row : ControllerRow) : Prop where
  name : Text.IsWord row.name
  mark : row.name.toList.head? ≠ some '#'
  hierarchy : row.hierarchy ≤ Numeral.max32
  cgroupCount : row.cgroupCount ≤ Numeral.max32

/-- The line of a row with some text between its words. -/
def print (row : ControllerRow) (a b c : String) : String :=
  row.name ++ a ++ toString row.hierarchy ++ b ++ toString row.cgroupCount ++ c ++
    toString row.enabled.toNat

/-- Whether a line is written for a row, or for none: a comment, blanks, or the row with any blanks
    between its words. -/
inductive Written : String → Option ControllerRow → Prop
  | comment {text : String} (h : '\n' ∉ text.toList) : Written ("#" ++ text) none
  | blank {line : String} (h : Text.allBlank line = true) (hline : '\n' ∉ line.toList) :
    Written line none
  | row {row : ControllerRow} {a b c : String} (h : Printable row) (ha : Text.Gap a)
    (hb : Text.Gap b) (hc : Text.Gap c) : Written (row.print a b c) (some row)

section Printable

variable {row : ControllerRow} {a b c : String} (h : Printable row) (ha : Text.Gap a)
  (hb : Text.Gap b) (hc : Text.Gap c)

include h

theorem Printable.not_comment : (row.print a b c).toList.head? ≠ some '#' := by
  have hname : row.name.toList ≠ [] := by simpa using h.name.1
  have hhead : (row.print a b c).toList.head? = row.name.toList.head? := by
    simp only [print, String.toList_append, List.append_assoc, List.head?_append_of_ne_nil _ hname]
  rw [hhead]
  exact h.mark

include ha hb hc

theorem Printable.isRow_print : IsRow (row.print a b c) row := by
  have hnumber (n : Nat) : Text.words (toString n) = [toString n] :=
    (Numeral.isWord_toString n).words
  have hwords : Text.words (row.print a b c) = [row.name, toString row.hierarchy,
      toString row.cgroupCount, toString row.enabled.toNat] := by
    rw [print, Text.words_gap hc, Text.words_gap hb, Text.words_gap ha, h.name.words, hnumber,
      hnumber, hnumber]
    rfl
  have hflag : row.enabled.toNat ≤ Numeral.max32 := by cases row.enabled <;> decide
  refine ⟨_, row.enabled.toNat, hwords, ?_, by cases row.enabled <;> decide⟩
  exact .cons ⟨Numeral.writes_toString _, h.hierarchy⟩
    (.cons ⟨Numeral.writes_toString _, h.cgroupCount⟩
      (.cons ⟨Numeral.writes_toString _, hflag⟩ .nil))

theorem Printable.newline_not_mem : '\n' ∉ (row.print a b c).toList := by
  have hnumber (n : Nat) : '\n' ∉ (toString n).toList := (Numeral.isWord_toString n).newline_not_mem
  simp only [print, String.toList_append, List.mem_append, not_or]
  exact ⟨⟨⟨⟨⟨⟨h.name.newline_not_mem, ha.newline⟩, hnumber _⟩, hb.newline⟩, hnumber _⟩, hc.newline⟩,
    hnumber _⟩

end Printable

/-- A row has words, so it is not blank. -/
theorem IsRow.not_blank {line : String} {row : ControllerRow} (h : IsRow line row) :
    Text.allBlank line = false := by
  obtain ⟨fields, flag, hwords, -⟩ := h
  rw [Bool.eq_false_iff]
  intro hblank
  have hnone : Text.words line = [] := by
    have hblanks := Text.words_blanks hblank ""
    rwa [String.append_empty, Text.words_empty] at hblanks
  rw [hnone] at hwords
  cases hwords

theorem Written.tells {line : String} {found : Option ControllerRow} (h : Written line found) :
    Tells line found := by
  cases h with
  | comment _ => exact .nothing (Or.inr (by simp))
  | blank hblank _ => exact .nothing (Or.inl hblank)
  | row hprintable ha hb hc =>
    have hrow := hprintable.isRow_print ha hb hc
    exact .row (not_idle_iff.2 ⟨hrow.not_blank, hprintable.not_comment⟩) hrow

theorem Written.newline_not_mem {line : String} {found : Option ControllerRow}
    (h : Written line found) : '\n' ∉ line.toList := by
  cases h with
  | comment htext => simpa using htext
  | blank _ hline => exact hline
  | row hprintable ha hb hc => exact hprintable.newline_not_mem ha hb hc

theorem passes_iff {line : String} :
    Table.Passes parse line ↔ Idle line ∨ ∃ row, IsRow line row := by
  constructor
  · intro h
    rcases Table.yields_or_stops parse line with ⟨found, hyields⟩ | ⟨fault, hstops⟩
    · cases yields_iff.1 hyields with
      | nothing hidle => exact Or.inl hidle
      | row _ hrow => exact Or.inr ⟨_, hrow⟩
    · exact absurd h hstops.not_passes
  · intro h
    by_cases hidle : Idle line
    · exact (yields_iff.2 (.nothing hidle)).passes
    · obtain ⟨row, hrow⟩ := h.resolve_left hidle
      exact (yields_iff.2 (.row hidle hrow)).passes

/-- What a text of rows is read as. Rows that are written line by line, with any blanks between
    their words and with comments and blank lines among them, are read back in order. Any text is
    read as what its lines tell, and it can be read exactly if every line that is not idle is a row;
    else the first line of another kind is told, with what is wrong with it. -/
theorem table_grammar (origin : String) :
    (∀ lines : List (String × Option ControllerRow), (∀ line ∈ lines, Written line.1 line.2) →
      ofBytes origin (Text.toBytes (Text.ofLines (lines.map Prod.fst))) =
        .ok (lines.map Prod.snd).reduceOption) ∧
    (∀ s rows, ofBytes origin (Text.toBytes s) = .ok rows ↔
      ∃ found, List.Forall₂ Tells (Text.lines s) found ∧ rows = found.reduceOption) ∧
    (∀ s, (∃ rows, ofBytes origin (Text.toBytes s) = .ok rows) ↔
      ∀ line ∈ Text.lines s, Idle line ∨ ∃ row, IsRow line row) ∧
    (∀ (s : String) (error : TableError RowFault),
      ofBytes origin (Text.toBytes s) = .error error ↔
        ∃ before line behind fault, Text.lines s = before ++ line :: behind ∧
          (∀ text ∈ before, Idle text ∨ ∃ row, IsRow text row) ∧
          (¬ Idle line ∧ Flaw line fault) ∧
          error = .malformed origin (before.length + 1) fault) := by
  refine ⟨fun lines hlines => ?_, fun s rows => ?_, fun s => ?_, fun s error => ?_⟩
  · exact Table.ofBytes_rows lines (fun line hline => (hlines line hline).newline_not_mem)
      (fun line hline => yields_iff.2 (hlines line hline).tells) origin
  · have hyields : Table.Yields parse = Tells := funext₂ fun _ _ => propext yields_iff
    rw [← hyields]
    exact Table.ofBytes_ok_iff
  · simp only [← passes_iff]
    exact Table.exists_ofBytes_iff
  · simp only [← passes_iff, ← stops_iff]
    exact Table.ofBytes_error_iff

/-- The greatest number, a mark that is not the first character, and all kinds of blanks. -/
theorem table_grammar_spaced :
    let cpu : ControllerRow := ⟨"cpu", 4294967295, 1, true⟩
    let pids : ControllerRow := ⟨"p#ds", 0, 7, false⟩
    let lines : List (String × Option ControllerRow) :=
      [("#" ++ "subsys_name\tenabled", none), (cpu.print "\t " " " "\t\t", some cpu),
        (" \t", none), (pids.print " " "\t" "\u3000", some pids)]
    (∀ line ∈ lines, Written line.1 line.2) ∧
    Text.ofLines (lines.map Prod.fst) =
      "#subsys_name\tenabled\ncpu\t 4294967295 1\t\t1\n \t\np#ds 0\t7\u30000\n" ∧
    ofBytes "cgroups" (Text.toBytes (Text.ofLines (lines.map Prod.fst))) = .ok [cpu, pids] := by
  intro cpu pids lines
  have hwritten : ∀ line ∈ lines, Written line.1 line.2 := by
    have hcpu : Printable cpu := ⟨by decide, by decide, by decide, by decide⟩
    have hpids : Printable pids := ⟨by decide, by decide, by decide, by decide⟩
    refine List.forall_mem_cons.2 ⟨.comment (by decide), List.forall_mem_cons.2 ⟨?_, ?_⟩⟩
    · exact .row hcpu (by decide) (by decide) (by decide)
    · refine List.forall_mem_cons.2 ⟨.blank (by decide) (by decide), ?_⟩
      exact List.forall_mem_singleton.2 (.row hpids (by decide) (by decide) (by decide))
  exact ⟨hwritten, by decide, (table_grammar "cgroups").1 lines hwritten⟩

/-- Behind a blank the mark begins a name. Of two bad lines the first is told, and of its numbers
    the first that is none. -/
example : ofBytes "cgroups" (Text.toBytes "# 1\n #cpu +1 1 +01\n\ncpu 1 x y\ncpu 1\n") =
    .error (.malformed "cgroups" 4 (.invalidNumber "x" "cpu 1 x y" .invalidDigit)) := by
  decide +kernel

end ControllerRow

end CgroupLimits
