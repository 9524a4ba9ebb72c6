import CgroupLimits.Proofs.Lookup
import CgroupLimits.Proofs.SingleLines
import CgroupLimits.Proofs.Unlimited

/-! Control files with known contents, and what reading them gives.

    A number printed into a file is read back, whether it is the only word of the first line, one of
    two, or the value of a key in a line of its own. `Holds` and `Tabulates` say what a file has to
    look like for that, and that its lines are within the bound. -/

namespace CgroupLimits

namespace Metric

/-- The metric of an amount that is a limit below `bound` only. -/
def ofAmountBelow (bound n : Nat) : Int := if n < bound then ofAmount n else unknown

theorem ofLimit_cut (bound n : Nat) :
    ofLimit (if n < bound then .value n else .unlimited) = ofAmountBelow bound n := by
  unfold ofAmountBelow
  split <;> rfl

end Metric

/-! ### The first line of a file -/

namespace ControlLine

theorem number_toString {n : Nat} (path : String) (hn : n ≤ Numeral.max64) :
    number path (toString n) = .ok n :=
  number_ok_iff.2 ⟨Numeral.writes_toString n, hn⟩

/-- Whether a line is within a bound, and with its newline below what 64 bits count. -/
def Fits (most : Nat) (line : String) : Prop :=
  (Text.toBytes line).length ≤ most ∧ (Text.toBytes line).length < Numeral.max64

instance (most : Nat) (line : String) : Decidable (Fits most line) :=
  inferInstanceAs (Decidable (_ ∧ _))

/-- The first line of a file that begins with it. -/
theorem first_of_fits {path line : String} {most : Nat} {rest : List UInt8} (hne : line ≠ "")
    (hfree : '\n' ∉ line.toList) (hrest : rest = [] ∨ ∃ more, rest = Line.newline :: more)
    (hfits : Fits most line) :
    first path most (.file (Text.toBytes line ++ rest)) = .ok line := by
  have hfirst : Line.First line (Text.toBytes line ++ rest) := by
    rcases hrest with rfl | ⟨more, rfl⟩
    · rw [List.append_nil]
      exact .last hne hfree
    · exact .whole more hfree
  have hmeasured : Measured most (.file (Text.toBytes line ++ rest)) := by
    intro bytes hfile
    obtain rfl := Opened.file.inj hfile
    exact Or.inr (Nat.le_trans hfirst.length_cut_le hfits.2)
  exact (first_ok_iff hmeasured).2 ⟨_, rfl, hfirst, hfits.1⟩

end ControlLine

namespace ControlDirectory

variable {d : ControlDirectory} {files : Files} {name : String}

/-- Whether `line` is the first line of a control file, and within the bound. -/
def Holds (d : ControlDirectory) (files : Files) (name line : String) : Prop :=
  ∃ path rest, d.path name = .ok path ∧ files path = .file (Text.toBytes line ++ rest) ∧
    (rest = [] ∨ ∃ more, rest = Line.newline :: more) ∧ ControlLine.Fits d.maxLineLength line

/-- Whether there is no control file of that name. -/
def Lacks (d : ControlDirectory) (files : Files) (name : String) : Prop :=
  ∃ path, d.path name = .ok path ∧ files path = .failed .missing

theorem readLine_of_holds {line : String} (h : Holds d files name line) (hne : line ≠ "")
    (hfree : '\n' ∉ line.toList) :
    ∃ path, ∀ {α : Type} (reader : String → String → Except ControlError α),
      d.readLine files name reader = reader path line := by
  obtain ⟨path, rest, hpath, hfile, hrest, hfits⟩ := h
  refine ⟨path, fun reader => ?_⟩
  simp only [readLine, hpath, hfile, bind, Except.bind,
    ControlLine.first_of_fits hne hfree hrest hfits]

theorem readLine_of_word {w : String} (h : Holds d files name w) (hw : Text.IsWord w) :
    ∃ path, ∀ {α : Type} (reader : String → String → Except ControlError α),
      (d.readLine files name fun path line => ControlLine.word path line >>= reader path) =
        reader path w := by
  obtain ⟨path, hread⟩ := readLine_of_holds h hw.1 hw.newline_not_mem
  refine ⟨path, fun reader => ?_⟩
  rw [hread, ControlLine.word, hw.words]
  rfl

theorem readLine_of_two {w v : String} (h : Holds d files name (w ++ " " ++ v))
    (hw : Text.IsWord w) (hv : Text.IsWord v) :
    ∃ path, ∀ {α : Type} (position : Position) (reader : String → String → Except ControlError α),
      (d.readLine files name fun path line =>
        ControlLine.wordOfTwo position path line >>= reader path) =
        reader path (match position with | .first => w | .second => v) := by
  have hfree : '\n' ∉ (w ++ " " ++ v).toList := by
    simp [hw.newline_not_mem, hv.newline_not_mem]
  obtain ⟨path, hread⟩ := readLine_of_holds h (by simp) hfree
  refine ⟨path, fun position reader => ?_⟩
  rw [hread, ControlLine.wordOfTwo, hw.words_two hv]
  rfl

/-! ### Numbers in control files -/

section Number

variable {n : Nat}

theorem readNumber_of_holds (h : Holds d files name (toString n)) (hn : n ≤ Numeral.max64) :
    d.readNumber files name = .ok n := by
  obtain ⟨path, hread⟩ := readLine_of_word h (Numeral.isWord_toString n)
  rw [readNumber, hread, ControlLine.number_toString path hn]

theorem readSigned_of_holds (h : Holds d files name (toString n)) (hn : n ≤ Numeral.max63) :
    d.readSigned files name = .ok (n : Int) := by
  obtain ⟨path, hread⟩ := readLine_of_word h (Numeral.isWord_toString n)
  rw [readSigned, hread, ControlLine.signed, (Numeral.writes_toString n).signed_ok hn]
  rfl

theorem readLimit_of_max (h : Holds d files name "max") (bound : Nat) :
    d.readLimit files name bound = .ok .unlimited := by
  obtain ⟨path, hread⟩ := readLine_of_word h (by decide)
  rw [readLimit, hread]
  rfl

theorem numberMetric_of_holds (what : String) (h : Holds d files name (toString n))
    (hn : n ≤ Numeral.max64) : (d.numberMetric files name what).value = Metric.ofAmount n := by
  rw [numberMetric, Logged.value_map, number, value_observe, readNumber_of_holds h hn]
  rfl

theorem limitMetric_of_holds (what : String) (bound : Nat) (h : Holds d files name (toString n))
    (hn : n ≤ Numeral.max64) :
    (d.limitMetric files name what bound).value = Metric.ofAmountBelow bound n := by
  rw [value_limitMetric, readLimit_of_readNumber bound (readNumber_of_holds h hn)]
  exact Metric.ofLimit_cut bound n

theorem value_number_of_lacks (what : String) (h : Lacks d files name) :
    (d.number files name what).value = none := by
  obtain ⟨path, hpath, hfile⟩ := h
  have hread : d.readNumber files name = .error (.cannotOpen path .missing) := by
    simp only [readNumber, readLine, hpath, hfile, bind, Except.bind, ControlLine.first]
  rw [number, value_observe, hread]
  rfl

end Number

end ControlDirectory

/-! ### Lines of keys and values -/

namespace ControlTable

/-- Whether a line begins with the key and a space or tab. -/
def Begins (key line : String) : Prop :=
  ∃ (sep : Char) (behind : String), (sep = ' ' ∨ sep = '\t') ∧
    line = key ++ String.singleton sep ++ behind

theorem begins_iff {key line : String} : Begins key line ↔
    key.toList ++ [' '] <+: line.toList ∨ key.toList ++ ['\t'] <+: line.toList := by
  have hsplit : ∀ (sep : Char) (behind : List Char),
      line = key ++ String.singleton sep ++ String.ofList behind ↔
        key.toList ++ [sep] ++ behind = line.toList := by
    intro sep behind
    rw [← String.toList_inj, eq_comm]
    simp
  constructor
  · rintro ⟨sep, behind, rfl | rfl, hline⟩
    · exact Or.inl ⟨behind.toList, (hsplit _ _).1 (by simpa using hline)⟩
    · exact Or.inr ⟨behind.toList, (hsplit _ _).1 (by simpa using hline)⟩
  · rintro (⟨behind, hline⟩ | ⟨behind, hline⟩)
    · exact ⟨' ', String.ofList behind, Or.inl rfl, (hsplit _ _).2 hline⟩
    · exact ⟨'\t', String.ofList behind, Or.inr rfl, (hsplit _ _).2 hline⟩

instance (key line : String) : Decidable (Begins key line) := decidable_of_iff _ begins_iff.symm

/-- Whether just one of the lines is about the key, and gives it the value `n`. -/
def Gives (lines : List String) (key : String) (n : Nat) : Prop :=
  ∃ before after, lines = before ++ (key ++ " " ++ toString n) :: after ∧
    ∀ line ∈ before ++ after, ¬ Begins key line

theorem wordFor?_of_not_begins {key line : String} (h : ¬ Begins key line) :
    wordFor? key line = none := by
  cases hword : wordFor? key line with
  | none => rfl
  | some w =>
    obtain ⟨sep, behind, hsep, hline, -⟩ := wordFor?_eq_some_iff.1 hword
    exact absurd ⟨sep, behind, hsep, hline⟩ h

theorem findSome?_of_not_begins {key : String} {lines : List String} (path : String)
    (h : ∀ line ∈ lines, ¬ Begins key line) :
    (lines.findSome? fun line => (wordFor? key line).map (ControlLine.number path)) = none := by
  refine List.findSome?_eq_none_iff.2 fun line hline => ?_
  rw [wordFor?_of_not_begins (h line hline), Option.map_none]

theorem wordFor?_number (key : String) (n : Nat) :
    wordFor? key (key ++ " " ++ toString n) = some (toString n) := by
  refine wordFor?_eq_some_iff.2 ⟨' ', toString n, Or.inl rfl, rfl, ?_⟩
  rw [(Numeral.isWord_toString n).words]
  rfl

theorem wordFor?_empty (key : String) : wordFor? key "" = none := by
  refine wordFor?_of_not_begins ?_
  rintro ⟨sep, behind, -, hempty⟩
  simpa using congrArg String.toList hempty

section Lines

variable (path key : String) {most : Nat} {s : String}
  (hfits : ∀ line ∈ Text.lines s, ControlLine.Fits most line)

include hfits

theorem findSome?_lookup_text : (Line.all (Text.toBytes s)).findSome? (lookup path key most) =
    (Text.lines s).findSome? fun line => (wordFor? key line).map (ControlLine.number path) := by
  induction s using Text.texts_induction with
  | last s hfree =>
    rw [Text.lines_last hfree, List.forall_mem_singleton] at hfits
    rw [Text.lines_last hfree, List.findSome?_singleton]
    by_cases hne : s = ""
    · rw [hne, Text.toBytes_empty, wordFor?_empty]
      rfl
    · have hbody : Line.body (Text.toBytes s) = Text.toBytes s :=
        Line.body_last (mt Text.newline_mem_toBytes.1 hfree)
      have hshort : (Line.body (Text.toBytes s)).length ≤ most := by
        rw [hbody]
        exact hfits.1
      rw [Text.all_toBytes_last hne hfree, List.findSome?_singleton, lookup_text hshort hbody]
  | whole t u ht ih =>
    rw [Text.lines_whole u ht, List.forall_mem_cons] at hfits
    have hbody : Line.body (Text.toBytes (t ++ "\n")) = Text.toBytes t := by
      rw [Text.toBytes_newline, Line.body_whole]
    rw [Text.all_toBytes_whole u ht, Text.lines_whole u ht, List.findSome?_cons,
      List.findSome?_cons, lookup_text (hbody ▸ hfits.1.1) hbody, ih hfits.2]

theorem measured_of_fits : Line.Measured most (Text.toBytes s) := by
  refine Or.inr fun line hline => ?_
  obtain ⟨text, hmem, rfl | rfl⟩ := Text.exists_of_mem_all hline
  · exact Nat.le_of_lt (hfits text hmem).2
  · rw [Text.toBytes_newline, List.length_append]
    exact (hfits text hmem).2

theorem value_search_text : (search path key most (Text.toBytes s)).value =
    ((Text.lines s).findSome? fun line => (wordFor? key line).map (ControlLine.number path)).getD
      (.error (.keyMissing path key)) := by
  rw [value_search path key most (measured_of_fits hfits), findSome?_lookup_text path key hfits]

theorem search_of_gives {n : Nat} (h : Gives (Text.lines s) key n) (hn : n ≤ Numeral.max64) :
    (search path key most (Text.toBytes s)).value = .ok n := by
  obtain ⟨before, after, hlines, hother⟩ := h
  have hbefore := findSome?_of_not_begins path fun line hline =>
    hother line (List.mem_append_left after hline)
  rw [value_search_text path key hfits, hlines, List.findSome?_append, hbefore, List.findSome?_cons,
    wordFor?_number, Option.map_some, ControlLine.number_toString path hn]
  rfl

theorem search_of_not_begins (h : ∀ line ∈ Text.lines s, ¬ Begins key line) :
    (search path key most (Text.toBytes s)).value = .error (.keyMissing path key) := by
  rw [value_search_text path key hfits, findSome?_of_not_begins path h]
  rfl

end Lines

end ControlTable

/-! ### Values of keys in control files -/

namespace ControlDirectory

/-- Whether a control file is the text, and all its lines are within the bound. -/
def Tabulates (d : ControlDirectory) (files : Files) (name text : String) : Prop :=
  ∃ path, d.path name = .ok path ∧ files path = .file (Text.toBytes text) ∧
    ∀ line ∈ Text.lines text, ControlLine.Fits d.maxLineLength line

section Key

variable {d : ControlDirectory} {files : Files} {name text key : String}

theorem keyMetric_of_gives {n : Nat} (what : String) (h : Tabulates d files name text)
    (hkey : ControlTable.Gives (Text.lines text) key n) (hn : n ≤ Numeral.max64) :
    (d.keyMetric files name key what).value = Metric.ofAmount n := by
  obtain ⟨path, hpath, hfile, hfits⟩ := h
  have hread : (d.readKey files name key).value = .ok n := by
    simp only [readKey, hpath, hfile]
    exact ControlTable.search_of_gives path key hfits hkey hn
  rw [keyMetric, Logged.value_map, ControlDirectory.key, Logged.value_bind, value_observe, hread]
  rfl

theorem readKey_of_not_begins (h : Tabulates d files name text)
    (hkey : ∀ line ∈ Text.lines text, ¬ ControlTable.Begins key line) (m : Nat) :
    (d.readKey files name key).value ≠ .ok m := by
  obtain ⟨path, hpath, hfile, hfits⟩ := h
  simp only [readKey, hpath, hfile]
  rw [ControlTable.value, ControlTable.search_of_not_begins path key hfits hkey]
  nofun

end Key

end ControlDirectory

end CgroupLimits
