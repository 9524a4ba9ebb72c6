import CgroupLimits.Proofs.Numerals
import CgroupLimits.Proofs.Readings
import CgroupLimits.Proofs.Scans
import CgroupLimits.Proofs.Tables

/-! The lines of the table of memberships, as a grammar and as the printer writes them.

    A line is cut at its first two colons and nowhere else, so that a path may hold colons and
    blanks. `Membership.Regular` says which lines are memberships and `Membership.Flaw` what is
    wrong with any other: colons are counted before the number is looked at. Memberships that are
    printed are read back, whatever their paths. -/

namespace CgroupLimits

/-- A text has one part more than separators. -/
theorem Text.length_split (sep : Char → Bool) (s : String) :
    (split sep s).length = s.toList.countP sep + 1 := by
  have hprepend (cs before : List Char) :
      (cs.splitOnPPrepend sep before).length = cs.countP sep + 1 := by
    induction cs generalizing before with
    | nil => rfl
    | cons c cs ih =>
      cases hc : sep c with
      | true =>
        rw [List.splitOnPPrepend_cons_pos hc, List.countP_cons_of_pos hc]
        exact congrArg (· + 1) (ih [])
      | false =>
        rw [List.splitOnPPrepend_cons_neg hc, ih, List.countP_cons_of_neg (by simp [hc])]
  rw [split, List.length_map]
  exact hprepend s.toList []

namespace Membership

/-! ### The parts of a line -/

/-- How many colons a line has. -/
def colons (line : String) : Nat := line.toList.count ':'

/-- What stands in front of the first colon, which is all of a line without one. -/
def front (line : String) : String := String.ofList (line.toList.takeWhile (· ≠ ':'))

theorem parts?_eq_some_iff {line hierarchy controllers path : String} :
    parts? line = some (hierarchy, controllers, path) ↔
      line = hierarchy ++ ":" ++ (controllers ++ ":" ++ path) ∧ ':' ∉ hierarchy.toList ∧
        ':' ∉ controllers.toList := by
  have hcolon : ":".toList = [':'] := rfl
  simp only [parts?, Option.bind_eq_bind, Option.bind_eq_some_iff, Prod.exists,
    Text.cut?_eq_some_iff hcolon, Option.pure_def, Option.some.injEq, Prod.mk.injEq]
  constructor
  · rintro ⟨_, _, ⟨rfl, hfirst⟩, _, _, ⟨rfl, hsecond⟩, rfl, rfl, rfl⟩
    exact ⟨rfl, hfirst, hsecond⟩
  · rintro ⟨rfl, hfirst, hsecond⟩
    exact ⟨_, _, ⟨rfl, hfirst⟩, _, _, ⟨rfl, hsecond⟩, rfl, rfl, rfl⟩

theorem colons_append (a b : String) : colons (a ++ ":" ++ b) = colons a + 1 + colons b := by
  simp only [colons, String.toList_append, List.count_append]
  rfl

theorem colons_eq_zero_iff {line : String} : colons line = 0 ↔ ':' ∉ line.toList :=
  List.count_eq_zero

theorem parts?_eq_none_iff {line : String} : parts? line = none ↔ colons line < 2 := by
  have hcolon : ":".toList = [':'] := rfl
  cases hfirst : Text.cut? ":" line with
  | none =>
    have hnone := colons_eq_zero_iff.2 ((Text.cut?_eq_none_iff hcolon).1 hfirst)
    exact iff_of_true (by simp [parts?, hfirst]) (by omega)
  | some halves =>
    obtain ⟨hierarchy, behind⟩ := halves
    obtain ⟨rfl, hhierarchy⟩ := (Text.cut?_eq_some_iff hcolon).1 hfirst
    have hzero := colons_eq_zero_iff.2 hhierarchy
    have hparts : parts? (hierarchy ++ ":" ++ behind) = none ↔ ':' ∉ behind.toList := by
      rw [← Text.cut?_eq_none_iff hcolon]
      cases hsecond : Text.cut? ":" behind <;> simp [parts?, hfirst, hsecond]
    rw [hparts, colons_append, ← colons_eq_zero_iff]
    omega

theorem front_append {hierarchy behind : String} (h : ':' ∉ hierarchy.toList) :
    front (hierarchy ++ ":" ++ behind) = hierarchy := by
  have hfree : ∀ c ∈ hierarchy.toList, decide (c ≠ ':') = true := by
    intro c hc
    rw [decide_eq_true_iff]
    rintro rfl
    exact h hc
  rw [front, ← String.toList_inj, String.toList_ofList, String.toList_append,
    String.toList_append, List.append_assoc, List.takeWhile_append_of_pos hfree]
  simp

/-! ### Lines as a grammar -/

/-- Whether a line is a membership: it has two colons at least and a number of 32 bits, perhaps
    behind a plus sign, in front of the first. -/
def Regular (line : String) : Prop :=
  2 ≤ colons line ∧ ∃ n, Numeral.Writes (front line) n ∧ n ≤ Numeral.max32

/-- What is wrong with a line that is no membership: it has too few parts, or enough of them but no
    number of 32 bits as the first. -/
inductive Flaw (line : String) : RowFault → Prop
  | tooFew (h : colons line < 2) : Flaw line (.fieldCount 3 (colons line + 1) line)
  | noNumber {cause : NumeralFault} (h : 2 ≤ colons line)
      (hnumber : ¬ ∃ n, Numeral.Writes (front line) n ∧ n ≤ Numeral.max32)
      (hcause : Numeral.unsigned Numeral.max32 (front line) = .error cause) :
      Flaw line (.invalidNumber (front line) line cause)

theorem parse_of_few {line : String} (h : colons line < 2) :
    parse line = .error (.fieldCount 3 (colons line + 1) line) := by
  rw [parse, parts?_eq_none_iff.2 h, Text.length_split]
  rfl

theorem parse_of_cut {hierarchy controllers path : String} (hhierarchy : ':' ∉ hierarchy.toList)
    (hcontrollers : ':' ∉ controllers.toList) :
    let line := hierarchy ++ ":" ++ (controllers ++ ":" ++ path)
    parse line = (RowFault.number Numeral.max32 line hierarchy).map fun n =>
      some ⟨n, Text.fields (· == ',') controllers, path⟩ := by
  intro line
  rw [parse, parts?_eq_some_iff.2 ⟨rfl, hhierarchy, hcontrollers⟩]
  rfl

/-- A line with two colons fails or not as its number does. -/
theorem parse_of_enough {line : String} (h : 2 ≤ colons line) :
    ∃ controllers path, parse line =
      (RowFault.number Numeral.max32 line (front line)).map fun n =>
        some ⟨n, Text.fields (· == ',') controllers, path⟩ := by
  cases hparts : parts? line with
  | none => exact absurd (parts?_eq_none_iff.1 hparts) (Nat.not_lt.2 h)
  | some parts =>
    obtain ⟨hierarchy, controllers, path⟩ := parts
    obtain ⟨rfl, hhierarchy, hcontrollers⟩ := parts?_eq_some_iff.1 hparts
    rw [front_append hhierarchy]
    exact ⟨controllers, path, parse_of_cut hhierarchy hcontrollers⟩

theorem parse_ok_iff {line : String} : (∃ found, parse line = .ok found) ↔ Regular line := by
  by_cases hfew : colons line < 2
  · rw [parse_of_few hfew]
    exact iff_of_false nofun fun h => absurd h.1 (Nat.not_le.2 hfew)
  · obtain ⟨controllers, path, hparse⟩ := parse_of_enough (Nat.not_lt.1 hfew)
    rw [Regular, and_iff_right (Nat.not_lt.1 hfew), hparse]
    constructor
    · rintro ⟨found, h⟩
      obtain ⟨n, hn, -⟩ := exists_of_map_ok h
      exact ⟨n, RowFault.number_ok_iff.1 hn⟩
    · rintro ⟨n, hn⟩
      rw [RowFault.number_ok_iff.2 hn]
      exact ⟨_, rfl⟩

theorem parse_error_iff {line : String} {fault : RowFault} :
    parse line = .error fault ↔ Flaw line fault := by
  constructor
  · intro h
    have hirregular : ¬ Regular line := by
      rw [← parse_ok_iff, h]
      exact nofun
    by_cases hfew : colons line < 2
    · rw [parse_of_few hfew] at h
      obtain rfl := Except.error.inj h
      exact .tooFew hfew
    · have henough := Nat.not_lt.1 hfew
      obtain ⟨controllers, path, hparse⟩ := parse_of_enough henough
      rw [hparse] at h
      cases hnumber : RowFault.number Numeral.max32 line (front line) with
      | ok n =>
        rw [hnumber] at h
        cases h
      | error fault' =>
        rw [hnumber] at h
        obtain rfl := Except.error.inj h
        obtain ⟨cause, hcause, rfl⟩ := RowFault.number_error_iff.1 hnumber
        exact .noNumber henough (fun hn => hirregular ⟨henough, hn⟩) hcause
  · intro h
    cases h with
    | tooFew hfew => exact parse_of_few hfew
    | noNumber henough _ hcause =>
      obtain ⟨controllers, path, hparse⟩ := parse_of_enough henough
      rw [hparse, RowFault.number_error_iff.2 ⟨_, hcause, rfl⟩]
      rfl

/-! ### Printed memberships -/

/-- The line of a membership. -/
def print (m : Membership) : String :=
  toString m.hierarchy ++ ":" ++ (",".intercalate m.controllers ++ ":" ++ m.path)

/-- What a membership must have to be told from its line: a number of 32 bits, names that are not
    empty and hold no comma, colon or newline, and a path without a newline. -/
structure Printable (m : Membership) : Prop where
  hierarchy : m.hierarchy ≤ Numeral.max32
  controllers : ∀ name ∈ m.controllers,
    name ≠ "" ∧ ',' ∉ name.toList ∧ ':' ∉ name.toList ∧ '\n' ∉ name.toList
  path : '\n' ∉ m.path.toList

theorem not_mem_intercalate {c : Char} {names : List String} (hcomma : c ≠ ',')
    (h : ∀ name ∈ names, c ∉ name.toList) : c ∉ (",".intercalate names).toList := by
  induction names with
  | nil => exact List.not_mem_nil
  | cons name names ih =>
    obtain ⟨hname, hnames⟩ := List.forall_mem_cons.1 h
    by_cases hnil : names = []
    · rwa [hnil, String.intercalate_singleton]
    · have hrest := ih hnames
      rw [String.intercalate_cons_of_ne_nil hnil]
      simp only [String.toList_append, List.mem_append, not_or]
      exact ⟨⟨hname, by simpa using hcomma⟩, hrest⟩

/-- Names between commas are the names again, and no names are none. -/
theorem fields_intercalate {names : List String}
    (h : ∀ name ∈ names, name ≠ "" ∧ ',' ∉ name.toList) :
    Text.fields (· == ',') (",".intercalate names) = names := by
  by_cases hnil : names = []
  · subst hnil
    rfl
  · have hsplit : Text.split (· == ',') (",".intercalate names) = names :=
      Text.split_intercalate hnil fun name hname => (h name hname).2
    rw [Text.fields, hsplit, List.filter_eq_self]
    intro name hname
    exact decide_eq_true (h name hname).1

theorem not_mem_toString {c : Char} (h : c.isDigit = false) (n : Nat) :
    c ∉ (toString n).toList := by
  intro hmem
  have hlist : (toString n).toList = Nat.toDigits 10 n := Nat.toList_repr
  rw [hlist] at hmem
  have hdigit := Nat.isDigit_of_mem_toDigits (by decide) (by decide) hmem
  rw [h] at hdigit
  cases hdigit

section Printable

variable {m : Membership} (h : Printable m)

include h

theorem Printable.newline_not_mem : '\n' ∉ m.print.toList := by
  have hnumber := not_mem_toString (c := '\n') (by decide) m.hierarchy
  have hnames := not_mem_intercalate (c := '\n') (by decide) fun name hname =>
    (h.controllers name hname).2.2.2
  simp only [print, String.toList_append, List.mem_append, not_or]
  exact ⟨⟨hnumber, by decide⟩, ⟨hnames, by decide⟩, h.path⟩

theorem Printable.parse_print : parse m.print = .ok (some m) := by
  have hcontrollers := not_mem_intercalate (c := ':') (by decide) fun name hname =>
    (h.controllers name hname).2.2.1
  have hfields := fields_intercalate fun name hname =>
    ⟨(h.controllers name hname).1, (h.controllers name hname).2.1⟩
  have hnumber : Numeral.unsigned Numeral.max32 (toString m.hierarchy) = .ok m.hierarchy :=
    Numeral.unsigned_ok_iff.2 ⟨Numeral.writes_toString m.hierarchy, h.hierarchy⟩
  rw [print, parse_of_cut (not_mem_toString (by decide) m.hierarchy) hcontrollers,
    RowFault.number, hnumber, hfields]
  rfl

end Printable

/-- A colon is no blank. -/
theorem allBlank_print (m : Membership) : Text.allBlank m.print = false := by
  have hmem : ':' ∈ m.print.toList := by simp [print]
  rw [Text.allBlank, List.all_eq_false]
  exact ⟨':', hmem, by decide⟩

/-! ### Tables -/

theorem passes_iff {line : String} :
    Table.Passes parse line ↔ Text.allBlank line = true ∨ Regular line := by
  rw [Table.Passes, parse_ok_iff]

theorem stops_iff {line : String} {fault : RowFault} :
    Table.Stops parse line fault ↔ Text.allBlank line = false ∧ Flaw line fault := by
  rw [Table.Stops, parse_error_iff]

/-- What a text of memberships is read as. Memberships that are printed line by line are read back,
    and are unified exactly if they have the number 0 and name no controllers. Any text can be read
    exactly if all its lines are blank or have two colons and a number of 32 bits in front of the
    first; else the first line of another kind is told, with what is wrong with it. -/
theorem ofBytes_grammar (origin : String) :
    (∀ ms : List Membership, (∀ m ∈ ms, Printable m) →
      ofBytes origin (Text.toBytes (Text.ofLines (ms.map print))) = .ok ms) ∧
    (∀ m : Membership, m.isUnified = true ↔ m.hierarchy = 0 ∧ m.controllers = []) ∧
    (∀ s : String, (∃ ms, ofBytes origin (Text.toBytes s) = .ok ms) ↔
      ∀ line ∈ Text.lines s, Text.allBlank line = true ∨ Regular line) ∧
    (∀ (s : String) (error : TableError RowFault),
      ofBytes origin (Text.toBytes s) = .error error ↔
        ∃ before line behind fault, Text.lines s = before ++ line :: behind ∧
          (∀ text ∈ before, Text.allBlank text = true ∨ Regular text) ∧
          (Text.allBlank line = false ∧ Flaw line fault) ∧
          error = .malformed origin (before.length + 1) fault) := by
  refine ⟨fun ms hms => ?_, fun m => isUnified_iff, fun s => ?_, fun s error => ?_⟩
  · exact Table.ofBytes_ofLines (fun m hm => (hms m hm).newline_not_mem)
      (fun m _ => allBlank_print m) (fun m hm => (hms m hm).parse_print) origin
  · simp only [← passes_iff]
    exact Table.exists_ofBytes_iff
  · simp only [← passes_iff, ← stops_iff]
    exact Table.ofBytes_error_iff

/-- The greatest number, a path of colons and blanks, and the unified membership with no path. -/
theorem ofBytes_grammar_colons :
    let ms : List Membership :=
      [⟨4294967295, ["cpu", "name=x"], " /a::b "⟩, ⟨0, [], ""⟩]
    (∀ m ∈ ms, Printable m) ∧
    Text.ofLines (ms.map print) = "4294967295:cpu,name=x: /a::b \n0::\n" ∧
    ofBytes "cgroup" (Text.toBytes (Text.ofLines (ms.map print))) = .ok ms := by
  intro ms
  have hprintable : ∀ m ∈ ms, Printable m := by
    refine List.forall_mem_cons.2 ⟨⟨by decide, by decide, by decide⟩, ?_⟩
    exact List.forall_mem_singleton.2 ⟨by decide, by decide, by decide⟩
  exact ⟨hprintable, by decide, (ofBytes_grammar "cgroup").1 ms hprintable⟩

/-- Of two bad lines behind a blank one the first is told, and its colons before its number. -/
example : ofBytes "cgroup" (Text.toBytes "+1:cpu:/\n \nx:y\nx::\n") =
    .error (.malformed "cgroup" 3 (.fieldCount 3 2 "x:y")) := by
  decide +kernel

end Membership

end CgroupLimits
