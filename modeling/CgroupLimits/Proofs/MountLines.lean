import CgroupLimits.MountEntry

/-! The lines of the table of mounts, as a grammar and as the printer writes them.

    `MountEntry.Reads` says what a line is: it lacks the separator, or one of its halves lacks a
    field, the first of those that are missing, or it holds a mount. Every line is exactly one of
    these, and reading tells which. A mount that is printed is read back, whatever words stand
    behind it: the separator between the halves is the first in the line, as none of the words in
    front of it is a dash. -/

namespace CgroupLimits

/-- A row with further words behind it is no shorter text. -/
theorem Text.length_intercalate_le (row further : List String) :
    (" ".intercalate row).length ≤ (" ".intercalate (row ++ further)).length := by
  by_cases hrow : row = []
  · subst hrow
    exact Nat.zero_le _
  · by_cases hfurther : further = []
    · exact Nat.le_of_eq (by rw [hfurther, List.append_nil])
    · rw [String.intercalate_append_of_ne_nil hrow hfurther, String.length_append,
        String.length_append]
      omega

namespace MountEntry

/-! ### Printed mounts -/

/-- The words in front of the separator. -/
def wordsBefore (entry : MountEntry) : List String :=
  entry.mountId :: entry.parentId :: entry.device :: entry.root :: entry.mountPoint ::
    entry.options :: entry.optionalFields

/-- The words behind the separator. -/
def wordsBehind (entry : MountEntry) : List String :=
  [entry.fileSystem, entry.source, entry.superOptions]

/-- The line of a mount, with single spaces. -/
def print (entry : MountEntry) : String :=
  " ".intercalate entry.wordsBefore ++ separator ++ " ".intercalate entry.wordsBehind

/-- Whether all fields are words, and none in front of the separator can be taken for it. -/
structure Printable (entry : MountEntry) : Prop where
  before : ∀ w ∈ entry.wordsBefore, Text.IsWord w ∧ w ≠ "-"
  behind : ∀ w ∈ entry.wordsBehind, Text.IsWord w

/-- Between spaces, the separator of a line is a part that is a dash. -/
theorem split_separator (a b : String) :
    Text.split (· == ' ') (a ++ separator ++ b) =
      Text.split (· == ' ') a ++ "-" :: Text.split (· == ' ') b := by
  have hline : a ++ separator ++ b =
      a ++ String.singleton ' ' ++ ("-" ++ String.singleton ' ' ++ b) := by
    rw [← String.toList_inj]
    simp [separator]
  have hdash : Text.split (· == ' ') "-" = ["-"] := rfl
  rw [hline, Text.split_append (by decide), Text.split_append (by decide), hdash]
  rfl

/-- No separator stands further left than the one behind a row of words that are no dashes. -/
theorem firstCut_row {row : List String} (hne : row ≠ []) (h : ∀ w ∈ row, Text.IsWord w ∧ w ≠ "-")
    (behind : String) :
    Text.FirstCut separator (" ".intercalate row ++ separator ++ behind) (" ".intercalate row)
      behind := by
  refine ⟨rfl, fun a b hline => ?_⟩
  have hrow : Text.split (· == ' ') (" ".intercalate row) = row :=
    Text.split_intercalate hne fun w hw => (h w hw).1.space_not_mem
  have hdash : "-" ∉ row := fun hmem => (h "-" hmem).2 rfl
  have hparts := congrArg (Text.split (· == ' ')) hline
  rw [split_separator, split_separator, hrow] at hparts
  obtain ⟨further, hfurther⟩ := Text.exists_append_of_not_mem hdash hparts
  have ha : " ".intercalate (Text.split (· == ' ') a) = a := Text.intercalate_split ' ' a
  rw [← ha, hfurther]
  exact Text.length_intercalate_le row further

/-! ### Lines as a grammar -/

/-- The fields in front of the separator, in order. -/
def fieldsBefore : List MountField := [.mountId, .parentId, .device, .root, .mountPoint, .options]

/-- The fields behind the separator, in order. -/
def fieldsBehind : List MountField := [.fileSystem, .source, .superOptions]

/-- What a line says: that it has no separator, that a half of it has fewer words than fields, the
    first field without a word being the one that is missing, or what the fields of a mount are. -/
inductive Reads (line : String) : Except MountFault MountEntry → Prop
  | unseparated (h : ¬ ∃ before behind, line = before ++ separator ++ behind) :
    Reads line (.error (.noSeparator line))
  | missingBefore {before behind : String} {field : MountField}
    (hcut : Text.FirstCut separator line before behind)
    (hfield : fieldsBefore[(Text.words before).length]? = some field) :
    Reads line (.error (.missingBefore field line))
  | missingBehind {before behind : String} {field : MountField}
    (hcut : Text.FirstCut separator line before behind)
    (hbefore : fieldsBefore.length ≤ (Text.words before).length)
    (hfield : fieldsBehind[(Text.words behind).length]? = some field) :
    Reads line (.error (.missingBehind field line))
  | entry {before behind : String} {entry : MountEntry} {further : List String}
    (hcut : Text.FirstCut separator line before behind)
    (hbefore : Text.words before = entry.wordsBefore)
    (hbehind : Text.words behind = entry.wordsBehind ++ further) :
    Reads line (.ok entry)

theorem lackingBefore_eq : ∀ k < 6, fieldsBefore[k]? = some (lackingBefore k) := by decide

theorem lackingBehind_eq : ∀ k < 3, fieldsBehind[k]? = some (lackingBehind k) := by decide

theorem exists_six {row : List String} (h : 6 ≤ row.length) :
    ∃ a b c d e f further, row = a :: b :: c :: d :: e :: f :: further :=
  match row, h with
  | a :: b :: c :: d :: e :: f :: further, _ => ⟨a, b, c, d, e, f, further, rfl⟩

theorem exists_three {row : List String} (h : 3 ≤ row.length) :
    ∃ a b c further, row = a :: b :: c :: further :=
  match row, h with
  | a :: b :: c :: further, _ => ⟨a, b, c, further, rfl⟩

section Cut

variable {line before behind : String} (hcut : Text.FirstCut separator line before behind)

include hcut

theorem parse_of_few_before (hfew : (Text.words before).length < 6) :
    parse line = .error (.missingBefore (lackingBefore (Text.words before).length) line) := by
  rw [parse, Text.cut?_eq_some_iff_firstCut.2 hcut]
  dsimp only
  split
  · rename_i hwords
    simp only [hwords, List.length_cons] at hfew
    omega
  · rfl

theorem parse_of_few_behind (hbefore : 6 ≤ (Text.words before).length)
    (hfew : (Text.words behind).length < 3) :
    parse line = .error (.missingBehind (lackingBehind (Text.words behind).length) line) := by
  obtain ⟨a, b, c, d, e, f, further, hwords⟩ := exists_six hbefore
  rw [parse, Text.cut?_eq_some_iff_firstCut.2 hcut]
  simp only [hwords]
  split
  · rename_i hthree
    simp only [hthree, List.length_cons] at hfew
    omega
  · rfl

theorem parse_of_words {entry : MountEntry} {further : List String}
    (hbefore : Text.words before = entry.wordsBefore)
    (hbehind : Text.words behind = entry.wordsBehind ++ further) : parse line = .ok entry := by
  rw [parse, Text.cut?_eq_some_iff_firstCut.2 hcut]
  simp only [hbefore, hbehind, wordsBefore, wordsBehind, List.cons_append]

/-- A line with the separator is a mount or lacks a field. -/
theorem reads_of_cut : ∃ result, Reads line result := by
  by_cases hbefore : (Text.words before).length < 6
  · exact ⟨_, .missingBefore hcut (lackingBefore_eq _ hbefore)⟩
  · by_cases hbehind : (Text.words behind).length < 3
    · exact ⟨_, .missingBehind hcut (Nat.not_lt.1 hbefore) (lackingBehind_eq _ hbehind)⟩
    · obtain ⟨a, b, c, d, e, f, optional, hsix⟩ := exists_six (Nat.not_lt.1 hbefore)
      obtain ⟨x, y, z, further, hthree⟩ := exists_three (Nat.not_lt.1 hbehind)
      exact ⟨.ok ⟨a, b, c, d, e, f, optional, x, y, z⟩, .entry hcut hsix hthree⟩

end Cut

theorem Reads.parse_eq {line : String} {result : Except MountFault MountEntry}
    (h : Reads line result) : parse line = result := by
  cases h with
  | unseparated hnone => rw [parse, Text.cut?_eq_none_iff_not_append.2 hnone]
  | missingBefore hcut hfield =>
    obtain ⟨hfew, -⟩ := List.getElem?_eq_some_iff.1 hfield
    rw [lackingBefore_eq _ hfew] at hfield
    rw [parse_of_few_before hcut hfew, Option.some.inj hfield]
  | missingBehind hcut hbefore hfield =>
    obtain ⟨hfew, -⟩ := List.getElem?_eq_some_iff.1 hfield
    rw [lackingBehind_eq _ hfew] at hfield
    rw [parse_of_few_behind hcut hbefore hfew, Option.some.inj hfield]
  | entry hcut hbefore hbehind => exact parse_of_words hcut hbefore hbehind

theorem exists_reads (line : String) : ∃ result, Reads line result := by
  by_cases h : ∃ before behind, line = before ++ separator ++ behind
  · obtain ⟨a, b, rfl⟩ := h
    obtain ⟨before, behind, hcut, -⟩ := Text.cut?_append separator a b
    exact reads_of_cut (Text.cut?_eq_some_iff_firstCut.1 hcut)
  · exact ⟨_, .unseparated h⟩

/-- Reading tells what the line is. -/
theorem parse_eq_iff_reads {line : String} {result : Except MountFault MountEntry} :
    parse line = result ↔ Reads line result := by
  constructor
  · rintro rfl
    obtain ⟨result, h⟩ := exists_reads line
    rwa [h.parse_eq]
  · exact Reads.parse_eq

/-! ### Printed mounts are read back -/

theorem print_append_words (entry : MountEntry) (further : String) :
    entry.print ++ " " ++ further =
      " ".intercalate entry.wordsBefore ++ separator ++
        (" ".intercalate entry.wordsBehind ++ " " ++ further) := by
  simp only [print, String.append_assoc]

section Printable

variable {entry : MountEntry} (h : Printable entry)

include h

theorem Printable.words_before :
    Text.words (" ".intercalate entry.wordsBefore) = entry.wordsBefore :=
  Text.words_intercalate fun w hw => (h.before w hw).1

theorem Printable.words_behind :
    Text.words (" ".intercalate entry.wordsBehind) = entry.wordsBehind :=
  Text.words_intercalate h.behind

theorem Printable.reads_print : Reads entry.print (.ok entry) := by
  have hbehind : Text.words (" ".intercalate entry.wordsBehind) = entry.wordsBehind ++ [] := by
    rw [h.words_behind, List.append_nil]
  exact .entry (firstCut_row (List.cons_ne_nil _ _) h.before _) h.words_before hbehind

theorem Printable.reads_print_append (further : String) :
    Reads (entry.print ++ " " ++ further) (.ok entry) := by
  have hbehind : Text.words (" ".intercalate entry.wordsBehind ++ " " ++ further) =
      Text.words (" ".intercalate entry.wordsBehind) ++ Text.words further :=
    Text.words_append (by decide : Text.isBlank ' ' = true) _ further
  rw [h.words_behind] at hbehind
  rw [print_append_words]
  exact .entry (firstCut_row (List.cons_ne_nil _ _) h.before _) h.words_before hbehind

end Printable

/-- Every line is read as what it is: without a separator, with the first field that is missing
    around the first separator, or as the mount of its words. And a mount of words that cannot be
    taken for the separator is read back from its line, whatever follows behind a space. -/
theorem parse_grammar :
    (∀ line result, parse line = result ↔ Reads line result) ∧
    (∀ entry, Printable entry → parse entry.print = .ok entry ∧
      ∀ further, parse (entry.print ++ " " ++ further) = .ok entry) :=
  ⟨fun _ _ => parse_eq_iff_reads, fun _ h =>
    ⟨h.reads_print.parse_eq, fun further => (h.reads_print_append further).parse_eq⟩⟩

/-- Words with dashes in front of the separator, and a dash and a second separator behind it. -/
theorem parse_grammar_dashes :
    let entry : MountEntry := ⟨"30", "25", "0:26", "/", "/sys/fs/a-b", "rw", ["-x", "shared:1"],
      "cgroup", "-", "rw,cpu"⟩
    Printable entry ∧ entry.print = "30 25 0:26 / /sys/fs/a-b rw -x shared:1 - cgroup - rw,cpu" ∧
    parse entry.print = .ok entry ∧ parse (entry.print ++ " " ++ "more - words") = .ok entry := by
  intro entry
  have hprintable : Printable entry := ⟨by decide, by decide⟩
  exact ⟨hprintable, by decide, (parse_grammar.2 entry hprintable).1,
    (parse_grammar.2 entry hprintable).2 "more - words"⟩

end MountEntry

end CgroupLimits
