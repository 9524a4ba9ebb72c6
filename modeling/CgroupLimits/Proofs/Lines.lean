import CgroupLimits.Line
import CgroupLimits.Text.Blank
import Mathlib.Data.List.Basic

/-! Streams line by line, and the lines of a text.

    A stream without newlines is its only line, and any other is a line with the newline that ends
    it in front of a shorter stream (`lines_induction`). A bounded read takes what the bound leaves
    of the first line (`taken_eq_take`). A newline is a byte of no other character
    (`newline_mem_utf8EncodeChar`), so the lines of a text are texts. `Tells` says what a bounded
    read makes of the line it comes to (`tells_read`). -/

namespace CgroupLimits

namespace Line

/-! ### The first line of a stream -/

theorem stream_cases (bytes : List UInt8) :
    newline ∉ bytes ∨ ∃ text tail, newline ∉ text ∧ bytes = text ++ newline :: tail := by
  by_cases h : newline ∈ bytes
  · obtain ⟨text, tail, hbytes, htext⟩ := List.eq_append_cons_of_mem h
    exact Or.inr ⟨text, tail, htext, hbytes⟩
  · exact Or.inl h

/-- What holds of streams without newlines, and of a stream behind a line as soon as it holds of
    that stream, holds of all streams. -/
theorem lines_induction {P : List UInt8 → Prop} (last : ∀ line, newline ∉ line → P line)
    (whole : ∀ text tail, newline ∉ text → P tail → P (text ++ newline :: tail))
    (bytes : List UInt8) : P bytes := by
  induction h : bytes.length using Nat.strongRecOn generalizing bytes with
  | ind n ih =>
    rcases stream_cases bytes with hfree | ⟨text, tail, htext, rfl⟩
    · exact last bytes hfree
    · refine whole text tail htext (ih tail.length ?_ tail rfl)
      simp only [List.length_append, List.length_cons] at h
      omega

theorem cut_last {line : List UInt8} (h : newline ∉ line) : cut line = (line, []) := by
  induction line with
  | nil => rfl
  | cons b bs ih =>
    obtain ⟨hb, hbs⟩ := List.ne_and_not_mem_of_not_mem_cons h
    rw [cut, if_neg (Ne.symm hb), ih hbs]

theorem cut_whole {text : List UInt8} (tail : List UInt8) (h : newline ∉ text) :
    cut (text ++ newline :: tail) = (text ++ [newline], tail) := by
  induction text with
  | nil => rfl
  | cons b bs ih =>
    obtain ⟨hb, hbs⟩ := List.ne_and_not_mem_of_not_mem_cons h
    rw [List.cons_append, cut, if_neg (Ne.symm hb), ih hbs]
    rfl

theorem all_whole {text : List UInt8} (tail : List UInt8) (h : newline ∉ text) :
    all (text ++ newline :: tail) = (text ++ [newline]) :: all tail := by
  induction text with
  | nil => rfl
  | cons b bs ih =>
    obtain ⟨hb, hbs⟩ := List.ne_and_not_mem_of_not_mem_cons h
    rw [List.cons_append, all, if_neg (Ne.symm hb), ih hbs]
    rfl

theorem all_last {line : List UInt8} (hne : line ≠ []) (h : newline ∉ line) :
    all line = [line] := by
  induction line with
  | nil => exact absurd rfl hne
  | cons b bs ih =>
    obtain ⟨hb, hbs⟩ := List.ne_and_not_mem_of_not_mem_cons h
    rw [all, if_neg (Ne.symm hb)]
    by_cases hbs' : bs = []
    · rw [hbs']
      rfl
    · rw [ih hbs' hbs]

theorem body_last {line : List UInt8} (h : newline ∉ line) : body line = line := by
  rw [body, if_neg]
  intro hlast
  exact h (List.mem_of_getLast? hlast)

@[simp] theorem body_whole (text : List UInt8) : body (text ++ [newline]) = text := by
  simp [body]

theorem body_length_le (line : List UInt8) : (body line).length ≤ line.length := by
  unfold body
  split <;> simp

/-- The lines of a stream that a bound leaves room for, without the other ones. -/
def within (most : Nat) (bytes : List UInt8) : List UInt8 :=
  ((all bytes).filter fun line => (body line).length ≤ most).flatten

theorem all_within (most : Nat) (bytes : List UInt8) :
    all (within most bytes) = (all bytes).filter fun line => (body line).length ≤ most := by
  induction bytes using lines_induction with
  | last line hfree =>
    by_cases hne : line = []
    · rw [hne]
      rfl
    · rw [within, all_last hne hfree]
      by_cases hfits : (body line).length ≤ most
      · rw [List.filter_cons_of_pos (by simpa using hfits), List.filter_nil, List.flatten_singleton,
          all_last hne hfree]
      · rw [List.filter_cons_of_neg (by simpa using hfits)]
        rfl
  | whole text tail htext ih =>
    rw [within, all_whole tail htext]
    by_cases hfits : (body (text ++ [newline])).length ≤ most
    · rw [List.filter_cons_of_pos (by simpa using hfits), List.flatten_cons, List.append_assoc,
        List.singleton_append, all_whole _ htext]
      exact congrArg _ ih
    · rw [List.filter_cons_of_neg (by simpa using hfits)]
      exact ih

/-! ### What a bounded read takes -/

theorem cutWithin_eq_take (most : Nat) (bytes : List UInt8) :
    cutWithin most bytes = (cut bytes).1.take most := by
  induction bytes generalizing most with
  | nil => cases most <;> simp [cutWithin, cut]
  | cons b bs ih =>
    cases most with
    | zero => simp [cutWithin]
    | succ most =>
      rw [cutWithin, cut]
      by_cases hb : b = newline
      · simp [hb]
      · simp [hb, ih]

theorem taken_eq_take (most : Nat) (bytes : List UInt8) :
    taken most bytes = (cut bytes).1.take (reach most) :=
  cutWithin_eq_take _ _

theorem outcome_nil (most : Nat) : outcome most (taken most []) = .ended := by
  have htaken : taken most [] = [] := by simp [taken_eq_take, cut]
  have hempty : Text.ofBytes? (body []) = some "" :=
    Text.ofBytes?_eq_some_iff.2 Text.toBytes_empty.symm
  rw [htaken, outcome, hempty]
  rfl

/-- Whether bounded reads can tell every line of a stream from a longer one: the bound or the lines
    stay below what 64 bits count, as all streams do that a machine of 64 bits holds. -/
def Measured (most : Nat) (bytes : List UInt8) : Prop :=
  most < Numeral.max64 ∨ ∀ line ∈ all bytes, line.length ≤ Numeral.max64

theorem Measured.of_mem {most : Nat} {bytes line : List UInt8} (h : Measured most bytes)
    (hline : line ∈ all bytes) : most < Numeral.max64 ∨ line.length ≤ Numeral.max64 :=
  h.imp_right fun hall => hall line hline

/-- A read takes the whole of a line that is not too long. -/
theorem length_le_reach {most : Nat} {line : List UInt8}
    (hmeasured : most < Numeral.max64 ∨ line.length ≤ Numeral.max64)
    (hfits : (body line).length ≤ most) : line.length ≤ reach most := by
  have hbody : line.length ≤ (body line).length + 1 := by
    unfold body
    split
    · simp only [List.length_dropLast]
      omega
    · omega
  simp only [reach]
  omega

theorem outcome_of_fits {most : Nat} {line : List UInt8} (hne : line ≠ [])
    (hfits : (body line).length ≤ most) :
    outcome most line = (Text.ofBytes? (body line)).elim .notText .line := by
  unfold outcome
  cases Text.ofBytes? (body line) with
  | none => rfl
  | some text =>
    simp only [if_neg hne, Option.elim_some]
    by_cases hlast : line.getLast? = some newline
    · rw [if_pos hlast]
    · rw [body, if_neg hlast] at hfits
      rw [if_neg hlast, if_neg (Nat.not_lt.2 hfits)]

theorem outcome_of_overlong {most : Nat} {bytes : List UInt8} (hfree : newline ∉ bytes)
    (hlong : most < bytes.length) :
    outcome most bytes = (Text.ofBytes? bytes).elim .notText fun _ => .tooLong := by
  have hne : bytes ≠ [] := by
    rintro rfl
    exact absurd hlong (Nat.not_lt_zero most)
  have hlast : bytes.getLast? ≠ some newline := fun h => hfree (List.mem_of_getLast? h)
  unfold outcome
  rw [body_last hfree]
  cases Text.ofBytes? bytes with
  | none => rfl
  | some text => simp only [if_neg hne, if_neg hlast, if_pos hlong, Option.elim_some]

section Read

variable {most : Nat} {bytes line tail : List UInt8} (hcut : cut bytes = (line, tail))

include hcut

theorem append_of_cut : line ++ tail = bytes := by
  have happend := cut_append bytes
  rwa [hcut] at happend

/-- A line that fits is read to its end. -/
theorem read_of_fits (hne : bytes ≠ []) (hreach : line.length ≤ reach most)
    (hfits : (body line).length ≤ most) :
    outcome most (taken most bytes) = (Text.ofBytes? (body line)).elim .notText .line ∧
      rest most bytes = tail := by
  have htaken : taken most bytes = line := by
    rw [taken_eq_take, hcut, List.take_of_length_le hreach]
  have hline : line ≠ [] := htaken ▸ taken_ne_nil most hne
  refine ⟨by rw [htaken, outcome_of_fits hline hfits], ?_⟩
  rw [rest, htaken, ← append_of_cut hcut, List.drop_left]

/-- Of a line that is too long one byte past the bound is read, and the rest of it is skipped. -/
theorem read_of_overlong (hbound : most < Numeral.max64) (hlong : most < (body line).length) :
    outcome most (taken most bytes) =
      (Text.ofBytes? (line.take (reach most))).elim .notText (fun _ => .tooLong) ∧
      skip (rest most bytes) = tail := by
  have hreach : reach most = most + 1 := Nat.min_eq_left hbound
  have htaken : taken most bytes = line.take (most + 1) := by
    rw [taken_eq_take, hcut, hreach]
  have hlength : (line.take (most + 1)).length = most + 1 := by
    have hle := body_length_le line
    rw [List.length_take]
    omega
  have hfree : newline ∉ line.take (most + 1) ∧ skip (bytes.drop (most + 1)) = tail := by
    rcases stream_cases bytes with hbytes | ⟨text, tail', htext, rfl⟩
    · obtain ⟨rfl, rfl⟩ : bytes = line ∧ [] = tail := by simpa [cut_last hbytes] using hcut
      refine ⟨fun h => hbytes (List.mem_of_mem_take h), ?_⟩
      rw [skip, cut_last fun h => hbytes (List.mem_of_mem_drop h)]
    · obtain ⟨rfl, rfl⟩ : text ++ [newline] = line ∧ tail' = tail := by
        simpa [cut_whole tail' htext] using hcut
      rw [body_whole] at hlong
      rw [List.take_append_of_le_length hlong, List.drop_append_of_le_length hlong]
      refine ⟨fun h => htext (List.mem_of_mem_take h), ?_⟩
      rw [skip, cut_whole tail' fun h => htext (List.mem_of_mem_drop h)]
  rw [rest, htaken, hlength, hreach]
  exact ⟨outcome_of_overlong hfree.1 (by omega), hfree.2⟩

end Read

end Line

/-! ### The lines of a text -/

namespace Text

theorem toBytes_eq_flatMap (s : String) : toBytes s = s.toList.flatMap String.utf8EncodeChar := by
  rw [toBytes, ← String.utf8Encode_toList]
  simp [List.utf8Encode]

theorem newline_mem_utf8EncodeChar {c : Char} :
    Line.newline ∈ String.utf8EncodeChar c ↔ c = '\n' := by
  constructor
  · intro hmem
    have hvalue : c.val.toNat = 10 := by
      simp only [String.utf8EncodeChar, Line.newline] at hmem
      -- A character of more than one byte has none below 128.
      split at hmem
      case' isFalse => split at hmem
      case' isFalse.isFalse => split at hmem
      all_goals
        simp only [List.mem_cons, List.not_mem_nil, or_false, ← UInt8.toNat_inj,
          UInt8.toNat_ofNat', UInt8.toNat_ofNat] at hmem
        omega
    exact Char.ext (UInt32.toNat_inj.1 hvalue)
  · rintro rfl
    decide

theorem toBytes_cons (c : Char) (cs : List Char) :
    toBytes (String.ofList (c :: cs)) = String.utf8EncodeChar c ++ toBytes (String.ofList cs) := by
  simp [toBytes_eq_flatMap]

/-- Where a newline stands in the bytes of a text, a newline character stands in the text. -/
theorem eq_append_of_toBytes {s : String} {a b : List UInt8}
    (h : toBytes s = a ++ Line.newline :: b) :
    ∃ t u, s = t ++ "\n" ++ u ∧ a = toBytes t ∧ b = toBytes u := by
  obtain ⟨cs, rfl⟩ := s.exists_eq_ofList
  induction cs generalizing a with
  | nil => simp at h
  | cons c cs ih =>
    rw [toBytes_cons] at h
    -- Either the newline stands behind the first character, or among its bytes.
    have hbehind : ∀ a', a = String.utf8EncodeChar c ++ a' →
        toBytes (String.ofList cs) = a' ++ Line.newline :: b →
        ∃ t u, String.ofList (c :: cs) = t ++ "\n" ++ u ∧ a = toBytes t ∧ b = toBytes u := by
      rintro a' rfl hrest
      obtain ⟨t, u, hs, rfl, hu⟩ := ih hrest
      refine ⟨String.ofList (c :: t.toList), u, ?_, ?_, hu⟩
      · rw [← String.toList_inj] at hs ⊢
        simpa using hs
      · rw [toBytes_cons, String.ofList_toList]
    rcases List.append_eq_append_iff.1 h with ⟨a', ha, hrest⟩ | ⟨rest, hc, hrest⟩
    · exact hbehind a' ha hrest
    · cases rest with
      | nil => exact hbehind [] (by simpa using hc.symm) (by simpa using hrest.symm)
      | cons d rest =>
        obtain ⟨rfl, rfl⟩ := List.cons.inj hrest
        obtain rfl : c = '\n' := newline_mem_utf8EncodeChar.1 (hc ▸ by simp)
        have hone : [Line.newline] = a ++ Line.newline :: rest := hc
        obtain rfl : a = [] := List.eq_nil_of_length_eq_zero (by
          have hlength := congrArg List.length hone
          simp at hlength
          omega)
        obtain rfl : rest = [] := by simpa using hone.symm
        refine ⟨"", String.ofList cs, ?_, by simp, by simp⟩
        rw [← String.toList_inj]
        simp

/-- Whether bytes spell a text in UTF-8. -/
def Spells (bytes : List UInt8) : Prop := ∃ s, bytes = toBytes s

theorem ofBytes?_eq_none_iff {bytes : List UInt8} : ofBytes? bytes = none ↔ ¬ Spells bytes := by
  rw [Option.eq_none_iff_forall_ne_some, Spells, not_exists]
  simp only [ne_eq, ofBytes?_eq_some_iff]

theorem toBytes_newline (t : String) : toBytes (t ++ "\n") = toBytes t ++ [Line.newline] :=
  toBytes_append t "\n"

theorem newline_mem_toBytes {s : String} : Line.newline ∈ toBytes s ↔ '\n' ∈ s.toList := by
  simp [toBytes_eq_flatMap, newline_mem_utf8EncodeChar]

/-- The newline at the end of a line makes no difference to whether it is a text. -/
theorem spells_body_iff {line : List UInt8} : Spells (Line.body line) ↔ Spells line := by
  by_cases hlast : line.getLast? = some Line.newline
  · obtain ⟨text, rfl⟩ := List.getLast?_eq_some_iff.1 hlast
    rw [Line.body_whole]
    constructor
    · rintro ⟨t, rfl⟩
      exact ⟨t ++ "\n", (toBytes_newline t).symm⟩
    · rintro ⟨s, hs⟩
      obtain ⟨t, u, -, ht, -⟩ := eq_append_of_toBytes hs.symm
      exact ⟨t, ht⟩
  · rw [Line.body, if_neg hlast]

theorem spells_flatten {lines : List (List UInt8)} (h : ∀ line ∈ lines, Spells line) :
    Spells lines.flatten := by
  induction lines with
  | nil => exact ⟨"", toBytes_empty.symm⟩
  | cons line lines ih =>
    obtain ⟨⟨s, rfl⟩, hlines⟩ := List.forall_mem_cons.1 h
    obtain ⟨t, ht⟩ := ih hlines
    exact ⟨s ++ t, by rw [List.flatten_cons, ht, toBytes_append]⟩

theorem toBytes_injective : Function.Injective toBytes := by
  intro s t h
  have hread := congrArg ofBytes? h
  rw [ofBytes?_toBytes, ofBytes?_toBytes] at hread
  exact Option.some.inj hread

/-- A text without newlines is its only line, and any other is a line in front of a text. -/
theorem text_cases (s : String) :
    '\n' ∉ s.toList ∨ ∃ t u : String, '\n' ∉ t.toList ∧ s = t ++ "\n" ++ u := by
  by_cases h : '\n' ∈ s.toList
  · obtain ⟨t, u, hs, ht⟩ := List.eq_append_cons_of_mem h
    refine Or.inr ⟨String.ofList t, String.ofList u, by simpa using ht, ?_⟩
    rw [← String.toList_inj]
    simpa using hs
  · exact Or.inl h

theorem texts_induction {P : String → Prop} (last : ∀ s : String, '\n' ∉ s.toList → P s)
    (whole : ∀ t u : String, '\n' ∉ t.toList → P u → P (t ++ "\n" ++ u)) (s : String) : P s := by
  induction h : s.length using Nat.strongRecOn generalizing s with
  | ind n ih =>
    rcases text_cases s with hfree | ⟨t, u, ht, rfl⟩
    · exact last s hfree
    · refine whole t u ht (ih u.length ?_ u rfl)
      simp only [String.length_append] at h
      have hone : "\n".length = 1 := rfl
      omega

/-- The lines of a text, without the newlines between them. -/
def lines (s : String) : List String := split (· == '\n') s

theorem lines_last {s : String} (h : '\n' ∉ s.toList) : lines s = [s] := by
  have hfree : ∀ c ∈ s.toList, (c == '\n') = false := by
    intro c hc
    rw [beq_eq_false_iff_ne]
    rintro rfl
    exact h hc
  simp [lines, split, List.splitOnP_eq_singleton hfree]

theorem lines_append (t u : String) : lines (t ++ "\n" ++ u) = lines t ++ lines u := by
  have hnewline : "\n" = String.singleton '\n' := rfl
  rw [hnewline]
  exact split_append (by rfl) t u

theorem lines_whole {t : String} (u : String) (h : '\n' ∉ t.toList) :
    lines (t ++ "\n" ++ u) = t :: lines u := by
  rw [lines_append, lines_last h]
  rfl

theorem all_toBytes_last {s : String} (hne : s ≠ "") (h : '\n' ∉ s.toList) :
    Line.all (toBytes s) = [toBytes s] := by
  refine Line.all_last ?_ fun hmem => h (newline_mem_toBytes.1 hmem)
  intro hempty
  exact hne (toBytes_injective (hempty.trans toBytes_empty.symm))

theorem all_toBytes_whole {t : String} (u : String) (h : '\n' ∉ t.toList) :
    Line.all (toBytes (t ++ "\n" ++ u)) = toBytes (t ++ "\n") :: Line.all (toBytes u) := by
  rw [toBytes_append, toBytes_newline, List.append_assoc, List.singleton_append]
  exact Line.all_whole _ fun hmem => h (newline_mem_toBytes.1 hmem)

/-- The lines in the bytes of a text are its own, most of them with a newline. -/
theorem exists_of_mem_all {s : String} {line : List UInt8} (h : line ∈ Line.all (toBytes s)) :
    ∃ text ∈ lines s, line = toBytes text ∨ line = toBytes (text ++ "\n") := by
  induction s using texts_induction with
  | last s hfree =>
    by_cases hne : s = ""
    · rw [hne, toBytes_empty] at h
      cases h
    · rw [all_toBytes_last hne hfree, List.mem_singleton] at h
      rw [lines_last hfree]
      exact ⟨s, List.mem_singleton_self s, Or.inl h⟩
  | whole t u ht ih =>
    rw [all_toBytes_whole u ht] at h
    rw [lines_whole u ht]
    rcases List.mem_cons.1 h with rfl | h
    · exact ⟨t, List.mem_cons_self, Or.inr rfl⟩
    · obtain ⟨text, hmem, hline⟩ := ih h
      exact ⟨text, List.mem_cons_of_mem t hmem, hline⟩

theorem spells_of_mem_all {s : String} {line : List UInt8} (h : line ∈ Line.all (toBytes s)) :
    Spells line := by
  obtain ⟨text, -, hline | hline⟩ := exists_of_mem_all h
  · exact ⟨text, hline⟩
  · exact ⟨text ++ "\n", hline⟩

end Text

/-! ### What a bounded read tells of a line -/

namespace Line

/-- What a read tells that starts where a line does: the text of one that fits, and of one that is
    too long no more than that, if what is read of it is a text. -/
inductive Tells (most : Nat) (line : List UInt8) : Bounded → Prop
  | line {text : String} (hfits : (body line).length ≤ most)
      (htext : body line = Text.toBytes text) :
    Tells most line (.line text)
  | tooLong (hlong : most < (body line).length) (hread : Text.Spells (line.take (reach most))) :
    Tells most line .tooLong
  | notText (hread : ¬ Text.Spells (line.take (reach most))) : Tells most line .notText

theorem take_of_fits {most : Nat} {line : List UInt8}
    (hmeasured : most < Numeral.max64 ∨ line.length ≤ Numeral.max64)
    (hfits : (body line).length ≤ most) : line.take (reach most) = line :=
  List.take_of_length_le (length_le_reach hmeasured hfits)

/-- A read at the start of a line tells of that line, and leaves what stands behind it if it tells
    its text. -/
theorem tells_read {most : Nat} {bytes line tail : List UInt8} (hne : bytes ≠ [])
    (hcut : cut bytes = (line, tail))
    (hmeasured : most < Numeral.max64 ∨ line.length ≤ Numeral.max64) :
    Tells most line (read most bytes).1 ∧
      ∀ text, (read most bytes).1 = .line text → (read most bytes).2 = tail := by
  by_cases hlong : most < (body line).length
  · have hbound : most < Numeral.max64 := by
      have hle := body_length_le line
      omega
    rw [read, (read_of_overlong hcut hbound hlong).1]
    cases hread : Text.ofBytes? (line.take (reach most)) with
    | none => exact ⟨.notText (Text.ofBytes?_eq_none_iff.1 hread), nofun⟩
    | some text => exact ⟨.tooLong hlong ⟨text, Text.ofBytes?_eq_some_iff.1 hread⟩, nofun⟩
  · have hfits := Nat.not_lt.1 hlong
    obtain ⟨houtcome, hrest⟩ := read_of_fits hcut hne (length_le_reach hmeasured hfits) hfits
    rw [read, houtcome]
    refine ⟨?_, fun _ _ => hrest⟩
    cases htext : Text.ofBytes? (body line) with
    | none =>
      rw [Text.ofBytes?_eq_none_iff, Text.spells_body_iff] at htext
      refine .notText ?_
      rwa [take_of_fits hmeasured hfits]
    | some text => exact .line hfits (Text.ofBytes?_eq_some_iff.1 htext)

end Line

end CgroupLimits
