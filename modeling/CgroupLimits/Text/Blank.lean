/-! Blank characters, and the cutting of texts at them.

    A character is *blank* when Unicode gives it the property `White_Space`: there are twenty-five
    of them, six in ASCII. Words are the maximal runs of characters that are not blank, so a text
    that is all blanks has none. `toList_trim` reads trimming off the characters of the text, and
    `padded_trim` and `Padded.trim_eq` say what it removes: all blanks around and nothing else. -/

namespace CgroupLimits.Text

/-- The Unicode property `White_Space`. -/
def isBlank (c : Char) : Bool :=
  (9 ≤ c.toNat && c.toNat ≤ 13) || c.toNat == 0x20 || c.toNat == 0x85 || c.toNat == 0xA0 ||
    c.toNat == 0x1680 || (0x2000 ≤ c.toNat && c.toNat ≤ 0x200A) || c.toNat == 0x2028 ||
    c.toNat == 0x2029 || c.toNat == 0x202F || c.toNat == 0x205F || c.toNat == 0x3000

/-- The parts of `s` between the characters that `sep` accepts, empty parts included: one more
    than there are separators. -/
def split (sep : Char → Bool) (s : String) : List String :=
  (s.toList.splitOnP sep).map String.ofList

/-- The parts of `s` between the characters that `sep` accepts, empty parts left out. -/
def fields (sep : Char → Bool) (s : String) : List String :=
  (split sep s).filter (· ≠ "")

/-- The maximal runs of non-blank characters, in order. -/
def words (s : String) : List String := fields isBlank s

/-- The text without the blanks it begins and ends with. -/
def trim (s : String) : String :=
  String.ofList (((s.toList.dropWhile isBlank).reverse.dropWhile isBlank).reverse)

/-- Whether the text holds nothing but blanks. -/
def allBlank (s : String) : Bool := s.toList.all isBlank

@[simp] theorem toList_trim (s : String) :
    (trim s).toList = ((s.toList.dropWhile isBlank).reverse.dropWhile isBlank).reverse := by
  simp [trim]

@[simp] theorem split_empty (sep : Char → Bool) : split sep "" = [""] := by
  simp [split, List.splitOnP_nil]

theorem split_ne_nil (sep : Char → Bool) (s : String) : split sep s ≠ [] := by
  simp [split, List.splitOnP_ne_nil]

/-! ### Blanks around a text -/

/-- Whether `s` is `w` with blanks in front of it and behind it, any number of them. -/
def Padded (w s : String) : Prop :=
  ∃ left right : String, allBlank left = true ∧ allBlank right = true ∧ s = left ++ w ++ right

theorem exists_blanks_dropWhile (cs : List Char) :
    ∃ left : List Char, left.all isBlank = true ∧ cs = left ++ cs.dropWhile isBlank :=
  ⟨cs.takeWhile isBlank, List.all_takeWhile, List.takeWhile_append_dropWhile.symm⟩

/-- Trimming removes nothing but blanks. -/
theorem padded_trim (s : String) : Padded (trim s) s := by
  obtain ⟨left, hleft, hfront⟩ := exists_blanks_dropWhile s.toList
  obtain ⟨right, hright, hback⟩ := exists_blanks_dropWhile (s.toList.dropWhile isBlank).reverse
  refine ⟨String.ofList left, String.ofList right.reverse, ?_, ?_, ?_⟩
  · simpa [allBlank] using hleft
  · simpa [allBlank] using hright
  · rw [← String.toList_inj]
    have hmiddle := congrArg List.reverse hback
    rw [List.reverse_reverse, List.reverse_append] at hmiddle
    simp only [String.toList_append, String.toList_ofList, toList_trim]
    rw [List.append_assoc, ← hmiddle]
    exact hfront

theorem dropWhile_blanks {left cs : List Char} (hleft : ∀ c ∈ left, isBlank c = true)
    (hcs : ∀ c ∈ cs.head?, isBlank c = false) : (left ++ cs).dropWhile isBlank = cs := by
  rw [List.dropWhile_append_of_pos hleft]
  cases cs with
  | nil => rfl
  | cons c cs => exact List.dropWhile_cons_of_neg (by simpa using hcs c rfl)

/-- Trimming removes all blanks around a text that neither begins nor ends with one. -/
theorem Padded.trim_eq {w s : String} (h : Padded w s) (hw : ∀ c ∈ w.toList, isBlank c = false) :
    trim s = w := by
  obtain ⟨left, right, hleft, hright, rfl⟩ := h
  have hleft' : ∀ c ∈ left.toList, isBlank c = true := List.all_eq_true.1 hleft
  have hright' : ∀ c ∈ right.toList.reverse, isBlank c = true := fun c hc =>
    List.all_eq_true.1 hright c (List.mem_reverse.1 hc)
  rw [← String.toList_inj, toList_trim]
  simp only [String.toList_append]
  by_cases hempty : w.toList = []
  · have hall : ∀ c ∈ left.toList ++ right.toList, isBlank c = true := by
      intro c hc
      exact (List.mem_append.1 hc).elim (hleft' c) (List.all_eq_true.1 hright c)
    have hnone : (left.toList ++ right.toList ++ []).dropWhile isBlank = [] :=
      dropWhile_blanks hall nofun
    rw [List.append_nil] at hnone
    rw [hempty, List.append_nil, hnone]
    rfl
  · have hfront : ∀ c ∈ (w.toList ++ right.toList).head?, isBlank c = false := by
      intro c hc
      rw [List.head?_append, List.head?_eq_some_head hempty] at hc
      obtain rfl := Option.some.inj hc
      exact hw _ (List.head_mem hempty)
    have hback : ∀ c ∈ w.toList.reverse.head?, isBlank c = false := fun c hc =>
      hw c (List.mem_reverse.1 (List.mem_of_head? hc))
    rw [List.append_assoc, dropWhile_blanks hleft' hfront, List.reverse_append,
      dropWhile_blanks hright' hback, List.reverse_reverse]

/-! ### Fields and words of a text put together -/

theorem split_append {sep : Char → Bool} {c : Char} (hc : sep c = true) (s t : String) :
    split sep (s ++ String.singleton c ++ t) = split sep s ++ split sep t := by
  simp [split, List.splitOnP_append_cons _ _ hc]

theorem fields_append {sep : Char → Bool} {c : Char} (hc : sep c = true) (s t : String) :
    fields sep (s ++ String.singleton c ++ t) = fields sep s ++ fields sep t := by
  rw [fields, split_append hc, List.filter_append, fields, fields]

/-- What is read of a part before its end has no separator in it, so the part has none. -/
theorem free_of_mem_splitOnPPrepend {sep : Char → Bool} {cs before part : List Char}
    (hbefore : ∀ c ∈ before, sep c = false) (h : part ∈ cs.splitOnPPrepend sep before) :
    ∀ c ∈ part, sep c = false := by
  induction cs generalizing before with
  | nil =>
    rw [List.splitOnPPrepend_nil, List.mem_singleton] at h
    subst h
    exact fun c hc => hbefore c (List.mem_reverse.1 hc)
  | cons d cs ih =>
    cases hd : sep d with
    | true =>
      rw [List.splitOnPPrepend_cons_pos hd, List.mem_cons] at h
      rcases h with rfl | h
      · exact fun c hc => hbefore c (List.mem_reverse.1 hc)
      · exact ih (fun c hc => absurd hc List.not_mem_nil) h
    | false =>
      rw [List.splitOnPPrepend_cons_neg hd] at h
      exact ih (List.forall_mem_cons.2 ⟨hd, hbefore⟩) h

theorem free_of_mem_split {sep : Char → Bool} {s part : String} (h : part ∈ split sep s) :
    ∀ c ∈ part.toList, sep c = false := by
  obtain ⟨cs, hcs, rfl⟩ := List.mem_map.1 h
  rw [String.toList_ofList]
  exact free_of_mem_splitOnPPrepend (fun c hc => absurd hc List.not_mem_nil) hcs

/-- A text is its parts with the separator between them. -/
theorem intercalate_split (c : Char) (s : String) :
    (String.singleton c).intercalate (split (· == c) s) = s := by
  have hparts : (split (· == c) s).map String.toList = s.toList.splitOn c := by
    simp [split, List.splitOn_eq_splitOnP, Function.comp_def]
  rw [← String.toList_inj, String.toList_intercalate, hparts, String.toList_singleton]
  exact List.intercalate_splitOn c

/-- Texts without the separator are the parts of what they make with it between them. -/
theorem split_intercalate {c : Char} {parts : List String} (hne : parts ≠ [])
    (hfree : ∀ part ∈ parts, c ∉ part.toList) :
    split (· == c) ((String.singleton c).intercalate parts) = parts := by
  have hlists : ∀ cs ∈ parts.map String.toList, c ∉ cs := List.forall_mem_map.2 hfree
  rw [split, String.toList_intercalate, String.toList_singleton, ← List.splitOn_eq_splitOnP,
    List.splitOn_intercalate c hlists (by simpa using hne), List.map_map]
  simp [Function.comp_def]

/-- A text without separators is a field of its own. -/
theorem fields_of_free {sep : Char → Bool} {s : String} (hne : s ≠ "")
    (hfree : ∀ c ∈ s.toList, sep c = false) : fields sep s = [s] := by
  simp [fields, split, List.splitOnP_eq_singleton hfree, hne]

theorem words_append {c : Char} (hc : isBlank c = true) (s t : String) :
    words (s ++ String.singleton c ++ t) = words s ++ words t :=
  fields_append hc s t

theorem words_of_free {s : String} (hne : s ≠ "") (hfree : ∀ c ∈ s.toList, isBlank c = false) :
    words s = [s] :=
  fields_of_free hne hfree

@[simp] theorem words_empty : words "" = [] := by
  simp [words, fields]

/-- A blank in front of a text does not change its words. -/
theorem words_blank {c : Char} (hc : isBlank c = true) (s : String) :
    words (String.singleton c ++ s) = words s := by
  have happend := words_append hc "" s
  rwa [String.empty_append, words_empty, List.nil_append] at happend

/-! ### Single words -/

/-- Whether a text is a single word, without blanks around it. -/
def IsWord (w : String) : Prop := w ≠ "" ∧ ∀ c ∈ w.toList, isBlank c = false

theorem isWord_iff {w : String} : IsWord w ↔ w ≠ "" ∧ w.toList.all (!isBlank ·) = true := by
  simp [IsWord]

instance (w : String) : Decidable (IsWord w) := decidable_of_iff _ isWord_iff.symm

variable {w v : String}

theorem IsWord.words (h : IsWord w) : Text.words w = [w] := words_of_free h.1 h.2

theorem IsWord.words_two (hw : IsWord w) (hv : IsWord v) : Text.words (w ++ " " ++ v) = [w, v] := by
  have happend : Text.words (w ++ String.singleton ' ' ++ v) = Text.words w ++ Text.words v :=
    words_append (by decide) w v
  rw [hw.words, hv.words] at happend
  exact happend

theorem isWord_of_mem {s : String} (h : w ∈ words s) : IsWord w := by
  obtain ⟨hsplit, hne⟩ := List.mem_filter.1 h
  exact ⟨of_decide_eq_true hne, free_of_mem_split hsplit⟩

theorem IsWord.newline_not_mem (h : IsWord w) : '\n' ∉ w.toList := by
  intro hmem
  have hblank := h.2 '\n' hmem
  exact absurd hblank (by decide)

theorem IsWord.space_not_mem (h : IsWord w) : ' ' ∉ w.toList := by
  intro hmem
  have hblank := h.2 ' ' hmem
  exact absurd hblank (by decide)

theorem words_intercalate {row : List String} (h : ∀ w ∈ row, IsWord w) :
    words (" ".intercalate row) = row := by
  induction row with
  | nil => exact words_empty
  | cons w row ih =>
    have hrow := ih fun v hv => h v (List.mem_cons_of_mem w hv)
    by_cases hnil : row = []
    · subst hnil
      rw [String.intercalate_singleton, (h w List.mem_cons_self).words]
    · have happend := words_append (by decide : isBlank ' ' = true) w (" ".intercalate row)
      rw [(h w List.mem_cons_self).words, hrow] at happend
      rw [String.intercalate_cons_of_ne_nil hnil]
      exact happend

end CgroupLimits.Text
