import CgroupLimits.Proofs.Framing
import CgroupLimits.Proofs.Numerals

/-! Looking a key up, line by line.

    A search is settled by the first line that says anything about the key or cannot be read
    (`value_search`), and `Ends` says which lines those are, in terms of their bytes alone. Of a
    line past the bound nothing counts but the bytes up to one past the bound, and these need not
    be a text even if the line is one. So leaving out such lines beforehand gives the same answer
    exactly as long as the search comes to none that is cut inside a character. -/

namespace CgroupLimits

/-! ### A word as a number -/

namespace ControlLine

variable {path w : String}

theorem number_ok_iff {n : Nat} :
    number path w = .ok n ↔ Numeral.Writes w n ∧ n ≤ Numeral.max64 := by
  rw [number, mapError_ok_iff, Numeral.unsigned_ok_iff]

theorem number_error_iff {error : ControlError} :
    number path w = .error error ↔
      error = .unexpected path w ∧ ¬ ∃ n, Numeral.Writes w n ∧ n ≤ Numeral.max64 := by
  simp only [← Numeral.unsigned_ok_iff, number]
  cases Numeral.unsigned Numeral.max64 w with
  | error fault =>
    constructor
    · intro h
      exact ⟨(Except.error.inj h).symm, nofun⟩
    · rintro ⟨rfl, -⟩
      rfl
  | ok m => exact iff_of_false nofun fun h => h.2 ⟨m, rfl⟩

end ControlLine

namespace ControlTable

/-! ### The word behind a key -/

/-- The word for a key is the first one behind the key and a space or tab. -/
theorem wordFor?_eq_some_iff {key text w : String} :
    wordFor? key text = some w ↔ ∃ (sep : Char) (behind : String), (sep = ' ' ∨ sep = '\t') ∧
      text = key ++ String.singleton sep ++ behind ∧ (Text.words behind).head? = some w := by
  have hblank : ∀ sep : Char, sep = ' ' ∨ sep = '\t' → Text.isBlank sep = true := by
    rintro sep (rfl | rfl) <;> decide
  constructor
  · intro h
    unfold wordFor? at h
    split at h
    · cases h
    · rename_i rest hafter
      split at h
      · rename_i hhead
        obtain ⟨sep, hsep, hrest⟩ : ∃ sep, (sep = ' ' ∨ sep = '\t') ∧
            rest.toList.head? = some sep := by
          rcases hhead with hhead | hhead
          · exact ⟨' ', Or.inl rfl, hhead⟩
          · exact ⟨'\t', Or.inr rfl, hhead⟩
        obtain ⟨cs, hcs⟩ := List.head?_eq_some_iff.1 hrest
        obtain rfl : rest = String.singleton sep ++ String.ofList cs := by
          rw [← String.toList_inj]
          simpa using hcs
        rw [Text.words_blank (hblank sep hsep)] at h
        refine ⟨sep, String.ofList cs, hsep, ?_, h⟩
        rw [Text.after?_eq_some_iff.1 hafter, String.append_assoc]
      · cases h
  · rintro ⟨sep, behind, hsep, rfl, hw⟩
    have hafter : Text.after? key (key ++ String.singleton sep ++ behind) =
        some (String.singleton sep ++ behind) :=
      Text.after?_eq_some_iff.2 String.append_assoc
    have hhead : (String.singleton sep ++ behind).toList.head? = some sep := by simp
    rw [wordFor?, hafter]
    dsimp only
    rw [hhead, if_pos (by simpa using hsep), Text.words_blank (hblank sep hsep)]
    exact hw

/-! ### The search as the first of its lines that says something -/

section Lookup

variable (path key : String) (most : Nat)

/-- What one line says, if it ends the search. -/
def lookup (line : List UInt8) : Option (Except ControlError Nat) :=
  if most < (Line.body line).length then
    match Text.ofBytes? (line.take (Line.reach most)) with
    | none => some (.error (.unreadable path .notText))
    | some _ => none
  else
    match Text.ofBytes? (Line.body line) with
    | none => some (.error (.unreadable path .notText))
    | some text => (wordFor? key text).map (ControlLine.number path)

variable {path key most} {line : List UInt8}

theorem lookup_of_notText (hmeasured : most < Numeral.max64 ∨ line.length ≤ Numeral.max64)
    (hread : ¬ Text.Spells (line.take (Line.reach most))) :
    lookup path key most line = some (.error (.unreadable path .notText)) := by
  rw [lookup]
  by_cases hlong : most < (Line.body line).length
  · rw [if_pos hlong, Text.ofBytes?_eq_none_iff.2 hread]
  · rw [Line.take_of_fits hmeasured (Nat.not_lt.1 hlong), ← Text.spells_body_iff] at hread
    rw [if_neg hlong, Text.ofBytes?_eq_none_iff.2 hread]

theorem lookup_text {text : String} (hfits : (Line.body line).length ≤ most)
    (htext : Line.body line = Text.toBytes text) :
    lookup path key most line = (wordFor? key text).map (ControlLine.number path) := by
  rw [lookup, if_neg (Nat.not_lt.2 hfits), Text.ofBytes?_eq_some_iff.2 htext]

/-- What a line says is what the read tells that comes to it. -/
theorem lookup_of_tells {found : Line.Bounded}
    (hmeasured : most < Numeral.max64 ∨ line.length ≤ Numeral.max64)
    (h : Line.Tells most line found) : lookup path key most line = answer path key found := by
  cases h with
  | line hfits htext => exact lookup_text hfits htext
  | tooLong hlong hread =>
    obtain ⟨text, htext⟩ := hread
    rw [lookup, if_pos hlong, Text.ofBytes?_eq_some_iff.2 htext]
    rfl
  | notText hread => exact lookup_of_notText hmeasured hread

theorem findSome?_answer {lines : List (List UInt8)} {steps : List Line.Step}
    {found : List Line.Bounded}
    (hmeasured : ∀ line ∈ lines, most < Numeral.max64 ∨ line.length ≤ Numeral.max64)
    (h : Line.Visits most lines steps found) :
    found.findSome? (answer path key) =
      some ((lines.findSome? (lookup path key most)).getD (.error (.keyMissing path key))) := by
  induction h with
  | ended => rfl
  | notText h =>
    rw [List.forall_mem_cons] at hmeasured
    rw [List.findSome?_cons, List.findSome?_cons, lookup_of_tells hmeasured.1 h]
    rfl
  | line h _ ih =>
    rw [List.forall_mem_cons] at hmeasured
    rw [List.findSome?_cons, List.findSome?_cons, lookup_of_tells hmeasured.1 h,
      ih hmeasured.2]
    cases answer path key _ <;> rfl
  | tooLong h _ ih =>
    rw [List.forall_mem_cons] at hmeasured
    rw [List.findSome?_cons, List.findSome?_cons, lookup_of_tells hmeasured.1 h,
      ih hmeasured.2]
    rfl

variable (path key most)

/-- The search takes the first line that says something. -/
theorem value_search {bytes : List UInt8} (hmeasured : Line.Measured most bytes) :
    (search path key most bytes).value =
      ((Line.all bytes).findSome? (lookup path key most)).getD (.error (.keyMissing path key)) := by
  have hfirst := search_eq_first path key most bytes
  rw [findSome?_answer (fun _ => hmeasured.of_mem) (Line.visits_loop hmeasured)] at hfirst
  exact (Option.some.inj hfirst).symm

end Lookup

/-! ### What a search gives -/

/-- Whether `w` is the word for the key in a line within the bound. -/
def Has (key : String) (most : Nat) (line : List UInt8) (w : String) : Prop :=
  (Line.body line).length ≤ most ∧ ∃ (sep : Char) (behind : String), (sep = ' ' ∨ sep = '\t') ∧
    Line.body line = Text.toBytes (key ++ String.singleton sep ++ behind) ∧
    (Text.words behind).head? = some w

/-- Whether a line ends the search for a key, and what the search then gives: what is read of the
    line is no text, or the line is within the bound and has a word for the key. -/
inductive Ends (path key : String) (most : Nat) (line : List UInt8) :
    Except ControlError Nat → Prop
  | notText (hread : ¬ Text.Spells (line.take (Line.reach most))) :
      Ends path key most line (.error (.unreadable path .notText))
  | value {w : String} {n : Nat} (hword : Has key most line w) (hnumber : Numeral.Writes w n)
      (hle : n ≤ Numeral.max64) : Ends path key most line (.ok n)
  | mismatch {w : String} (hword : Has key most line w)
      (hnumber : ¬ ∃ n, Numeral.Writes w n ∧ n ≤ Numeral.max64) :
      Ends path key most line (.error (.unexpected path w))

section Ends

variable {path key : String} {most : Nat} {line : List UInt8}

theorem has_iff_wordFor? {text w : String} (hfits : (Line.body line).length ≤ most)
    (htext : Line.body line = Text.toBytes text) :
    Has key most line w ↔ wordFor? key text = some w := by
  rw [htext] at hfits
  simp only [wordFor?_eq_some_iff, Has, htext, hfits, Text.toBytes_injective.eq_iff, true_and]

theorem Has.exists_text {w : String} (h : Has key most line w) :
    ∃ text, Line.body line = Text.toBytes text := by
  obtain ⟨-, sep, behind, -, hbody, -⟩ := h
  exact ⟨_, hbody⟩

theorem Has.unique {w v : String} (hw : Has key most line w) (hv : Has key most line v) :
    v = w := by
  obtain ⟨text, htext⟩ := hw.exists_text
  rw [has_iff_wordFor? hw.1 htext] at hw
  rw [has_iff_wordFor? hv.1 htext, hw] at hv
  exact (Option.some.inj hv).symm

theorem lookup_of_has {w : String} (h : Has key most line w) :
    lookup path key most line = some (ControlLine.number path w) := by
  obtain ⟨text, htext⟩ := h.exists_text
  rw [lookup_text h.1 htext, (has_iff_wordFor? h.1 htext).1 h, Option.map_some]

variable (hmeasured : most < Numeral.max64 ∨ line.length ≤ Numeral.max64)

include hmeasured

theorem Has.spells_take {w : String} (h : Has key most line w) :
    Text.Spells (line.take (Line.reach most)) := by
  rw [Line.take_of_fits hmeasured h.1]
  exact Text.spells_body_iff.1 h.exists_text

theorem lookup_of_not_has (hread : Text.Spells (line.take (Line.reach most)))
    (hnone : ∀ w, ¬ Has key most line w) : lookup path key most line = none := by
  by_cases hlong : most < (Line.body line).length
  · obtain ⟨text, htext⟩ := hread
    rw [lookup, if_pos hlong, Text.ofBytes?_eq_some_iff.2 htext]
  · have hfits : (Line.body line).length ≤ most := Nat.not_lt.1 hlong
    rw [Line.take_of_fits hmeasured hfits, ← Text.spells_body_iff] at hread
    obtain ⟨text, htext⟩ := hread
    have hword : wordFor? key text = none := by
      cases hword : wordFor? key text with
      | none => rfl
      | some w => exact absurd ((has_iff_wordFor? hfits htext).2 hword) (hnone w)
    rw [lookup_text hfits htext, hword, Option.map_none]

/-- A line that has a word for the key gives the number that the word writes, or the complaint that
    it writes none. -/
theorem Has.ends_iff {w : String} {result : Except ControlError Nat} (h : Has key most line w) :
    Ends path key most line result ↔ ControlLine.number path w = result := by
  constructor
  · intro hends
    cases hends with
    | notText hread => exact absurd (h.spells_take hmeasured) hread
    | value hword hnumber hle =>
      obtain rfl := h.unique hword
      exact ControlLine.number_ok_iff.2 ⟨hnumber, hle⟩
    | mismatch hword hnumber =>
      obtain rfl := h.unique hword
      exact ControlLine.number_error_iff.2 ⟨rfl, hnumber⟩
  · intro hresult
    cases result with
    | ok n =>
      obtain ⟨hnumber, hle⟩ := ControlLine.number_ok_iff.1 hresult
      exact .value h hnumber hle
    | error error =>
      obtain ⟨rfl, hnumber⟩ := ControlLine.number_error_iff.1 hresult
      exact .mismatch h hnumber

theorem lookup_eq_some_iff {result : Except ControlError Nat} :
    lookup path key most line = some result ↔ Ends path key most line result := by
  by_cases hread : Text.Spells (line.take (Line.reach most))
  · by_cases hword : ∃ w, Has key most line w
    · obtain ⟨w, hw⟩ := hword
      rw [lookup_of_has hw, hw.ends_iff hmeasured, Option.some_inj]
    · have hnone : ∀ w, ¬ Has key most line w := not_exists.1 hword
      rw [lookup_of_not_has hmeasured hread hnone]
      refine iff_of_false nofun fun hends => ?_
      cases hends with
      | notText hread' => exact hread' hread
      | value hw => exact hnone _ hw
      | mismatch hw => exact hnone _ hw
  · rw [lookup_of_notText hmeasured hread, Option.some_inj]
    constructor
    · rintro rfl
      exact .notText hread
    · intro hends
      cases hends with
      | notText => rfl
      | value hw => exact absurd (hw.spells_take hmeasured) hread
      | mismatch hw => exact absurd (hw.spells_take hmeasured) hread

theorem lookup_eq_none_iff :
    lookup path key most line = none ↔ ∀ result, ¬ Ends path key most line result := by
  rw [Option.eq_none_iff_forall_ne_some]
  simp only [ne_eq, lookup_eq_some_iff hmeasured]

end Ends

section Search

variable {path key : String} {most : Nat} {bytes : List UInt8}
  (hmeasured : Line.Measured most bytes)

include hmeasured

theorem findSome?_eq_none_iff : (Line.all bytes).findSome? (lookup path key most) = none ↔
    ∀ line ∈ Line.all bytes, ∀ other, ¬ Ends path key most line other := by
  rw [List.findSome?_eq_none_iff]
  exact forall₂_congr fun line hline => lookup_eq_none_iff (hmeasured.of_mem hline)

theorem findSome?_eq_some_iff {result : Except ControlError Nat} :
    (Line.all bytes).findSome? (lookup path key most) = some result ↔
      ∃ before line after, Line.all bytes = before ++ line :: after ∧
        (∀ passed ∈ before, ∀ other, ¬ Ends path key most passed other) ∧
        Ends path key most line result := by
  rw [List.findSome?_eq_some_iff]
  refine exists₃_congr fun before line after => and_congr_right fun hall => ?_
  have hbefore : ∀ passed ∈ before, passed ∈ Line.all bytes := fun passed hpassed =>
    hall ▸ List.mem_append_left _ hpassed
  have hline : line ∈ Line.all bytes := hall ▸ List.mem_append_right _ List.mem_cons_self
  rw [and_comm, lookup_eq_some_iff (hmeasured.of_mem hline)]
  refine and_congr_left' (forall₂_congr fun passed hpassed => ?_)
  exact lookup_eq_none_iff (hmeasured.of_mem (hbefore passed hpassed))

/-- What a search gives, for every content of a file: the result of the first line that ends it, or
    that the key is missing if there is none. -/
theorem search_eq_iff (result : Except ControlError Nat) :
    (search path key most bytes).value = result ↔
      (∃ before line after, Line.all bytes = before ++ line :: after ∧
        (∀ passed ∈ before, ∀ other, ¬ Ends path key most passed other) ∧
        Ends path key most line result) ∨
      ((∀ passed ∈ Line.all bytes, ∀ other, ¬ Ends path key most passed other) ∧
        result = .error (.keyMissing path key)) := by
  rw [← findSome?_eq_none_iff hmeasured, ← findSome?_eq_some_iff hmeasured,
    value_search path key most hmeasured]
  cases (Line.all bytes).findSome? (lookup path key most) with
  | none => simp [eq_comm]
  | some first => simp

end Search

/-- A word for a longer key, a key without a word and a line past the bound that ends like one with
    the word are passed over; the last line counts without a newline. -/
theorem search_eq_seven :
    let bytes := Text.toBytes "anon_thp 2\nanon\n*************anon 1\nanon\t 7"
    Line.Measured 12 bytes ∧ (search "memory.stat" "anon" 12 bytes).value = .ok 7 := by
  intro bytes
  have hmeasured : Line.Measured 12 bytes := Or.inl (by decide)
  have hfound : (Line.all bytes).findSome? (lookup "memory.stat" "anon" 12) = some (.ok 7) := by
    decide
  exact ⟨hmeasured,
    (search_eq_iff hmeasured _).2 (Or.inl ((findSome?_eq_some_iff hmeasured).1 hfound))⟩

/-! ### Lines past the bound -/

/-- Whether the search comes to a line past the bound that is cut inside a character. -/
def CutInside (path key : String) (most : Nat) (lines : List (List UInt8)) : Prop :=
  ∃ before line after, lines = before ++ line :: after ∧
    (∀ passed ∈ before, ∀ other, ¬ Ends path key most passed other) ∧
    most < (Line.body line).length ∧ ¬ Text.Spells (line.take (Line.reach most))

section CutInside

variable {path key : String} {most : Nat}

theorem cutInside_cons_of_passed {line : List UInt8} {lines : List (List UInt8)}
    (hpassed : ∀ other, ¬ Ends path key most line other) (h : CutInside path key most lines) :
    CutInside path key most (line :: lines) := by
  obtain ⟨before, cut, after, rfl, hbefore, hcut⟩ := h
  refine ⟨line :: before, cut, after, rfl, ?_, hcut⟩
  exact List.forall_mem_cons.2 ⟨hpassed, hbefore⟩

/-- Where no line is cut inside a character, the lines past the bound do not matter. -/
theorem findSome?_within {lines : List (List UInt8)}
    (hmeasured : ∀ line ∈ lines, most < Numeral.max64 ∨ line.length ≤ Numeral.max64)
    (hcut : ¬ CutInside path key most lines) :
    lines.findSome? (lookup path key most) =
      (lines.filter fun line => (Line.body line).length ≤ most).findSome?
        (lookup path key most) := by
  induction lines with
  | nil => rfl
  | cons line lines ih =>
    obtain ⟨hline, hlines⟩ := List.forall_mem_cons.1 hmeasured
    by_cases hfits : (Line.body line).length ≤ most
    · rw [List.filter_cons_of_pos (by simpa using hfits), List.findSome?_cons, List.findSome?_cons]
      cases hlookup : lookup path key most line with
      | some result => rfl
      | none =>
        exact ih hlines (mt (cutInside_cons_of_passed ((lookup_eq_none_iff hline).1 hlookup)) hcut)
    · have hspells : Text.Spells (line.take (Line.reach most)) := by
        by_contra hread
        exact hcut ⟨[], line, lines, rfl, nofun, Nat.not_le.1 hfits, hread⟩
      have hnone : ∀ w, ¬ Has key most line w := fun w hw => hfits hw.1
      have hlookup : lookup path key most line = none := lookup_of_not_has hline hspells hnone
      rw [List.filter_cons_of_neg (by simpa using hfits), List.findSome?_cons, hlookup]
      exact ih hlines (mt (cutInside_cons_of_passed ((lookup_eq_none_iff hline).1 hlookup)) hcut)

variable {s : String} (hmeasured : Line.Measured most (Text.toBytes s))

include hmeasured

theorem measured_within : Line.Measured most (Line.within most (Text.toBytes s)) := by
  rw [Line.Measured, Line.all_within]
  exact hmeasured.imp_right fun h line hline => h line (List.mem_of_mem_filter hline)

/-- A search that comes to a line cut inside a character fails there. -/
theorem search_of_cutInside (hcut : CutInside path key most (Line.all (Text.toBytes s))) :
    (search path key most (Text.toBytes s)).value = .error (.unreadable path .notText) := by
  obtain ⟨before, line, after, hall, hbefore, -, hread⟩ := hcut
  have hfound := (findSome?_eq_some_iff hmeasured).2
    ⟨before, line, after, hall, hbefore, .notText hread⟩
  rw [value_search path key most hmeasured, hfound, Option.getD_some]

/-- Without its lines past the bound a text is read without fail. -/
theorem search_within_ne_notText :
    (search path key most (Line.within most (Text.toBytes s))).value ≠
      .error (.unreadable path .notText) := by
  have hwithin := measured_within hmeasured
  rw [value_search path key most hwithin]
  cases hfound : (Line.all (Line.within most (Text.toBytes s))).findSome?
      (lookup path key most) with
  | none => nofun
  | some result =>
    rintro rfl
    obtain ⟨before, line, after, hall, -, hends⟩ := (findSome?_eq_some_iff hwithin).1 hfound
    have hline : line ∈ Line.all (Line.within most (Text.toBytes s)) := hall ▸ by simp
    rw [Line.all_within, List.mem_filter, decide_eq_true_eq] at hline
    obtain ⟨hmem, hfits⟩ := hline
    cases hends with
    | notText hread =>
      rw [Line.take_of_fits (hmeasured.of_mem hmem) hfits] at hread
      exact hread (Text.spells_of_mem_all hmem)

/-- When the lines of a text past the bound do not matter: leaving them out beforehand gives the
    same exactly if the search comes to none that is cut inside a character. If it does, it
    fails. -/
theorem search_within_iff (path key : String) :
    ((search path key most (Text.toBytes s)).value =
        (search path key most (Line.within most (Text.toBytes s))).value ↔
      ¬ CutInside path key most (Line.all (Text.toBytes s))) ∧
    (CutInside path key most (Line.all (Text.toBytes s)) →
      (search path key most (Text.toBytes s)).value = .error (.unreadable path .notText)) := by
  refine ⟨⟨fun hsame hcut => ?_, fun hcut => ?_⟩, search_of_cutInside hmeasured⟩
  · rw [search_of_cutInside hmeasured hcut] at hsame
    exact search_within_ne_notText hmeasured hsame.symm
  · rw [value_search path key most hmeasured,
      value_search path key most (measured_within hmeasured), Line.all_within,
      findSome?_within (fun line => hmeasured.of_mem) hcut]

end CutInside

/-- A line past the bound that is cut between two characters is passed over. -/
theorem search_within_of_whole :
    let bytes := Text.toBytes "aaéébé\nanon 7\n"
    Line.Measured 6 bytes ∧ (search "memory.stat" "anon" 6 bytes).value = .ok 7 ∧
    ¬ CutInside "memory.stat" "anon" 6 (Line.all bytes) := by
  intro bytes
  have hmeasured : Line.Measured 6 bytes := Or.inl (by decide)
  have hfound : (search "memory.stat" "anon" 6 bytes).value = .ok 7 := by
    rw [value_search _ _ _ hmeasured]
    decide
  have hwithin : (search "memory.stat" "anon" 6 (Line.within 6 bytes)).value = .ok 7 := by
    rw [value_search _ _ _ (measured_within hmeasured)]
    decide
  exact ⟨hmeasured, hfound,
    (search_within_iff hmeasured "memory.stat" "anon").1.1 (hfound.trans hwithin.symm)⟩

/-- A line past the bound that is cut inside a character is not: the search fails, and would find
    the key without that line. -/
theorem search_cut_inside :
    let bytes := Text.toBytes "aaaaaaé\nanon 7\n"
    (search "memory.stat" "anon" 6 bytes).value = .error (.unreadable "memory.stat" .notText) ∧
    (search "memory.stat" "anon" 6 (Line.within 6 bytes)).value = .ok 7 := by
  intro bytes
  have hmeasured : Line.Measured 6 bytes := Or.inl (by decide)
  rw [value_search _ _ _ hmeasured, value_search _ _ _ (measured_within hmeasured)]
  decide

end ControlTable

end CgroupLimits
