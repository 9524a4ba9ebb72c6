import CgroupLimits.Proofs.Lookup
import CgroupLimits.Proofs.Unlimited

/-! Control files of a single line: what each reading of one gives, and how the readings agree.

    All seven readings see the first line of a file and nothing behind it, and can read it exactly
    if it is a text within the bound (`first_ok_iff`). Each then is a reading of one word
    (`readLine_bind`): a number, a signed number or a limit, whether the word stands alone or is
    one of two. So what they give is compared word by word, and where there is no line to read they
    all fail alike. -/

namespace CgroupLimits

/-! ### The first line -/

namespace Line

/-- Whether a text is the first line of a stream: the whole of one that is not empty and has no
    newline, or what stands in front of the first newline. -/
inductive First (line : String) : List UInt8 → Prop
  | last (hne : line ≠ "") (hfree : '\n' ∉ line.toList) : First line (Text.toBytes line)
  | whole (tail : List UInt8) (hfree : '\n' ∉ line.toList) :
    First line (Text.toBytes line ++ newline :: tail)

theorem first_iff {line : String} {bytes : List UInt8} :
    First line bytes ↔ bytes ≠ [] ∧ body (cut bytes).1 = Text.toBytes line := by
  have hfree : newline ∉ Text.toBytes line ↔ '\n' ∉ line.toList :=
    not_congr Text.newline_mem_toBytes
  constructor
  · intro h
    cases h with
    | last hne hline =>
      rw [cut_last (hfree.2 hline), body_last (hfree.2 hline)]
      exact ⟨fun hnil => hne (Text.toBytes_injective (hnil.trans Text.toBytes_empty.symm)), rfl⟩
    | whole tail hline =>
      rw [cut_whole tail (hfree.2 hline), body_whole]
      exact ⟨by simp, rfl⟩
  · rintro ⟨hne, hbody⟩
    rcases stream_cases bytes with hbytes | ⟨text, tail, htext, rfl⟩
    · rw [cut_last hbytes, body_last hbytes] at hbody
      subst hbody
      refine .last ?_ (hfree.1 hbytes)
      rintro rfl
      exact hne Text.toBytes_empty
    · rw [cut_whole tail htext, body_whole] at hbody
      subst hbody
      exact .whole tail (hfree.1 htext)

theorem First.length_cut_le {line : String} {bytes : List UInt8} (h : First line bytes) :
    (cut bytes).1.length ≤ (Text.toBytes line).length + 1 := by
  have hfree (hline : '\n' ∉ line.toList) : newline ∉ Text.toBytes line :=
    mt Text.newline_mem_toBytes.1 hline
  cases h with
  | last _ hline =>
    rw [cut_last (hfree hline)]
    exact Nat.le_succ _
  | whole tail hline =>
    rw [cut_whole tail (hfree hline), List.length_append]
    exact Nat.le_refl _

/-- What stands behind a newline is no part of the first line. -/
theorem cut_front (front tail : List UInt8) :
    (cut (front ++ newline :: tail)).1 = (cut (front ++ [newline])).1 := by
  induction front with
  | nil => rfl
  | cons b bs ih =>
    by_cases hb : b = newline
    · simp [cut, hb]
    · simp [cut, hb, ih]

end Line

namespace ControlLine

/-- Whether a line is the first one of an open file, and within the bound. -/
def Shows (most : Nat) (opened : Opened) (line : String) : Prop :=
  ∃ bytes, opened = .file bytes ∧ Line.First line bytes ∧ (Text.toBytes line).length ≤ most

/-- Whether a bounded read can tell the first line of an open file from a longer one, as it always
    can in a file that a machine of 64 bits holds. -/
def Measured (most : Nat) (opened : Opened) : Prop :=
  ∀ bytes, opened = .file bytes →
    most < Numeral.max64 ∨ (Line.cut bytes).1.length ≤ Numeral.max64

section First

variable {path : String} {most : Nat} {opened : Opened} {line : String}

theorem first_ok_iff (hmeasured : Measured most opened) :
    first path most opened = .ok line ↔ Shows most opened line := by
  cases opened with
  | failed cause => exact iff_of_false nofun nofun
  | directory => exact iff_of_false nofun nofun
  | file bytes =>
    have hshows : Shows most (.file bytes) line ↔ (bytes ≠ [] ∧
        Line.body (Line.cut bytes).1 = Text.toBytes line) ∧ (Text.toBytes line).length ≤ most := by
      rw [← Line.first_iff]
      constructor
      · rintro ⟨_, hfile, h⟩
        exact Opened.file.inj hfile ▸ h
      · exact fun h => ⟨bytes, rfl, h⟩
    rw [hshows, first]
    by_cases hne : bytes = []
    · have hended : (Line.read most bytes).1 = .ended := hne ▸ Line.outcome_nil most
      rw [hended]
      exact iff_of_false nofun fun h => h.1.1 hne
    · have htells := (Line.tells_read hne rfl (hmeasured bytes rfl)).1
      generalize (Line.read most bytes).1 = found at htells ⊢
      cases htells with
      | line hfits htext =>
        rw [htext] at hfits ⊢
        constructor
        · intro h
          obtain rfl := Except.ok.inj h
          exact ⟨⟨hne, rfl⟩, hfits⟩
        · rintro ⟨⟨-, hsame⟩, -⟩
          exact congrArg Except.ok (Text.toBytes_injective hsame)
      | tooLong hlong _ =>
        refine iff_of_false nofun fun h => ?_
        rw [h.1.2] at hlong
        exact Nat.not_lt.2 h.2 hlong
      | notText hread =>
        refine iff_of_false nofun fun h => ?_
        rw [Line.take_of_fits (hmeasured bytes rfl) (h.1.2 ▸ h.2), ← Text.spells_body_iff] at hread
        exact hread ⟨line, h.1.2⟩

/-- What stands behind a newline is not read. -/
theorem first_front (path : String) (most : Nat) (front tail tail' : List UInt8) :
    first path most (.file (front ++ Line.newline :: tail)) =
      first path most (.file (front ++ Line.newline :: tail')) := by
  simp only [first, Line.read, Line.taken_eq_take, Line.cut_front front]

end First

/-! ### One word, read in three ways -/

section Word

variable {path line w : String} {bound n : Nat}

theorem word_ok_iff : word path line = .ok w ↔ Text.words line = [w] := by
  unfold word
  split
  · rename_i v hwords
    rw [hwords, List.singleton_inj, Except.ok.injEq]
  · rename_i hother
    exact iff_of_false nofun (hother w)

theorem limit_value_iff :
    limit bound path w = .ok (.value n) ↔ number path w = .ok n ∧ n < bound := by
  constructor
  · intro h
    rw [limit_eq_cut] at h
    obtain ⟨l, hl, hcut⟩ := exists_of_map_ok h
    obtain ⟨rfl, hlt⟩ := Limit.cut_eq_value_iff.1 hcut
    refine ⟨?_, hlt⟩
    unfold stated at hl
    split at hl
    · cases hl
    · split at hl
      · obtain ⟨_, -, hl⟩ := exists_of_map_ok hl
        cases hl
      · obtain ⟨m, hm, hl⟩ := exists_of_map_ok hl
        rw [hm, Limit.value.inj hl]
  · rintro ⟨h, hlt⟩
    rw [limit_of_number h, if_pos hlt]

theorem limit_unlimited_iff : limit bound path w = .ok .unlimited ↔
    w = "max" ∨ (∃ n, number path w = .ok n ∧ bound ≤ n) ∨
      w.toList.head? = some '-' ∧ ∃ z, signed path w = .ok z := by
  constructor
  · intro h
    unfold limit at h
    split at h
    case isTrue hmax => exact Or.inl hmax
    case isFalse hmax =>
      split at h
      case isTrue hsign =>
        obtain ⟨z, hz, -⟩ := exists_of_map_ok h
        exact Or.inr (Or.inr ⟨hsign, z, hz⟩)
      case isFalse hsign =>
        obtain ⟨n, hn, hlimit⟩ := exists_of_map_ok h
        refine Or.inr (Or.inl ⟨n, hn, Nat.not_lt.1 fun hlt => ?_⟩)
        rw [if_pos hlt] at hlimit
        cases hlimit
  · rintro (rfl | ⟨n, hn, hle⟩ | ⟨hsign, z, hz⟩)
    · rfl
    · rw [limit_of_number hn, if_neg (Nat.not_lt.2 hle)]
    · have hmax : w ≠ "max" := by
        rintro rfl
        revert hsign
        decide
      rw [limit, if_neg hmax, if_pos hsign, hz]
      rfl

/-- A signed number above zero is a number. -/
theorem number_of_signed {z : Int} (h : signed path w = .ok z) (hpos : 0 < z) :
    number path w = .ok z.toNat := by
  rw [signed, mapError_ok_iff] at h
  obtain ⟨hwrites, hle⟩ := Numeral.writes_of_signed h hpos
  exact number_ok_iff.2 ⟨hwrites, Nat.le_trans hle (by decide)⟩

end Word

end ControlLine

/-- The word at a position of two. -/
def Position.pick (w v : String) : Position → String
  | .first => w
  | .second => v

namespace ControlLine

variable {path line : String}

theorem wordOfTwo_of_words {w v : String} (position : Position) (h : Text.words line = [w, v]) :
    wordOfTwo position path line = .ok (position.pick w v) := by
  rw [wordOfTwo, h]
  rfl

theorem wordOfTwo_of_length (position : Position) (h : (Text.words line).length ≠ 2) :
    wordOfTwo position path line = .error (.unexpected path line) := by
  unfold wordOfTwo
  split
  · rename_i w v hwords
    rw [hwords] at h
    exact absurd rfl h
  · rfl

end ControlLine

/-! ### The readings of a file -/

/-- All readings of a single line. -/
structure LineReadings where
  word : Except ControlError String
  number : Except ControlError Nat
  signed : Except ControlError Int
  limit : Nat → Except ControlError Limit
  wordOfTwo : Position → Except ControlError String
  numberOfTwo : Position → Except ControlError Nat
  limitOfTwo : Position → Nat → Except ControlError Limit

/-- What all readings of a file at a path make of its first line. -/
def LineReadings.of (path : String) (line : Except ControlError String) : LineReadings where
  word := line >>= ControlLine.word path
  number := line >>= fun l => ControlLine.word path l >>= ControlLine.number path
  signed := line >>= fun l => ControlLine.word path l >>= ControlLine.signed path
  limit bound := line >>= fun l => ControlLine.word path l >>= ControlLine.limit bound path
  wordOfTwo position := line >>= ControlLine.wordOfTwo position path
  numberOfTwo position :=
    line >>= fun l => ControlLine.wordOfTwo position path l >>= ControlLine.number path
  limitOfTwo position bound :=
    line >>= fun l => ControlLine.wordOfTwo position path l >>= ControlLine.limit bound path

/-- The readings that all fail alike. -/
def LineReadings.failed (error : ControlError) : LineReadings where
  word := .error error
  number := .error error
  signed := .error error
  limit _ := .error error
  wordOfTwo _ := .error error
  numberOfTwo _ := .error error
  limitOfTwo _ _ := .error error

namespace ControlDirectory

/-- All readings of a file's first line. -/
def lineReadings (d : ControlDirectory) (files : Files) (name : String) : LineReadings where
  word := d.readWord files name
  number := d.readNumber files name
  signed := d.readSigned files name
  limit := d.readLimit files name
  wordOfTwo := d.readWordOfTwo files name
  numberOfTwo := d.readNumberOfTwo files name
  limitOfTwo := d.readLimitOfTwo files name

section Path

variable {d : ControlDirectory} {files : Files} {name path : String}
  (hpath : d.path name = .ok path)

include hpath

theorem readLine_eq {α : Type} (reader : String → String → Except ControlError α) :
    d.readLine files name reader =
      ControlLine.first path d.maxLineLength (files path) >>= reader path := by
  rw [readLine, hpath]
  rfl

/-- What is read of a word is read of it alone, wherever the word was found. -/
theorem readLine_bind {α β : Type} (word : String → String → Except ControlError α)
    (reader : String → α → Except ControlError β) :
    (d.readLine files name fun path line => word path line >>= reader path) =
      d.readLine files name word >>= reader path := by
  rw [readLine_eq hpath, readLine_eq hpath, bind_assoc]

theorem readNumber_eq : d.readNumber files name =
    d.readWord files name >>= ControlLine.number path := readLine_bind hpath _ _

theorem readSigned_eq : d.readSigned files name =
    d.readWord files name >>= ControlLine.signed path := readLine_bind hpath _ _

theorem readLimit_eq (bound : Nat) : d.readLimit files name bound =
    d.readWord files name >>= ControlLine.limit bound path := readLine_bind hpath _ _

theorem readNumberOfTwo_eq (position : Position) : d.readNumberOfTwo files name position =
    d.readWordOfTwo files name position >>= ControlLine.number path := readLine_bind hpath _ _

theorem readLimitOfTwo_eq (position : Position) (bound : Nat) :
    d.readLimitOfTwo files name position bound =
      d.readWordOfTwo files name position >>= ControlLine.limit bound path :=
  readLine_bind hpath _ _

theorem lineReadings_eq : d.lineReadings files name =
    .of path (ControlLine.first path d.maxLineLength (files path)) := by
  simp only [lineReadings, LineReadings.of, LineReadings.mk.injEq]
  exact ⟨readLine_eq hpath _, readLine_eq hpath _, readLine_eq hpath _,
    funext fun _ => readLine_eq hpath _, funext fun _ => readLine_eq hpath _,
    funext fun _ => readLine_eq hpath _, funext₂ fun _ _ => readLine_eq hpath _⟩

/-! ### How the readings agree -/

theorem readLimit_value_iff {bound n : Nat} : d.readLimit files name bound = .ok (.value n) ↔
    d.readNumber files name = .ok n ∧ n < bound := by
  rw [readLimit_eq hpath, readNumber_eq hpath]
  cases d.readWord files name with
  | error error => exact iff_of_false nofun nofun
  | ok w => exact ControlLine.limit_value_iff

theorem readLimit_unlimited_iff {bound : Nat} : d.readLimit files name bound = .ok .unlimited ↔
    d.readWord files name = .ok "max" ∨ (∃ n, d.readNumber files name = .ok n ∧ bound ≤ n) ∨
      ∃ w z, d.readWord files name = .ok w ∧ w.toList.head? = some '-' ∧
        d.readSigned files name = .ok z := by
  rw [readLimit_eq hpath, readNumber_eq hpath, readSigned_eq hpath]
  cases d.readWord files name with
  | error error =>
    refine iff_of_false nofun ?_
    rintro (h | ⟨n, h, -⟩ | ⟨w, z, h, -⟩) <;> cases h
  | ok w =>
    refine ControlLine.limit_unlimited_iff.trans (or_congr ?_ (or_congr Iff.rfl ?_))
    · rw [Except.ok.injEq]
    · constructor
      · rintro ⟨hsign, z, hz⟩
        exact ⟨w, z, rfl, hsign, hz⟩
      · rintro ⟨_, z, hw, hsign, hz⟩
        exact ⟨Except.ok.inj hw ▸ hsign, z, hz⟩

theorem readNumber_of_readSigned {z : Int} (h : d.readSigned files name = .ok z) (hpos : 0 < z) :
    d.readNumber files name = .ok z.toNat := by
  rw [readSigned_eq hpath] at h
  obtain ⟨w, hw, hz⟩ := exists_of_bind_ok h
  rw [readNumber_eq hpath, hw]
  exact ControlLine.number_of_signed hz hpos

variable (hmeasured : ControlLine.Measured d.maxLineLength (files path))

include hmeasured

theorem readLine_of_shows {line : String}
    (h : ControlLine.Shows d.maxLineLength (files path) line) {α : Type}
    (reader : String → String → Except ControlError α) :
    d.readLine files name reader = reader path line := by
  rw [readLine_eq hpath, (ControlLine.first_ok_iff hmeasured).2 h]
  rfl

theorem readWord_ok_iff {w : String} : d.readWord files name = .ok w ↔
    ∃ line, ControlLine.Shows d.maxLineLength (files path) line ∧ Text.words line = [w] := by
  constructor
  · intro h
    rw [readWord, readLine_eq hpath] at h
    obtain ⟨line, hline, hw⟩ := exists_of_bind_ok h
    exact ⟨line, (ControlLine.first_ok_iff hmeasured).1 hline, ControlLine.word_ok_iff.1 hw⟩
  · rintro ⟨line, hline, hw⟩
    rw [readWord, readLine_of_shows hpath hmeasured hline]
    exact ControlLine.word_ok_iff.2 hw

theorem readNumber_ok_iff {n : Nat} : d.readNumber files name = .ok n ↔
    ∃ line w, ControlLine.Shows d.maxLineLength (files path) line ∧ Text.words line = [w] ∧
      Numeral.Writes w n ∧ n ≤ Numeral.max64 := by
  rw [readNumber_eq hpath]
  constructor
  · intro h
    obtain ⟨w, hw, hn⟩ := exists_of_bind_ok h
    obtain ⟨line, hline, hwords⟩ := (readWord_ok_iff hpath hmeasured).1 hw
    exact ⟨line, w, hline, hwords, ControlLine.number_ok_iff.1 hn⟩
  · rintro ⟨line, w, hline, hwords, hn⟩
    rw [(readWord_ok_iff hpath hmeasured).2 ⟨line, hline, hwords⟩]
    exact ControlLine.number_ok_iff.2 hn

theorem lineReadings_of_not_shows
    (h : ∀ line, ¬ ControlLine.Shows d.maxLineLength (files path) line) :
    ∃ error, d.lineReadings files name = .failed error := by
  cases hfirst : ControlLine.first path d.maxLineLength (files path) with
  | error error =>
    refine ⟨error, ?_⟩
    rw [lineReadings_eq hpath, hfirst]
    rfl
  | ok line => exact absurd ((ControlLine.first_ok_iff hmeasured).1 hfirst) (h line)

/-- One of two words reads as the same word does in a file that has no other in its first line. -/
theorem readWordOfTwo_eq_readWord {files' : Files} {line w v : String} {position : Position}
    (hline : ControlLine.Shows d.maxLineLength (files path) line)
    (hwords : Text.words line = [w, v])
    (hmeasured' : ControlLine.Measured d.maxLineLength (files' path))
    (hpicked : ControlLine.Shows d.maxLineLength (files' path) (position.pick w v)) :
    d.readWordOfTwo files name position = d.readWord files' name := by
  have hmem : position.pick w v ∈ Text.words line := by
    rw [hwords]
    cases position <;> simp [Position.pick]
  have hword : d.readWord files' name = .ok (position.pick w v) :=
    (readWord_ok_iff hpath hmeasured').2 ⟨_, hpicked, (Text.isWord_of_mem hmem).words⟩
  rw [readWordOfTwo, readLine_of_shows hpath hmeasured hline, hword]
  exact ControlLine.wordOfTwo_of_words position hwords

/-- The readings of a single line, for every content of the file. A number is read exactly if it
    stands alone in a first line within the bound. A limit below `bound` is such a number, and no
    limit is `max`, a number from `bound` on or a signed number with a minus. A signed number above
    zero is a number. One of two words reads as it would alone, and of any other count of words none
    does. Without a first line within the bound all readings fail alike, and what stands behind a
    newline changes none of them. -/
theorem lineReadings_agree :
    (∀ n, d.readNumber files name = .ok n ↔
      ∃ line w, ControlLine.Shows d.maxLineLength (files path) line ∧ Text.words line = [w] ∧
        Numeral.Writes w n ∧ n ≤ Numeral.max64) ∧
    (∀ bound n, d.readLimit files name bound = .ok (.value n) ↔
      d.readNumber files name = .ok n ∧ n < bound) ∧
    (∀ bound, d.readLimit files name bound = .ok .unlimited ↔
      d.readWord files name = .ok "max" ∨ (∃ n, d.readNumber files name = .ok n ∧ bound ≤ n) ∨
        ∃ w z, d.readWord files name = .ok w ∧ w.toList.head? = some '-' ∧
          d.readSigned files name = .ok z) ∧
    (∀ z, d.readSigned files name = .ok z → 0 < z → d.readNumber files name = .ok z.toNat) ∧
    (∀ line w v position, ∀ files' : Files,
      ControlLine.Shows d.maxLineLength (files path) line → Text.words line = [w, v] →
      ControlLine.Measured d.maxLineLength (files' path) →
      ControlLine.Shows d.maxLineLength (files' path) (position.pick w v) →
        d.readNumberOfTwo files name position = d.readNumber files' name ∧
        ∀ bound, d.readLimitOfTwo files name position bound = d.readLimit files' name bound) ∧
    (∀ line position, ControlLine.Shows d.maxLineLength (files path) line →
      (Text.words line).length ≠ 2 →
        d.readNumberOfTwo files name position = .error (.unexpected path line) ∧
        ∀ bound, d.readLimitOfTwo files name position bound = .error (.unexpected path line)) ∧
    ((∀ line, ¬ ControlLine.Shows d.maxLineLength (files path) line) →
      ∃ error, d.lineReadings files name = .failed error) ∧
    (∀ front tail tail', ∀ files' : Files, files path = .file (front ++ Line.newline :: tail) →
      files' path = .file (front ++ Line.newline :: tail') →
        d.lineReadings files' name = d.lineReadings files name) := by
  refine ⟨fun n => readNumber_ok_iff hpath hmeasured, fun bound n => readLimit_value_iff hpath,
    fun bound => readLimit_unlimited_iff hpath, fun z => readNumber_of_readSigned hpath,
    ?selected, ?otherCount, lineReadings_of_not_shows hpath hmeasured, ?behind⟩
  case selected =>
    intro line w v position files' hline hwords hmeasured' hpicked
    have hsame := readWordOfTwo_eq_readWord hpath hmeasured hline hwords hmeasured' hpicked
    refine ⟨?_, fun bound => ?_⟩
    · rw [readNumberOfTwo_eq hpath, readNumber_eq hpath, hsame]
    · rw [readLimitOfTwo_eq hpath, readLimit_eq hpath, hsame]
  case otherCount =>
    intro line position hline hlength
    have hword : d.readWordOfTwo files name position = .error (.unexpected path line) := by
      rw [readWordOfTwo, readLine_of_shows hpath hmeasured hline]
      exact ControlLine.wordOfTwo_of_length position hlength
    refine ⟨?_, fun bound => ?_⟩
    · rw [readNumberOfTwo_eq hpath, hword]
      rfl
    · rw [readLimitOfTwo_eq hpath, hword]
      rfl
  case behind =>
    intro front tail tail' files' hfile hfile'
    rw [lineReadings_eq hpath, lineReadings_eq hpath, hfile, hfile',
      ControlLine.first_front path d.maxLineLength front tail' tail]

end Path

/-- Eight bytes under a bound of eight: the first of two words with its plus sign is the number that
    it is alone, and of the lines behind it nothing is read. -/
theorem lineReadings_agree_pair :
    let d : ControlDirectory := ⟨⟨"/", "cg", "/"⟩, 8⟩
    let files : Files := fun _ => .file (Text.toBytes "+050 max\n7 7 7\n")
    let alone : Files := fun _ => .file (Text.toBytes "+050")
    d.path "cpu.max" = .ok "cg/cpu.max" ∧ ControlLine.Measured 8 (files "cg/cpu.max") ∧
    ControlLine.Shows 8 (files "cg/cpu.max") "+050 max" ∧
    d.readNumberOfTwo files "cpu.max" .first = .ok 50 ∧
    d.readNumber alone "cpu.max" = .ok 50 ∧ d.readLimit alone "cpu.max" 50 = .ok .unlimited := by
  intro d files alone
  have hpath : d.path "cpu.max" = .ok "cg/cpu.max" := by decide
  have hmeasured (opened : Opened) : ControlLine.Measured 8 opened := fun _ _ => Or.inl (by decide)
  have hshows : ControlLine.Shows 8 (files "cg/cpu.max") "+050 max" :=
    ⟨_, rfl, .whole (Text.toBytes "7 7 7\n") (by decide), by decide⟩
  have halone : ControlLine.Shows 8 (alone "cg/cpu.max") "+050" :=
    ⟨_, rfl, .last (by decide) (by decide), by decide⟩
  obtain ⟨-, -, -, -, hselected, -⟩ := lineReadings_agree hpath (hmeasured (files "cg/cpu.max"))
  obtain ⟨hnumber, -, hunlimited, -⟩ := lineReadings_agree hpath (hmeasured (alone "cg/cpu.max"))
  have hwrites : Numeral.Writes "+050" 50 ∧ 50 ≤ Numeral.max64 :=
    Numeral.unsigned_ok_iff.1 (by decide)
  have hread : d.readNumber alone "cpu.max" = .ok 50 :=
    (hnumber 50).2 ⟨"+050", "+050", halone, by decide, hwrites⟩
  have hsame := hselected "+050 max" "+050" "max" .first alone hshows (by decide) (hmeasured _)
    halone
  exact ⟨hpath, hmeasured _, hshows, hsame.1.trans hread, hread,
    (hunlimited 50).2 (Or.inr (Or.inl ⟨50, hread, Nat.le_refl _⟩))⟩

/-- A blank line is not an empty file, and a minus alone is no signed number. -/
example :
    let d : ControlDirectory := ⟨⟨"/", "cg", "/"⟩, 8⟩
    let blank : Files := fun _ => .file (Text.toBytes "\n")
    let minus : Files := fun _ => .file (Text.toBytes "-\n")
    d.readNumber blank "cpu.max" = .error (.unexpected "cg/cpu.max" "") ∧
    d.readLimit minus "cpu.max" 50 = .error (.unexpected "cg/cpu.max" "-") := by
  decide

end ControlDirectory

end CgroupLimits
