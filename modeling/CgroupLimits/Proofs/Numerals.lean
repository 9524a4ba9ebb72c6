import CgroupLimits.Proofs.Readings
import CgroupLimits.RowFault
import CgroupLimits.Text.Blank

/-! Which texts are numerals, and that printed numbers are read back.

    `Writes` is the grammar: ASCII digits, at least one, behind at most one plus sign. A reader
    with a bound accepts a text exactly if the text writes a number within the bound
    (`unsigned_ok_iff`), and the decimal text of a number is one that writes it. -/

namespace CgroupLimits.Numeral

/-- Whether a text writes `n` in decimal: digits, at least one, behind at most one plus sign. -/
def Writes (s : String) (n : Nat) : Prop :=
  ∃ cs : List Char, (s.toList = cs ∨ s.toList = '+' :: cs) ∧ cs ≠ [] ∧
    (∀ c ∈ cs, c.isDigit = true) ∧ valueFrom 0 cs = n

theorem magnitude_ok_iff {bound n : Nat} {beyond : NumeralFault} {cs : List Char} :
    magnitude bound beyond cs = .ok n ↔
      cs ≠ [] ∧ (∀ c ∈ cs, c.isDigit = true) ∧ valueFrom 0 cs = n ∧ n ≤ bound := by
  cases cs with
  | nil => simp [magnitude]
  | cons c cs =>
    rw [magnitude, digits_ok_iff (Nat.zero_le bound)]
    · simp
    · simp

/-- A text is accepted exactly if it writes a number within the bound. -/
theorem unsigned_ok_iff {bound n : Nat} {s : String} :
    unsigned bound s = .ok n ↔ Writes s n ∧ n ≤ bound := by
  unfold unsigned Writes
  split
  · rename_i hs
    simp [hs]
  · rename_i cs hs
    rw [magnitude_ok_iff, hs]
    constructor
    · rintro ⟨hne, hdigits, hvalue, hle⟩
      exact ⟨⟨cs, Or.inr rfl, hne, hdigits, hvalue⟩, hle⟩
    · rintro ⟨⟨ds, heq | heq, hne, hdigits, hvalue⟩, hle⟩
      · have hplus := hdigits '+' (heq ▸ List.mem_cons_self)
        exact absurd hplus (by decide)
      · obtain rfl := (List.cons.inj heq).2
        exact ⟨hne, hdigits, hvalue, hle⟩
  · rename_i hnil hplus
    rw [magnitude_ok_iff]
    constructor
    · rintro ⟨hne, hdigits, hvalue, hle⟩
      exact ⟨⟨s.toList, Or.inl rfl, hne, hdigits, hvalue⟩, hle⟩
    · rintro ⟨⟨ds, heq | heq, hne, hdigits, hvalue⟩, hle⟩
      · rw [heq]
        exact ⟨hne, hdigits, hvalue, hle⟩
      · exact absurd heq (hplus ds)

theorem isBlank_of_isDigit {c : Char} (h : c.isDigit = true) : Text.isBlank c = false := by
  have hrange : 48 ≤ c.toNat ∧ c.toNat ≤ 57 := by
    simpa [Char.isDigit, UInt32.le_iff_toNat_le] using h
  rw [Bool.eq_false_iff]
  intro hblank
  simp only [Text.isBlank, Bool.or_eq_true, Bool.and_eq_true, decide_eq_true_eq, beq_iff_eq]
    at hblank
  omega

theorem Writes.ne_empty {s : String} {n : Nat} (h : Writes s n) : s ≠ "" := by
  rintro rfl
  obtain ⟨cs, hs | hs, hne, -⟩ := h
  · exact hne hs.symm
  · cases hs

theorem Writes.free {s : String} {n : Nat} (h : Writes s n) :
    ∀ c ∈ s.toList, Text.isBlank c = false := by
  obtain ⟨cs, hs, -, hdigits, -⟩ := h
  intro c hc
  rcases hs with hs | hs
  · exact isBlank_of_isDigit (hdigits c (hs ▸ hc))
  · rw [hs] at hc
    rcases List.mem_cons.1 hc with rfl | hc
    · decide
    · exact isBlank_of_isDigit (hdigits c hc)

theorem valueFrom_toDigits (n : Nat) : valueFrom 0 (Nat.toDigits 10 n) = n := by
  have hread : Nat.ofDigitChars 10 (Nat.toDigits 10 n) 0 = n := Nat.ofDigitChars_ten_toDigits
  rw [Nat.ofDigitChars_eq_foldl] at hread
  simp only [valueFrom, Nat.mul_comm _ 10]
  exact hread

/-- The decimal text of a number writes it. -/
theorem writes_toString (n : Nat) : Writes (toString n) n := by
  have hlist : (toString n).toList = Nat.toDigits 10 n := Nat.toList_repr
  refine ⟨Nat.toDigits 10 n, Or.inl hlist, ?_, ?_, ?_⟩
  · exact List.length_pos_iff.1 Nat.length_toDigits_pos
  · intro c hc
    exact Nat.isDigit_of_mem_toDigits (by decide) (by decide) hc
  · exact valueFrom_toDigits n

theorem toNat_le_max64 (n : UInt64) : n.toNat ≤ max64 := Nat.le_of_lt_succ n.toNat_lt

theorem Writes.isWord {s : String} {n : Nat} (h : Writes s n) : Text.IsWord s :=
  ⟨h.ne_empty, h.free⟩

theorem isWord_toString (n : Nat) : Text.IsWord (toString n) := (writes_toString n).isWord

/-- A text that writes a number is read as a signed number too. -/
theorem Writes.signed_ok {s : String} {n bound : Nat} (h : Writes s n) (hle : n ≤ bound) :
    signed bound s = .ok (n : Int) := by
  obtain ⟨cs, hs, hne, hdigits, hvalue⟩ := h
  have hmagnitude : magnitude bound .tooLarge cs = .ok n :=
    magnitude_ok_iff.2 ⟨hne, hdigits, hvalue, hle⟩
  obtain ⟨c, cs, rfl⟩ := List.exists_cons_of_ne_nil hne
  have hc := hdigits c List.mem_cons_self
  rcases hs with hs | hs
  · unfold signed
    split
    · rename_i hnil
      rw [hs] at hnil
      cases hnil
    · rename_i ds hminus
      rw [hs] at hminus
      obtain ⟨rfl, -⟩ := List.cons.inj hminus
      exact absurd hc (by decide)
    · rename_i ds hplus
      rw [hs] at hplus
      obtain ⟨rfl, -⟩ := List.cons.inj hplus
      exact absurd hc (by decide)
    · rw [hs, hmagnitude]
      rfl
  · simp only [signed, hs, hmagnitude]
    rfl

/-- A signed numeral above zero is one without the sign. -/
theorem writes_of_signed {s : String} {bound : Nat} {z : Int} (h : signed bound s = .ok z)
    (hpos : 0 < z) : Writes s z.toNat ∧ z.toNat ≤ bound := by
  have hplain {cs : List Char} (hs : s.toList = cs ∨ s.toList = '+' :: cs)
      (hread : (magnitude bound .tooLarge cs).map Int.ofNat = .ok z) :
      Writes s z.toNat ∧ z.toNat ≤ bound := by
    obtain ⟨n, hn, rfl⟩ := exists_of_map_ok hread
    obtain ⟨hne, hdigits, hvalue, hle⟩ := magnitude_ok_iff.1 hn
    exact ⟨⟨cs, hs, hne, hdigits, hvalue⟩, hle⟩
  unfold signed at h
  split at h
  · cases h
  · obtain ⟨m, hm, rfl⟩ := exists_of_map_ok h
    obtain ⟨n, -, hn⟩ := exists_of_bind_ok hm
    obtain rfl := Except.ok.inj hn
    omega
  · rename_i cs hs
    exact hplain (Or.inr hs) h
  · exact hplain (Or.inl rfl) h

end CgroupLimits.Numeral

namespace CgroupLimits.RowFault

/-! ### Numbers in a row -/

variable {bound : Nat} {line w : String}

theorem number_ok_iff {n : Nat} :
    number bound line w = .ok n ↔ Numeral.Writes w n ∧ n ≤ bound := by
  rw [number, mapError_ok_iff, Numeral.unsigned_ok_iff]

theorem number_error_iff {fault : RowFault} :
    number bound line w = .error fault ↔
      ∃ cause, Numeral.unsigned bound w = .error cause ∧ fault = .invalidNumber w line cause := by
  rw [number, mapError_error_iff]

end CgroupLimits.RowFault
