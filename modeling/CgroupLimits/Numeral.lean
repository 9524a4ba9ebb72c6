/-! Decimal numerals with a bounded value.

    A numeral is a run of ASCII digits, at least one, behind at most one sign. Leading zeros are
    free. Reading goes from left to right and stops at the first problem: a character that is no
    digit, or a digit that takes the value past the bound. At one place the bad character wins.
    `digits_ok_iff` says which texts are accepted and with what value. -/

namespace CgroupLimits

/-- Why a text is no numeral. -/
inductive NumeralFault
  | empty
  | invalidDigit
  | tooLarge
  | tooSmall
  deriving DecidableEq, Repr

/-- The wording of a fault. -/
def NumeralFault.message : NumeralFault → String
  | .empty => "cannot parse integer from empty string"
  | .invalidDigit => "invalid digit found in string"
  | .tooLarge => "number too large to fit in target type"
  | .tooSmall => "number too small to fit in target type"

namespace Numeral

/-- The greatest count of 32 bits. -/
def max32 : Nat := 4294967295

/-- The greatest amount of 64 bits. -/
def max64 : Nat := 18446744073709551615

/-- The greatest signed amount of 64 bits. -/
def max63 : Nat := 9223372036854775807

/-- The value of an ASCII digit. -/
def digit? (c : Char) : Option Nat :=
  if c.isDigit then some (c.toNat - '0'.toNat) else none

/-- Reads digits behind a value `acc`; a value past `bound` is the fault `beyond`. -/
def digits (bound : Nat) (beyond : NumeralFault) (acc : Nat) : List Char → Except NumeralFault Nat
  | [] => .ok acc
  | c :: cs =>
    match digit? c with
    | none => .error .invalidDigit
    | some d =>
      if acc * 10 + d ≤ bound then digits bound beyond (acc * 10 + d) cs else .error beyond

/-- The digits behind a sign: there has to be one. -/
def magnitude (bound : Nat) (beyond : NumeralFault) : List Char → Except NumeralFault Nat
  | [] => .error .invalidDigit
  | cs => digits bound beyond 0 cs

/-- A natural number up to `bound`, with an optional plus sign. -/
def unsigned (bound : Nat) (s : String) : Except NumeralFault Nat :=
  match s.toList with
  | [] => .error .empty
  | '+' :: cs => magnitude bound .tooLarge cs
  | cs => magnitude bound .tooLarge cs

/-- An integer from `-(bound + 1)` to `bound`, with an optional sign. -/
def signed (bound : Nat) (s : String) : Except NumeralFault Int :=
  match s.toList with
  | [] => .error .empty
  | '-' :: cs => (magnitude (bound + 1) .tooSmall cs).map fun n => -(n : Int)
  | '+' :: cs => (magnitude bound .tooLarge cs).map Int.ofNat
  | cs => (magnitude bound .tooLarge cs).map Int.ofNat

/-- The number that a text of digits writes, read behind `acc`. -/
def valueFrom (acc : Nat) (cs : List Char) : Nat :=
  cs.foldl (fun n c => n * 10 + (c.toNat - '0'.toNat)) acc

/-! ### Which texts are numerals -/

theorem le_valueFrom (acc : Nat) (cs : List Char) : acc ≤ valueFrom acc cs := by
  induction cs generalizing acc with
  | nil => exact Nat.le_refl _
  | cons c cs ih =>
    have h := ih (acc * 10 + (c.toNat - '0'.toNat))
    simp only [valueFrom, List.foldl_cons] at h ⊢
    omega

/-- Digits are read exactly when all characters are digits and the whole number is in bounds. -/
theorem digits_ok_iff {bound : Nat} {beyond : NumeralFault} {acc n : Nat} {cs : List Char}
    (hacc : acc ≤ bound) :
    digits bound beyond acc cs = .ok n ↔
      (∀ c ∈ cs, c.isDigit = true) ∧ valueFrom acc cs = n ∧ n ≤ bound := by
  induction cs generalizing acc with
  | nil =>
    simp only [digits, Except.ok.injEq, List.not_mem_nil, false_implies, implies_true, true_and,
      valueFrom, List.foldl_nil]
    exact ⟨fun h => ⟨h, h ▸ hacc⟩, fun h => h.1⟩
  | cons c cs ih =>
    by_cases hc : c.isDigit = true
    · have hv := le_valueFrom (acc * 10 + (c.toNat - '0'.toNat)) cs
      by_cases hb : acc * 10 + (c.toNat - '0'.toNat) ≤ bound
      · simp only [digits, digit?, hc, if_true, if_pos hb, ih hb, List.mem_cons, forall_eq_or_imp,
          true_and, valueFrom, List.foldl_cons]
      · simp only [digits, digit?, hc, if_true, if_neg hb, List.mem_cons, forall_eq_or_imp,
          true_and, reduceCtorEq, false_iff]
        rintro ⟨_, rfl, h⟩
        simp only [valueFrom, List.foldl_cons] at hv h
        omega
    · simp [digits, digit?, hc]

end Numeral

end CgroupLimits
