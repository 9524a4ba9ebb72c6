import CgroupLimits.CpuList
import CgroupLimits.Proofs.Numerals
import CgroupLimits.Proofs.Readings
import Mathlib.Data.Finset.Union
import Mathlib.Data.List.Forall2
import Mathlib.Order.Interval.Finset.Nat

/-! What a list of processors counts: the size of the union of its ranges.

    The sweep looks at each range once and remembers only the place it has come to, so it is right
    only because the ranges come sorted by their least processor: what a later range holds above
    that place, no earlier one holds. `sweep_eq_card` states that for every place to start from.
    Which texts are lists is said by `IsPart`, one constructor for each kind of part, and
    `tally` does the sweep in words of 32 and 64 bits, to show that no step leaves its word. -/

namespace CgroupLimits.CpuList

/-! ### Which texts are lists -/

/-- Whether `s` is a number of 32 bits with any number of blanks around it. -/
def IsNumber (s : String) (n : Nat) : Prop :=
  ∃ w, Text.Padded w s ∧ Numeral.Writes w n ∧ n ≤ Numeral.max32

/-- Whether a part of a list names the processors from `range.1` to `range.2`: it is one number, or
    two numbers around its first dash, of which the first is not the greater one. -/
inductive IsPart : String → Nat × Nat → Prop
  | one {part : String} {n : Nat} (hdash : '-' ∉ part.toList) (hn : IsNumber part n) :
      IsPart part (n, n)
  | range {a b : String} {first last : Nat} (hdash : '-' ∉ a.toList) (hfirst : IsNumber a first)
      (hlast : IsNumber b last) (hle : first ≤ last) : IsPart (a ++ "-" ++ b) (first, last)

/-- Whether a text, blanks around it aside, lists the ranges one by one between commas. -/
def Lists (list : String) (ranges : List (Nat × Nat)) : Prop :=
  List.Forall₂ IsPart (Text.split (· == ',') (Text.trim list)) ranges

theorem number?_eq_some_iff {s : String} {n : Nat} : number? s = some n ↔ IsNumber s n := by
  rw [number?, toOption_eq_some_iff, Numeral.unsigned_ok_iff]
  constructor
  · rintro ⟨hwrites, hle⟩
    exact ⟨Text.trim s, Text.padded_trim s, hwrites, hle⟩
  · rintro ⟨w, hpadded, hwrites, hle⟩
    rw [hpadded.trim_eq hwrites.free]
    exact ⟨hwrites, hle⟩

theorem range?_of_cut {part a b : String}
    (hcut : (Text.cut? "-" part).getD (part, part) = (a, b)) {r : Nat × Nat} :
    range? part = some r ↔ IsNumber a r.1 ∧ IsNumber b r.2 ∧ r.1 ≤ r.2 := by
  obtain ⟨first, last⟩ := r
  simp only [range?, hcut, Option.bind_eq_bind, Option.bind_eq_some_iff, number?_eq_some_iff,
    Option.ite_none_right_eq_some, Option.some.injEq, Prod.mk.injEq]
  constructor
  · rintro ⟨m, hm, n, hn, hle, rfl, rfl⟩
    exact ⟨hm, hn, hle⟩
  · rintro ⟨hm, hn, hle⟩
    exact ⟨first, hm, last, hn, hle, rfl, rfl⟩

theorem IsNumber.unique {s : String} {m n : Nat} (hm : IsNumber s m) (hn : IsNumber s n) :
    m = n :=
  Option.some.inj ((number?_eq_some_iff.2 hm).symm.trans (number?_eq_some_iff.2 hn))

/-- A part is read exactly as the grammar has it. -/
theorem range?_eq_some_iff {part : String} {r : Nat × Nat} :
    range? part = some r ↔ IsPart part r := by
  have hdash : "-".toList = ['-'] := rfl
  cases hcut : Text.cut? "-" part with
  | none =>
    have hfree : '-' ∉ part.toList := (Text.cut?_eq_none_iff hdash).1 hcut
    rw [range?_of_cut (a := part) (b := part) (by rw [hcut]; rfl)]
    constructor
    · rintro ⟨hfirst, hlast, -⟩
      have heq : r = (r.1, r.1) := Prod.ext rfl (hlast.unique hfirst)
      rw [heq]
      exact .one hfree hfirst
    · intro h
      cases h with
      | one _ hn => exact ⟨hn, hn, Nat.le_refl _⟩
      | range _ _ _ _ => simp at hfree
  | some halves =>
    obtain ⟨a, b⟩ := halves
    obtain ⟨rfl, hfree⟩ := (Text.cut?_eq_some_iff hdash).1 hcut
    rw [range?_of_cut (a := a) (b := b) (by rw [hcut]; rfl)]
    constructor
    · rintro ⟨hfirst, hlast, hle⟩
      exact .range hfree hfirst hlast hle
    · generalize hpart : a ++ "-" ++ b = part at hcut
      intro h
      cases h with
      | one hnone _ => simp [← hpart] at hnone
      | range hfree' hfirst hlast hle =>
        -- The first dash of a text is at one place only.
        rw [(Text.cut?_eq_some_iff hdash).2 ⟨rfl, hfree'⟩] at hcut
        obtain ⟨rfl, rfl⟩ : _ = a ∧ _ = b := by simpa using hcut
        exact ⟨hfirst, hlast, hle⟩

theorem mapM_eq_some_iff {α β : Type} {f : α → Option β} {as : List α} {bs : List β} :
    as.mapM f = some bs ↔ List.Forall₂ (fun a b => f a = some b) as bs := by
  induction as generalizing bs with
  | nil => simp [List.forall₂_nil_left_iff, eq_comm]
  | cons a as ih =>
    simp only [List.mapM_cons, Option.bind_eq_bind, Option.bind_eq_some_iff, Option.pure_def,
      Option.some.injEq, List.forall₂_cons_left_iff, ih]
    constructor
    · rintro ⟨b, hb, bs', hbs, rfl⟩
      exact ⟨b, bs', hb, hbs, rfl⟩
    · rintro ⟨b, bs', hb, hbs, rfl⟩
      exact ⟨b, hb, bs', hbs, rfl⟩

theorem ranges?_eq_some_iff {list : String} {ranges : List (Nat × Nat)} :
    ranges? list = some ranges ↔ Lists list ranges := by
  simp only [ranges?, mapM_eq_some_iff, range?_eq_some_iff, Lists]

/-! ### The size of a union -/

/-- The processors in at least one of the ranges. -/
def covered (ranges : List (Nat × Nat)) : Finset Nat :=
  ranges.toFinset.biUnion fun r => Finset.Icc r.1 r.2

theorem mem_covered {ranges : List (Nat × Nat)} {n : Nat} :
    n ∈ covered ranges ↔ ∃ r ∈ ranges, r.1 ≤ n ∧ n ≤ r.2 := by
  simp [covered]

theorem mem_covered_cons {first last : Nat} {ranges : List (Nat × Nat)} {n : Nat} :
    n ∈ covered ((first, last) :: ranges) ↔ (first ≤ n ∧ n ≤ last) ∨ n ∈ covered ranges := by
  simp only [mem_covered, List.exists_mem_cons_iff]

theorem covered_perm {ranges ranges' : List (Nat × Nat)} (h : ranges.Perm ranges') :
    covered ranges = covered ranges' := by
  rw [covered, covered, List.toFinset_eq_of_perm _ _ h]

/-- The sweep counts what the ranges hold from its place on, if they come sorted. -/
theorem sweep_eq_card {ranges : List (Nat × Nat)}
    (hsorted : ranges.Pairwise fun r r' => r.1 ≤ r'.1) (next : Nat) :
    sweep next ranges = ((covered ranges).filter (next ≤ ·)).card := by
  induction ranges generalizing next with
  | nil => simp [sweep, covered]
  | cons r ranges ih =>
    obtain ⟨first, last⟩ := r
    obtain ⟨hfirst, hsorted⟩ := List.pairwise_cons.1 hsorted
    have hlater : ∀ n ∈ covered ranges, first ≤ n := by
      intro n hn
      obtain ⟨r, hr, hle, -⟩ := mem_covered.1 hn
      exact Nat.le_trans (hfirst r hr) hle
    by_cases hpast : last < next
    · rw [sweep, if_pos hpast, ih hsorted]
      congr 1
      ext n
      simp only [Finset.mem_filter, mem_covered_cons]
      constructor
      · rintro ⟨hn, hnext⟩
        exact ⟨Or.inr hn, hnext⟩
      · rintro ⟨hn | hn, hnext⟩
        · omega
        · exact ⟨hn, hnext⟩
    · -- What the range holds from `next` on, and what the later ranges hold above it.
      have hunion : (covered ((first, last) :: ranges)).filter (next ≤ ·) =
          Finset.Icc (max first next) last ∪ (covered ranges).filter (last + 1 ≤ ·) := by
        ext n
        simp only [Finset.mem_filter, Finset.mem_union, Finset.mem_Icc, mem_covered_cons]
        constructor
        · rintro ⟨hn | hn, hnext⟩
          · left
            omega
          · have := hlater n hn
            by_cases hlast : n ≤ last
            · left
              omega
            · exact Or.inr ⟨hn, by omega⟩
        · rintro (hn | ⟨hn, hlast⟩)
          · exact ⟨Or.inl (by omega), by omega⟩
          · exact ⟨Or.inr hn, by omega⟩
      have hdisjoint : Disjoint (Finset.Icc (max first next) last)
          ((covered ranges).filter (last + 1 ≤ ·)) := by
        rw [Finset.disjoint_left]
        intro n hn hn'
        have hle := (Finset.mem_Icc.1 hn).2
        have hlt := (Finset.mem_filter.1 hn').2
        omega
      rw [sweep, if_neg hpast, hunion, Finset.card_union_of_disjoint hdisjoint, Nat.card_Icc,
        ih hsorted]

theorem earlier_iff {r r' : Nat × Nat} :
    earlier r r' = true ↔ r.1 < r'.1 ∨ (r.1 = r'.1 ∧ r.2 ≤ r'.2) := by
  simp [earlier]

theorem sorted_mergeSort (ranges : List (Nat × Nat)) :
    (ranges.mergeSort earlier).Pairwise fun r r' => r.1 ≤ r'.1 := by
  have hpairwise : (ranges.mergeSort earlier).Pairwise fun r r' => earlier r r' = true := by
    apply List.pairwise_mergeSort
    · intro a b c hab hbc
      rw [earlier_iff] at hab hbc ⊢
      omega
    · intro a b
      rw [Bool.or_eq_true, earlier_iff, earlier_iff]
      omega
  refine hpairwise.imp fun {r r'} h => ?_
  rw [earlier_iff] at h
  omega

/-- Sorting makes the sweep count the whole union. -/
theorem sweep_mergeSort (ranges : List (Nat × Nat)) :
    sweep 0 (ranges.mergeSort earlier) = (covered ranges).card := by
  rw [sweep_eq_card (sorted_mergeSort ranges), covered_perm (List.mergeSort_perm ranges earlier)]
  simp

/-! ### The count in machine words -/

/-- A sum, if it is at most `bound`. -/
def sum? (bound a b : Nat) : Option Nat := if a + b ≤ bound then some (a + b) else none

/-- A difference, if it is not below zero. -/
def difference? (a b : Nat) : Option Nat := if b ≤ a then some (a - b) else none

theorem sum?_eq {bound a b : Nat} (h : a + b ≤ bound) : sum? bound a b = some (a + b) := if_pos h

theorem difference?_eq {a b : Nat} (h : b ≤ a) : difference? a b = some (a - b) := if_pos h

/-- The least processor of a range that is not counted yet, behind the greatest counted one. -/
def fresh? (top : Option Nat) (first : Nat) : Option Nat :=
  match top with
  | some top => if first ≤ top then sum? Numeral.max32 top 1 else some first
  | none => some first

/-- The sweep in machine words: `top` is the greatest processor counted yet and `count` how many
    there are. Processors have 32 bits and the count has 64; nothing is the answer where a sum or
    a difference leaves its word. -/
def tally (top : Option Nat) (count : Nat) : List (Nat × Nat) → Option Nat
  | [] => some count
  | (first, last) :: ranges =>
    if top.any (last ≤ ·) then tally top count ranges
    else do
      let start ← fresh? top first
      let width ← difference? last start
      let width ← sum? Numeral.max64 width 1
      let count ← sum? Numeral.max64 count width
      tally (some last) count ranges

/-- The place that the sweep has come to behind the greatest counted processor. -/
def place (top : Option Nat) : Nat := top.elim 0 (· + 1)

@[simp] theorem place_some (top : Nat) : place (some top) = top + 1 := rfl

theorem fresh?_eq {top : Option Nat} {first last : Nat} (hlast : last ≤ Numeral.max32)
    (hplace : place top ≤ last) : fresh? top first = some (max first (place top)) := by
  cases top with
  | none => simp [fresh?, place]
  | some top =>
    rw [place_some] at hplace ⊢
    by_cases hle : first ≤ top
    · rw [fresh?, if_pos hle, sum?_eq (by omega), Nat.max_eq_right (by omega)]
    · rw [fresh?, if_neg hle, Nat.max_eq_left (by omega)]

/-- No step of the count leaves its word, as fewer processors are counted than lie below the place
    that the sweep has come to. -/
theorem tally_eq {ranges : List (Nat × Nat)}
    (hranges : ∀ r ∈ ranges, r.1 ≤ r.2 ∧ r.2 ≤ Numeral.max32) {top : Option Nat} {count : Nat}
    (hcount : count ≤ place top) :
    tally top count ranges = some (count + sweep (place top) ranges) := by
  induction ranges generalizing top count with
  | nil => rfl
  | cons r ranges ih =>
    obtain ⟨first, last⟩ := r
    obtain ⟨⟨hle, hlast⟩, hranges⟩ := List.forall_mem_cons.1 hranges
    have hpast : top.any (last ≤ ·) = true ↔ last < place top := by
      cases top with
      | none => simp [place]
      | some top =>
        rw [Option.any_some, decide_eq_true_eq, place_some]
        omega
    by_cases h : last < place top
    · rw [tally, if_pos (hpast.2 h), sweep, if_pos h]
      exact ih hranges hcount
    · rw [tally, if_neg (mt hpast.1 h), sweep, if_neg h]
      simp only [Numeral.max32, Numeral.max64] at hlast ⊢
      rw [fresh?_eq hlast (by omega)]
      simp only [Option.bind_eq_bind, Option.bind_some]
      rw [difference?_eq (by omega), Option.bind_some, sum?_eq (by omega), Option.bind_some,
        sum?_eq (by omega), Option.bind_some, ih hranges]
      · rw [place_some]
        congr 1
        omega
      · rw [place_some]
        omega

theorem IsNumber.le {s : String} {n : Nat} (h : IsNumber s n) : n ≤ Numeral.max32 := by
  obtain ⟨w, -, -, hle⟩ := h
  exact hle

theorem IsPart.bounds {part : String} {r : Nat × Nat} (h : IsPart part r) :
    r.1 ≤ r.2 ∧ r.2 ≤ Numeral.max32 := by
  cases h with
  | one hdash hn => exact ⟨Nat.le_refl _, hn.le⟩
  | range hdash hfirst hlast hle => exact ⟨hle, hlast.le⟩

theorem Lists.bounds {list : String} {ranges : List (Nat × Nat)} (h : Lists list ranges) :
    ∀ r ∈ ranges, r.1 ≤ r.2 ∧ r.2 ≤ Numeral.max32 := by
  rw [Lists] at h
  generalize Text.split (· == ',') (Text.trim list) = parts at h
  induction h with
  | nil => nofun
  | cons hpart _ ih => exact List.forall_mem_cons.2 ⟨hpart.bounds, ih⟩

/-- The tally of a list is the size of the union: no step of it leaves its word. -/
theorem Lists.tally_eq_card {list : String} {ranges : List (Nat × Nat)} (h : Lists list ranges) :
    tally none 0 (ranges.mergeSort earlier) = some (covered ranges).card := by
  have hbounds : ∀ r ∈ ranges.mergeSort earlier, r.1 ≤ r.2 ∧ r.2 ≤ Numeral.max32 := by
    intro r hr
    exact h.bounds r ((List.mergeSort_perm ranges earlier).mem_iff.1 hr)
  rw [tally_eq hbounds (Nat.zero_le _), Nat.zero_add, ← sweep_mergeSort]
  rfl

/-- A list names at least one processor. -/
theorem count?_pos {list : String} {n : Nat} (h : count? list = some n) : 0 < n := by
  obtain ⟨ranges, hranges, rfl⟩ := Option.map_eq_some_iff.1 h
  have hlists := ranges?_eq_some_iff.1 hranges
  have hne : ranges ≠ [] := by
    rintro rfl
    exact Text.split_ne_nil _ _ (List.forall₂_nil_right_iff.1 hlists)
  obtain ⟨r, hr⟩ := List.exists_mem_of_ne_nil ranges hne
  have hmem : r.1 ∈ covered ranges := mem_covered.2 ⟨r, hr, Nat.le_refl _, (hlists.bounds r hr).1⟩
  rw [size, sweep_mergeSort]
  exact Nat.lt_min.2 ⟨Finset.card_pos.2 ⟨r.1, hmem⟩, by decide⟩

/-- What a text counts. It is a list exactly if each of its parts between commas is a number or two
    numbers in order around a dash; then it counts the processors that are in at least one of the
    ranges, cut off at the greatest count of 32 bits, and no step of the count leaves its word. -/
theorem count?_covered (list : String) :
    (∀ count, count? list = some count ↔ ∃ ranges, Lists list ranges ∧
      tally none 0 (ranges.mergeSort earlier) = some (covered ranges).card ∧
      count = min (covered ranges).card Numeral.max32) ∧
    (count? list = none ↔ ¬ ∃ ranges, Lists list ranges) := by
  constructor
  · intro count
    rw [count?, Option.map_eq_some_iff]
    simp only [ranges?_eq_some_iff, size, sweep_mergeSort]
    constructor
    · rintro ⟨ranges, hlists, rfl⟩
      exact ⟨ranges, hlists, hlists.tally_eq_card, rfl⟩
    · rintro ⟨ranges, hlists, -, rfl⟩
      exact ⟨ranges, hlists, rfl⟩
  · rw [count?, Option.map_eq_none_iff, Option.eq_none_iff_forall_ne_some, not_exists]
    simp only [ne_eq, ranges?_eq_some_iff]

/-- Nested, touching and repeated ranges are counted once. -/
example : count? " 4-7, 0-5 ,2-3,+8,8" = some 9 := by cbv

end CgroupLimits.CpuList
