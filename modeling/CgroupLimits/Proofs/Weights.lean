import CgroupLimits.Proofs.ProcessorCount
import Mathlib.Data.Rat.Floor

/-! Weights, the shares they stand for and the processors that these leave to a process.

    Two roundings lie between a weight and its shares, and a third between shares and processors.
    Each of them keeps order. The scale rounds down; snapping to whole processors is rounding down
    as well, from half a processor further up (`snapped_of_lt`), and starts where it cannot fall
    below what stays exact. So a greater weight never leaves fewer processors (`monotoneOn_active`).
    `Stands` says what the shares of a weight are without any of the steps, and `ofWeightInWords?`
    takes the steps in words of 64 bits, to show that none leaves its word. -/

namespace CgroupLimits.Shares

open Processors

/-- Whether a weight stands for shares: it is in range and not the default. -/
def Weighs (weight : Nat) : Prop := 1 ≤ weight ∧ weight ≤ 10000 ∧ weight ≠ 100

instance (weight : Nat) : Decidable (Weighs weight) := inferInstanceAs (Decidable (_ ∧ _))

/-- Where a weight comes to lie on the scale of shares. -/
def onScale (weight : Nat) : Int := ⌊((262142 * weight - 1 : ℚ) / 9999)⌋ + 2

/-- The shares that a weight stands for: unknown where it stands for none, its place on the scale up
    to one processor, and above it a whole number of processors that is at most half a one away,
    the lower one in a tie. -/
inductive Stands (weight : Nat) : Int → Prop
  | unset (h : ¬ Weighs weight) : Stands weight (-1)
  | exact (h : Weighs weight) (hone : onScale weight ≤ 1024) : Stands weight (onScale weight)
  | whole {processors : Nat} (h : Weighs weight) (hone : 1024 < onScale weight)
      (hpos : 1 ≤ processors)
      (hnear : 1024 * (processors : Int) ∈ Set.Ico (onScale weight - 512) (onScale weight + 512)) :
      Stands weight (1024 * processors)

/-! ### The two roundings -/

theorem monotone_scaled : Monotone scaled := fun _ _ hle =>
  Nat.add_le_add_right
    (Nat.div_le_div_right (Nat.sub_le_sub_right (Nat.mul_le_mul_left _ hle) _)) _

theorem onScale_eq {weight : Nat} (h : Weighs weight) : onScale weight = scaled weight := by
  have hpos : 1 ≤ 262142 * weight := Nat.mul_pos (by decide) h.1
  have hcast : (262142 * weight - 1 : ℚ) / 9999 =
      ((262142 * weight - 1 : Nat) : ℚ) / (9999 : Nat) := by
    push_cast [Nat.cast_sub hpos]
    rfl
  rw [onScale, hcast, Rat.floor_natCast_div_natCast, scaled]
  push_cast
  rfl

theorem snapped_of_le {shares : Nat} (h : shares ≤ perProcessor) : snapped shares = shares :=
  if_pos h

/-- Moving to the nearest multiple is rounding down from half of one further up. One less than half
    of it is what sends a tie to the lower multiple. -/
theorem snapped_of_lt {shares : Nat} (h : perProcessor < shares) :
    snapped shares = 1024 * ((shares + 511) / 1024) := by
  rw [snapped, if_neg (Nat.not_le.2 h)]
  dsimp only [perProcessor]
  split <;> omega

theorem monotone_snapped : Monotone snapped := by
  intro shares shares' hle
  by_cases hone' : shares' ≤ perProcessor
  · rwa [snapped_of_le hone', snapped_of_le (Nat.le_trans hle hone')]
  · have hlt' := Nat.not_le.1 hone'
    rw [snapped_of_lt hlt']
    by_cases hone : shares ≤ perProcessor
    · -- Where snapping starts, it gives one processor, which is as much as stays exact.
      rw [snapped_of_le hone]
      rw [perProcessor] at hone hlt'
      omega
    · rw [snapped_of_lt (Nat.not_le.1 hone)]
      exact Nat.mul_le_mul_left _ (Nat.div_le_div_right (Nat.add_le_add_right hle _))

/-! ### The shares of a weight -/

section Weight

variable {weight : Nat}

theorem weighs_iff :
    Weighs weight ↔ weight ≠ defaultWeight ∧ ¬ (weight = 0 ∨ greatestWeight < weight) := by
  simp only [Weighs, defaultWeight, greatestWeight]
  omega

theorem value_ofWeight_of_not (h : ¬ Weighs weight) : (ofWeight weight).value = -1 := by
  unfold ofWeight
  by_cases hdefault : weight = defaultWeight
  · rw [if_pos hdefault]
    rfl
  · rw [if_neg hdefault, if_pos (not_not.1 fun hrange => h (weighs_iff.2 ⟨hdefault, hrange⟩))]
    rfl

theorem value_ofWeight (h : Weighs weight) :
    (ofWeight weight).value = snapped (scaled weight) := by
  obtain ⟨hdefault, hrange⟩ := weighs_iff.1 h
  unfold ofWeight
  rw [if_neg hdefault, if_neg hrange]
  rfl

theorem stands_ofWeight (weight : Nat) : Stands weight (ofWeight weight).value := by
  by_cases h : Weighs weight
  · have hscale := onScale_eq h
    rw [value_ofWeight h]
    by_cases hone : scaled weight ≤ perProcessor
    · rw [snapped_of_le hone, ← hscale]
      exact .exact h (hscale ▸ Int.ofNat_le.2 hone)
    · have hlt := Nat.not_le.1 hone
      rw [snapped_of_lt hlt, Nat.cast_mul]
      rw [perProcessor] at hlt
      refine .whole h ?_ ?_ ?_
      · omega
      · omega
      · rw [hscale, Set.mem_Ico]
        omega
  · rw [value_ofWeight_of_not h]
    exact .unset h

theorem Stands.unique {shares shares' : Int} (h : Stands weight shares)
    (h' : Stands weight shares') : shares = shares' := by
  cases h with
  | unset hnot =>
    cases h' with
    | unset => rfl
    | exact hweighs => exact absurd hweighs hnot
    | whole hweighs => exact absurd hweighs hnot
  | exact hweighs hone =>
    cases h' with
    | unset hnot => exact absurd hweighs hnot
    | exact => rfl
    | whole _ hlt => exact absurd hone (Int.not_le.2 hlt)
  | whole hweighs hlt _ hnear =>
    cases h' with
    | unset hnot => exact absurd hweighs hnot
    | exact _ hone => exact absurd hone (Int.not_le.2 hlt)
    | whole _ _ _ hnear' =>
      -- The interval is as long as one processor and without its upper end.
      rw [Set.mem_Ico] at hnear hnear'
      omega

theorem value_ofWeight_eq_iff {shares : Int} :
    (ofWeight weight).value = shares ↔ Stands weight shares :=
  ⟨fun h => h ▸ stands_ofWeight weight, (stands_ofWeight weight).unique⟩

theorem value_ofWeight_mem (h : Weighs weight) :
    (ofWeight weight).value ∈ Set.Icc (2 : Int) 262144 := by
  have hleast : snapped (scaled 1) ≤ snapped (scaled weight) :=
    monotone_snapped (monotone_scaled h.1)
  have hgreatest : snapped (scaled weight) ≤ snapped (scaled 10000) :=
    monotone_snapped (monotone_scaled h.2.1)
  have hends : 2 ≤ snapped (scaled 1) ∧ snapped (scaled 10000) = 262144 := by decide
  rw [value_ofWeight h, Set.mem_Icc]
  omega

theorem value_ofWeight_cases (weight : Nat) :
    (ofWeight weight).value = -1 ∨ (ofWeight weight).value ∈ Set.Icc (2 : Int) 262144 := by
  by_cases h : Weighs weight
  · exact Or.inr (value_ofWeight_mem h)
  · exact Or.inl (value_ofWeight_of_not h)

end Weight

theorem monotoneOn_ofWeight :
    MonotoneOn (fun weight => (ofWeight weight).value) {weight | Weighs weight} := by
  intro weight h weight' h' hle
  dsimp only
  rw [value_ofWeight h, value_ofWeight h', Int.ofNat_le]
  exact monotone_snapped (monotone_scaled hle)

/-! ### The processors of a weight -/

theorem monotoneOn_active (quota period : Int) (host : Nat) :
    MonotoneOn (fun weight => (active quota period (ofWeight weight).value host).value)
      {weight | Weighs weight} := by
  intro weight h weight' h' hle
  have hpos {weight : Nat} (h : Weighs weight) : (ofWeight weight).value ∈ Set.Ioi (0 : Int) :=
    Int.lt_of_lt_of_le (by decide) (value_ofWeight_mem h).1
  exact monotoneOn_shares quota period host (hpos h) (hpos h') (monotoneOn_ofWeight h h' hle)

theorem value_active_of_not {weight : Nat} (h : ¬ Weighs weight) {quota period : Int}
    (hquota : ¬ (0 < quota ∧ 0 < period)) (host : Nat) :
    (active quota period (ofWeight weight).value host).value = max 1 host := by
  rw [value_ofWeight_of_not h]
  exact value_active_of_none (limit?_of_neither hquota (by decide)) host

/-! ### The steps in machine words -/

/-- A weight on the scale of shares, in words. -/
def scaledInWords? (weight : Nat) : Option Int := do
  let product ← word? (262142 * Metric.ofAmount weight)
  let below ← word? (product - 1)
  let quotient ← quotient? below 9999
  word? (quotient + 2)

/-- Shares moved to the nearest whole number of processors, in words. -/
def snappedInWords? (shares : Int) : Option Int :=
  if shares ≤ perProcessor then some shares
  else do
    let quotient ← quotient? shares perProcessor
    let lower ← word? (quotient * perProcessor)
    let upper ← word? (lower + perProcessor)
    let down ← word? (shares - lower)
    let up ← word? (upper - shares)
    return if down ≤ up then lower else upper

/-- The shares that a weight stands for, in words: nothing is the answer where a step has none. -/
def ofWeightInWords? (weight : Nat) : Option Int :=
  if weight = defaultWeight then some Metric.unknown
  else if weight = 0 ∨ greatestWeight < weight then some Metric.unknown
  else do snappedInWords? (← scaledInWords? weight)

/-- No step of scaling leaves its word: the product is the greatest number on the way. -/
theorem scaledInWords?_eq {weight : Nat} (h : Weighs weight) :
    scaledInWords? weight = some (scaled weight : Int) := by
  obtain ⟨hpos, hle, -⟩ := h
  have hgreatest : Metric.greatest = 9223372036854775807 := rfl
  have hmetric : Metric.ofAmount weight = weight :=
    Metric.ofAmount_eq (by rw [Numeral.max63]; omega)
  have hscaled : (262142 * weight - 1 : Int) / 9999 + 2 = scaled weight := by
    rw [scaled]
    omega
  rw [scaledInWords?, hmetric]
  simp (disch := omega) only [Option.bind_eq_bind, Option.bind_some, word?_eq, quotient?_eq]
  rw [hscaled]

/-- No step of snapping leaves its word: the multiple above is the greatest number on the way. -/
theorem snappedInWords?_eq {shares : Nat} (hle : shares ≤ 262170) :
    snappedInWords? shares = some (snapped shares : Int) := by
  have hgreatest : Metric.greatest = 9223372036854775807 := rfl
  have hunit : (perProcessor : Int) = 1024 := rfl
  rw [snappedInWords?]
  by_cases hone : shares ≤ perProcessor
  · rw [if_pos (Int.ofNat_le.2 hone), snapped_of_le hone]
  · rw [if_neg (mt Int.ofNat_le.1 hone), snapped, if_neg hone, hunit]
    dsimp only [perProcessor]
    obtain ⟨lower, hlower⟩ : ∃ lower, lower = shares / 1024 * 1024 := ⟨_, rfl⟩
    have hcast : (shares : Int) / 1024 * 1024 = lower := by omega
    have hquotient : quotient? (shares : Int) 1024 = some (shares / 1024 : Int) :=
      quotient?_eq (by omega) (by omega) (by decide)
    have hdown : word? (shares - lower : Int) = some (shares - lower : Int) :=
      word?_eq (by omega) (by omega)
    have hup : word? (lower + 1024 - shares : Int) = some (lower + 1024 - shares : Int) :=
      word?_eq (by omega) (by omega)
    have hupper : word? (lower + 1024 : Int) = some (lower + 1024 : Int) :=
      word?_eq (by omega) (by omega)
    have hword : word? (lower : Int) = some (lower : Int) := word?_eq (by omega) (by omega)
    rw [← hlower, hquotient]
    simp only [Option.bind_eq_bind, Option.bind_some, hcast]
    rw [hword, Option.bind_some, hupper, Option.bind_some, hdown, Option.bind_some, hup,
      Option.bind_some]
    refine congrArg some ?_
    split <;> split <;> omega

/-- No step from a weight to its shares leaves its word. -/
theorem ofWeightInWords?_eq (weight : Nat) :
    ofWeightInWords? weight = some (ofWeight weight).value := by
  rw [ofWeightInWords?]
  by_cases hdefault : weight = defaultWeight
  · rw [if_pos hdefault, value_ofWeight_of_not fun h => (weighs_iff.1 h).1 hdefault]
    rfl
  · rw [if_neg hdefault]
    by_cases hrange : weight = 0 ∨ greatestWeight < weight
    · rw [if_pos hrange, value_ofWeight_of_not fun h => (weighs_iff.1 h).2 hrange]
      rfl
    · have h : Weighs weight := weighs_iff.2 ⟨hdefault, hrange⟩
      have hle : scaled weight ≤ 262170 :=
        Nat.le_trans (monotone_scaled h.2.1) (by decide)
      rw [if_neg hrange, scaledInWords?_eq h, value_ofWeight h, Option.bind_eq_bind,
        Option.bind_some, snappedInWords?_eq hle]

/-- No step from a weight to the count leaves its word, whatever words the others are. -/
theorem activeInWords?_ofWeight (weight : Nat) (quota period : Int64) (host : UInt32) :
    ((ofWeightInWords? weight).bind fun shares =>
        activeInWords? quota.toInt period.toInt shares host.toNat) =
      some (active quota.toInt period.toInt (ofWeight weight).value host.toNat).value := by
  have hword : (Int64.ofInt (ofWeight weight).value).toInt = (ofWeight weight).value := by
    have hcases := value_ofWeight_cases weight
    rw [Set.mem_Icc] at hcases
    exact Int64.toInt_ofInt_of_le (by omega) (by omega)
  have hcount := activeInWords?_eq quota period (Int64.ofInt (ofWeight weight).value) host
  rw [hword] at hcount
  rw [ofWeightInWords?_eq, Option.bind_some, hcount]

/-- A greater weight never leaves fewer processors to a process. What a weight stands for is settled
    by its place on the scale, and lies between the ends of it; among the weights that stand for
    shares, the shares grow with the weight, and so does the count, whatever quota, period and host
    it is taken with. A weight that stands for none leaves all of the host's processors where no
    quota is set. From words of 64 and 32 bits no step to the shares or to the count leaves its
    word. -/
theorem weights_keep_order :
    (∀ (weight : Nat) (shares : Int), (ofWeight weight).value = shares ↔ Stands weight shares) ∧
    (∀ weight, Weighs weight → (ofWeight weight).value ∈ Set.Icc (2 : Int) 262144) ∧
    MonotoneOn (fun weight => (ofWeight weight).value) {weight | Weighs weight} ∧
    (∀ (quota period : Int) (host : Nat),
      MonotoneOn (fun weight => (active quota period (ofWeight weight).value host).value)
        {weight | Weighs weight}) ∧
    (∀ weight, ¬ Weighs weight → ∀ quota period : Int, ¬ (0 < quota ∧ 0 < period) → ∀ host,
      (active quota period (ofWeight weight).value host).value = max 1 host) ∧
    (∀ weight : UInt64, ofWeightInWords? weight.toNat = some (ofWeight weight.toNat).value) ∧
    (∀ (weight : UInt64) (quota period : Int64) (host : UInt32),
      ((ofWeightInWords? weight.toNat).bind fun shares =>
          activeInWords? quota.toInt period.toInt shares host.toNat) =
        some (active quota.toInt period.toInt (ofWeight weight.toNat).value host.toNat).value) :=
  ⟨fun _ _ => value_ofWeight_eq_iff, fun _ h => value_ofWeight_mem h, monotoneOn_ofWeight,
    monotoneOn_active, fun _ h _ _ hquota host => value_active_of_not h hquota host,
    fun weight => ofWeightInWords?_eq weight.toNat,
    fun weight => activeInWords?_ofWeight weight.toNat⟩

/-- A weight half way between nine and ten processors goes to nine and the next one to ten; the
    default leaves all of the host's. -/
theorem weights_keep_order_tie :
    Weighs 371 ∧ Weighs 372 ∧ ¬ Weighs 100 ∧ ¬ (0 < (-1 : Int) ∧ 0 < (100000 : Int)) ∧
    scaled 371 = 9 * 1024 + 512 ∧ (ofWeight 371).value = 9 * 1024 ∧
    (ofWeight 372).value ∈ Set.Icc (2 : Int) 262144 ∧
    (ofWeight 371).value ≤ (ofWeight 372).value ∧
    (active (-1) 100000 (ofWeight 371).value 64).value ≤
      (active (-1) 100000 (ofWeight 372).value 64).value ∧
    (active (-1) 100000 (ofWeight 372).value 64).value = 10 ∧
    (active (-1) 100000 (ofWeight 100).value 64).value = 64 := by
  obtain ⟨-, hmem, hshares, hactive, hdefault, -⟩ := weights_keep_order
  have h : Weighs 371 := by decide
  have h' : Weighs 372 := by decide
  have hnot : ¬ Weighs 100 := by decide
  have hquota : ¬ (0 < (-1 : Int) ∧ 0 < (100000 : Int)) := by decide
  have hle : 371 ≤ 372 := by decide
  exact ⟨h, h', hnot, hquota, by decide, by decide, hmem 372 h', hshares h h' hle,
    hactive (-1) 100000 64 h h' hle, by decide, hdefault 100 hnot (-1) 100000 hquota 64⟩

end CgroupLimits.Shares
