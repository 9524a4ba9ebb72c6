import CgroupLimits.Processors
import Mathlib.Data.Int.ConditionallyCompleteOrder
import Mathlib.Order.ConditionallyCompleteLattice.Basic

/-! How many processors the settings of a cgroup leave to a process.

    Rounding up is the least solution of an inequality: `roundUp a b` is at most `n` exactly if `a`
    is at most `n` times `b` (`roundUp_le_iff`). That it covers `a`, that no smaller number does and
    that it grows with `a` and shrinks with `b` are all read off this one equivalence. `Allows` says
    what the count is in terms of least numbers, and `activeInWords?` counts in words of 64 and 32
    bits, to show that no step leaves its word. -/

namespace CgroupLimits.Processors

/-! ### Rounding up -/

theorem roundUp_le_iff {a b n : Int} (hb : 0 < b) : roundUp a b ≤ n ↔ a ≤ n * b := by
  have hsplit := Int.mul_ediv_add_emod a b
  have hnonneg := Int.emod_nonneg a (Int.ne_of_gt hb)
  have hlt := Int.emod_lt_of_pos a hb
  rw [roundUp]
  by_cases hexact : a % b = 0
  · rw [if_pos hexact, Int.add_zero, Int.mul_comm n b]
    rw [hexact, Int.add_zero] at hsplit
    constructor
    · intro h
      calc a = b * (a / b) := hsplit.symm
        _ ≤ b * n := Int.mul_le_mul_of_nonneg_left h (Int.le_of_lt hb)
    · intro h
      exact Int.le_of_mul_le_mul_left (hsplit.symm ▸ h) hb
  · rw [if_neg hexact, Int.mul_comm n b, Int.add_one_le_iff]
    constructor
    · intro h
      calc a ≤ b * (a / b + 1) := by rw [Int.mul_add]; omega
        _ ≤ b * n := Int.mul_le_mul_of_nonneg_left h (Int.le_of_lt hb)
    · intro h
      refine Int.lt_of_mul_lt_mul_left (a := b) ?_ (Int.le_of_lt hb)
      omega

theorem le_roundUp_mul (a : Int) {b : Int} (hb : 0 < b) : a ≤ roundUp a b * b :=
  (roundUp_le_iff hb).1 (Int.le_refl _)

theorem one_le_roundUp {a b : Int} (ha : 0 < a) (hb : 0 < b) : 1 ≤ roundUp a b := by
  rw [← Int.not_lt]
  intro hlt
  have hle := (roundUp_le_iff hb).1 (show roundUp a b ≤ 0 by omega)
  rw [Int.zero_mul] at hle
  omega

/-- The quotient rounded up is the least number of parts of size `b`, at least one, that cover
    `a`. -/
theorem isLeast_roundUp {a b : Int} (ha : 0 < a) (hb : 0 < b) :
    IsLeast {n : Nat | 1 ≤ n ∧ a ≤ n * b} (roundUp a b).toNat := by
  have hone := one_le_roundUp ha hb
  refine ⟨⟨by omega, ?_⟩, fun n hn => ?_⟩
  · rw [Int.toNat_of_nonneg (by omega)]
    exact le_roundUp_mul a hb
  · have hle := (roundUp_le_iff hb).2 hn.2
    omega

theorem roundUp_le_roundUp {a a' b b' : Int} (ha : a ≤ a') (hb' : 0 < b') (hb : b' ≤ b)
    (hpos : 0 < a') : roundUp a b ≤ roundUp a' b' := by
  have hone := one_le_roundUp hpos hb'
  rw [roundUp_le_iff (Int.lt_of_lt_of_le hb' hb)]
  calc a ≤ a' := ha
    _ ≤ roundUp a' b' * b' := le_roundUp_mul a' hb'
    _ ≤ roundUp a' b' * b := Int.mul_le_mul_of_nonneg_left hb (by omega)

/-! ### The count that the settings amount to -/

/-- What the settings leave to a process on a host with `host` processors: as many as cover the
    quota with one period each, else as many as cover the shares with 1024 each, but no more than
    there are, and all there are where neither is set. A host has at least one. -/
inductive Allows (quota period shares : Int) (host : Nat) : Nat → Prop
  | byQuota {n : Nat} (hquota : 0 < quota) (hperiod : 0 < period)
      (hleast : IsLeast {n : Nat | 1 ≤ n ∧ quota ≤ n * period} n) :
      Allows quota period shares host (min (max 1 host) n)
  | byShares {n : Nat} (hquota : ¬ (0 < quota ∧ 0 < period)) (hshares : 0 < shares)
      (hleast : IsLeast {n : Nat | 1 ≤ n ∧ shares ≤ n * 1024} n) :
      Allows quota period shares host (min (max 1 host) n)
  | byHost (hquota : ¬ (0 < quota ∧ 0 < period)) (hshares : ¬ 0 < shares) :
      Allows quota period shares host (max 1 host)

section Settings

variable {quota period shares : Int}

theorem limit?_of_quota (hquota : 0 < quota) (hperiod : 0 < period) :
    limit? quota period shares = some (roundUp quota period) :=
  if_pos ⟨hquota, hperiod⟩

theorem limit?_of_shares (hquota : ¬ (0 < quota ∧ 0 < period)) (hshares : 0 < shares) :
    limit? quota period shares = some (roundUp shares 1024) := by
  rw [limit?, if_neg hquota, if_pos hshares]
  rfl

theorem limit?_of_neither (hquota : ¬ (0 < quota ∧ 0 < period)) (hshares : ¬ 0 < shares) :
    limit? quota period shares = none := by
  rw [limit?, if_neg hquota, if_neg hshares]

theorem value_active_of_limit {limit : Int} (h : limit? quota period shares = some limit)
    (host : Nat) :
    (active quota period shares host).value = (max 1 (min limit (max 1 host : Nat))).toNat := by
  rw [active, h]
  rfl

theorem value_active_of_none (h : limit? quota period shares = none) (host : Nat) :
    (active quota period shares host).value = max 1 host := by
  rw [active, h]
  rfl

/-- The count is what the settings allow, and they allow only one. -/
theorem value_active_eq_iff {host count : Nat} :
    (active quota period shares host).value = count ↔ Allows quota period shares host count := by
  have hclamp {limit : Int} (hlimit : 1 ≤ limit) :
      (max 1 (min limit (max 1 host : Nat))).toNat = min (max 1 host) limit.toNat := by omega
  constructor
  · rintro rfl
    by_cases hquota : 0 < quota ∧ 0 < period
    · obtain ⟨hquota, hperiod⟩ := hquota
      rw [value_active_of_limit (limit?_of_quota hquota hperiod),
        hclamp (one_le_roundUp hquota hperiod)]
      exact .byQuota hquota hperiod (isLeast_roundUp hquota hperiod)
    · by_cases hshares : 0 < shares
      · rw [value_active_of_limit (limit?_of_shares hquota hshares),
          hclamp (one_le_roundUp hshares (by decide))]
        exact .byShares hquota hshares (isLeast_roundUp hshares (by decide))
      · rw [value_active_of_none (limit?_of_neither hquota hshares)]
        exact .byHost hquota hshares
  · intro h
    cases h with
    | byQuota hquota hperiod hleast =>
      rw [value_active_of_limit (limit?_of_quota hquota hperiod),
        hclamp (one_le_roundUp hquota hperiod), (isLeast_roundUp hquota hperiod).unique hleast]
    | byShares hquota hshares hleast =>
      rw [value_active_of_limit (limit?_of_shares hquota hshares),
        hclamp (one_le_roundUp hshares (by decide)),
        (isLeast_roundUp hshares (by decide)).unique hleast]
    | byHost hquota hshares =>
      rw [value_active_of_none (limit?_of_neither hquota hshares)]

end Settings

/-! ### The count grows and shrinks with the settings -/

/-- A limit that is no lower leaves no fewer processors on a host that has no fewer. -/
theorem value_active_le {quota period shares quota' period' shares' limit limit' : Int}
    {host host' : Nat} (h : limit? quota period shares = some limit)
    (h' : limit? quota' period' shares' = some limit') (hle : limit ≤ limit')
    (hhost : host ≤ host') :
    (active quota period shares host).value ≤ (active quota' period' shares' host').value := by
  rw [value_active_of_limit h, value_active_of_limit h']
  omega

theorem monotoneOn_quota (period shares : Int) (host : Nat) :
    MonotoneOn (fun quota => (active quota period shares host).value) (Set.Ioi 0) := by
  intro quota hquota quota' hquota' hle
  by_cases hperiod : 0 < period
  · exact value_active_le (limit?_of_quota hquota hperiod) (limit?_of_quota hquota' hperiod)
      (roundUp_le_roundUp hle hperiod (Int.le_refl _) hquota') (Nat.le_refl _)
  · simp only [active, limit?, hperiod, and_false, if_false]
    exact Nat.le_refl _

theorem antitoneOn_period (quota shares : Int) (host : Nat) :
    AntitoneOn (fun period => (active quota period shares host).value) (Set.Ioi 0) := by
  intro period hperiod period' hperiod' hle
  by_cases hquota : 0 < quota
  · exact value_active_le (limit?_of_quota hquota hperiod') (limit?_of_quota hquota hperiod)
      (roundUp_le_roundUp (Int.le_refl _) hperiod hle hquota) (Nat.le_refl _)
  · simp only [active, limit?, hquota, false_and, if_false]
    exact Nat.le_refl _

theorem monotoneOn_shares (quota period : Int) (host : Nat) :
    MonotoneOn (fun shares => (active quota period shares host).value) (Set.Ioi 0) := by
  intro shares hshares shares' hshares' hle
  by_cases hquota : 0 < quota ∧ 0 < period
  · simp only [active, limit?, if_pos hquota]
    exact Nat.le_refl _
  · exact value_active_le (limit?_of_shares hquota hshares) (limit?_of_shares hquota hshares')
      (roundUp_le_roundUp hle (by decide) (Int.le_refl _) hshares') (Nat.le_refl _)

theorem monotone_host (quota period shares : Int) :
    Monotone fun host => (active quota period shares host).value := by
  intro host host' hle
  dsimp only
  cases h : limit? quota period shares with
  | none =>
    rw [value_active_of_none h, value_active_of_none h]
    omega
  | some limit => exact value_active_le h h (Int.le_refl _) hle

/-! ### The count in machine words -/

/-- A number, if it is one of 64 bits with a sign. -/
def word? (n : Int) : Option Int :=
  if Metric.least ≤ n ∧ n ≤ Metric.greatest then some n else none

/-- A quotient rounded towards zero, if there is one and it is a word. -/
def quotient? (a b : Int) : Option Int := if b = 0 then none else word? (a.tdiv b)

/-- The remainder of that quotient, which is refused where the quotient is. -/
def remainder? (a b : Int) : Option Int := (quotient? a b).map fun _ => a.tmod b

/-- A quotient of words rounded up. -/
def roundUpInWords? (a b : Int) : Option Int := do
  let quotient ← quotient? a b
  let remainder ← remainder? a b
  word? (quotient + if remainder = 0 then 0 else 1)

/-- A number moved into the range from `low` to `high`, if there is such a range. -/
def clamp? (low high n : Int) : Option Int :=
  if low ≤ high then some (max low (min n high)) else none

/-- A number, if it is a count of 32 bits. -/
def count? (n : Int) : Option Nat :=
  if 0 ≤ n ∧ n ≤ Numeral.max32 then some n.toNat else none

/-- The limit in words: nothing is the answer where a step has none. -/
def limitInWords? (quota period shares : Int) : Option (Option Int) :=
  if 0 < quota ∧ 0 < period then (roundUpInWords? quota period).map some
  else if 0 < shares then (roundUpInWords? shares Shares.perProcessor).map some
  else some none

/-- The count in words of 64 bits and 32 bits: nothing is the answer where a step has none. What is
    no count of 32 bits counts as the whole host. -/
def activeInWords? (quota period shares : Int) (host : Nat) : Option Nat := do
  let host := max 1 host
  match ← limitInWords? quota period shares with
  | none => some host
  | some limit => return (count? (← clamp? 1 host limit)).getD host

theorem word?_eq {n : Int} (hnonneg : 0 ≤ n) (hle : n ≤ Metric.greatest) : word? n = some n :=
  if_pos ⟨Int.le_trans (by decide) hnonneg, hle⟩

/-- A quotient is not above the number itself. -/
theorem quotient?_eq {a b : Int} (ha : 0 ≤ a) (hword : a ≤ Metric.greatest) (hb : 0 < b) :
    quotient? a b = some (a / b) := by
  rw [quotient?, if_neg (Int.ne_of_gt hb), Int.tdiv_eq_ediv_of_nonneg ha]
  exact word?_eq (Int.ediv_nonneg ha (Int.le_of_lt hb))
    (Int.le_trans (Int.ediv_le_self b ha) hword)

/-- No step of rounding up leaves its word: the quotient is below the number itself where something
    remains. -/
theorem roundUpInWords?_eq {a b : Int} (ha : 0 < a) (hword : a ≤ Metric.greatest) (hb : 0 < b) :
    roundUpInWords? a b = some (roundUp a b) := by
  have hmod : a.tmod b = a % b := Int.tmod_eq_emod_of_nonneg (Int.le_of_lt ha)
  have hround : roundUp a b ≤ a := by
    rw [roundUp_le_iff hb]
    calc a = a * 1 := (Int.mul_one a).symm
      _ ≤ a * b := Int.mul_le_mul_of_nonneg_left hb (Int.le_of_lt ha)
  have hone := one_le_roundUp ha hb
  rw [roundUpInWords?, remainder?, quotient?_eq (Int.le_of_lt ha) hword hb, hmod]
  simp only [Option.bind_eq_bind, Option.bind_some, Option.map_some]
  rw [← roundUp]
  exact word?_eq (by omega) (by omega)

theorem limitInWords?_eq {quota period shares : Int} (hquota : quota ≤ Metric.greatest)
    (hshares : shares ≤ Metric.greatest) :
    limitInWords? quota period shares = some (limit? quota period shares) := by
  rw [limitInWords?, limit?]
  by_cases hlimited : 0 < quota ∧ 0 < period
  · rw [if_pos hlimited, if_pos hlimited, roundUpInWords?_eq hlimited.1 hquota hlimited.2]
    rfl
  · rw [if_neg hlimited, if_neg hlimited]
    by_cases hset : 0 < shares
    · rw [if_pos hset, if_pos hset, roundUpInWords?_eq hset hshares (by decide)]
      rfl
    · rw [if_neg hset, if_neg hset]

/-- No step of the count leaves its word, whatever words it starts from. -/
theorem activeInWords?_eq (quota period shares : Int64) (host : UInt32) :
    activeInWords? quota.toInt period.toInt shares.toInt host.toNat =
      some (active quota.toInt period.toInt shares.toInt host.toNat).value := by
  have hword (n : Int64) : n.toInt ≤ Metric.greatest := Int.le_of_lt_add_one n.toInt_lt
  have hhost : host.toNat ≤ Numeral.max32 := Nat.le_of_lt_succ host.toNat_lt
  have hmax : 1 ≤ Numeral.max32 := by decide
  rw [activeInWords?, limitInWords?_eq (hword quota) (hword shares)]
  cases h : limit? quota.toInt period.toInt shares.toInt with
  | none =>
    rw [value_active_of_none h]
    rfl
  | some limit =>
    have hclamp : clamp? 1 (max 1 host.toNat : Nat) limit =
        some (max 1 (min limit (max 1 host.toNat : Nat))) := if_pos (by omega)
    have hcount : count? (max 1 (min limit (max 1 host.toNat : Nat))) =
        some (max 1 (min limit (max 1 host.toNat : Nat))).toNat := if_pos (by omega)
    rw [value_active_of_limit h]
    simp only [Option.bind_eq_bind, Option.bind_some, hclamp, hcount, Option.getD_some,
      Option.pure_def]

/-- The processors that the settings of a cgroup leave to a process: the least number, at least one,
    that covers the quota with one period each, else the least one that covers the shares with 1024
    each, else all of the host's, and in any case from one to as many as the host has. A higher
    quota, more shares and a larger host never leave fewer, a longer period never more, and from
    words of 64 and 32 bits no step of the count leaves its word. -/
theorem active_allowed :
    (∀ (quota period shares : Int) (host count : Nat),
      (active quota period shares host).value = count ↔ Allows quota period shares host count) ∧
    (∀ (quota period shares : Int) (host : Nat),
      1 ≤ (active quota period shares host).value ∧
      (active quota period shares host).value ≤ max 1 host) ∧
    (∀ (quota period shares : Int64) (host : UInt32),
      activeInWords? quota.toInt period.toInt shares.toInt host.toNat =
        some (active quota.toInt period.toInt shares.toInt host.toNat).value) ∧
    (∀ (period shares : Int) (host : Nat),
      MonotoneOn (fun quota => (active quota period shares host).value) (Set.Ioi 0)) ∧
    (∀ (quota period : Int) (host : Nat),
      MonotoneOn (fun shares => (active quota period shares host).value) (Set.Ioi 0)) ∧
    (∀ quota period shares : Int, Monotone fun host => (active quota period shares host).value) ∧
    (∀ (quota shares : Int) (host : Nat),
      AntitoneOn (fun period => (active quota period shares host).value) (Set.Ioi 0)) :=
  ⟨fun _ _ _ _ _ => value_active_eq_iff,
    fun quota period shares host =>
      ⟨active_pos quota period shares host, active_le quota period shares host⟩,
    activeInWords?_eq, monotoneOn_quota, monotoneOn_shares, monotone_host, antitoneOn_period⟩

/-- A quota of the greatest word with a period of two, on the largest host. -/
example : activeInWords? 9223372036854775807 2 (-1) 4294967295 = some 4294967295 := by decide

end CgroupLimits.Processors
