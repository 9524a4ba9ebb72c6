import Mathlib.Data.List.Forall2

/-! Readings that can fail, one after the other.

    A sequence of readings succeeds exactly if all of them do (`mapM_ok_iff`), and otherwise fails
    as the leftmost that fails (`mapM_error_iff`). -/

namespace CgroupLimits

theorem exists_of_bind_ok {ε α β : Type} {x : Except ε α} {f : α → Except ε β} {b : β}
    (h : x >>= f = .ok b) : ∃ a, x = .ok a ∧ f a = .ok b := by
  cases x with
  | error error => cases h
  | ok a => exact ⟨a, rfl, h⟩

theorem exists_of_map_ok {ε α β : Type} {x : Except ε α} {f : α → β} {b : β}
    (h : x.map f = .ok b) : ∃ a, x = .ok a ∧ f a = b := by
  cases x with
  | error error => cases h
  | ok a => exact ⟨a, rfl, Except.ok.inj h⟩

theorem toOption_eq_some_iff {ε α : Type} {x : Except ε α} {a : α} :
    x.toOption = some a ↔ x = .ok a := by
  cases x <;> simp [Except.toOption]

/-- Other words for an error make no difference to what succeeds. -/
theorem mapError_ok_iff {ε ε' α : Type} {x : Except ε α} {f : ε → ε'} {a : α} :
    x.mapError f = .ok a ↔ x = .ok a := by
  cases x with
  | error error => exact iff_of_false nofun nofun
  | ok b =>
    change Except.ok b = Except.ok a ↔ Except.ok b = Except.ok a
    rw [Except.ok.injEq, Except.ok.injEq]

theorem mapError_error_iff {ε ε' α : Type} {x : Except ε α} {f : ε → ε'} {e : ε'} :
    x.mapError f = .error e ↔ ∃ cause, x = .error cause ∧ e = f cause := by
  cases x with
  | ok a =>
    refine iff_of_false nofun ?_
    rintro ⟨_, hcause, -⟩
    cases hcause
  | error error =>
    constructor
    · intro h
      exact ⟨error, rfl, (Except.error.inj h).symm⟩
    · rintro ⟨_, hcause, rfl⟩
      obtain rfl := Except.error.inj hcause
      rfl

variable {ε α β : Type} {f : α → Except ε β}

theorem mapM_ok_iff {xs : List α} {ys : List β} :
    xs.mapM f = .ok ys ↔ List.Forall₂ (fun x y => f x = .ok y) xs ys := by
  constructor
  · intro h
    induction xs generalizing ys with
    | nil =>
      obtain rfl := Except.ok.inj h
      exact .nil
    | cons x xs ih =>
      obtain ⟨y, hy, h⟩ := exists_of_bind_ok (List.mapM_cons.symm.trans h)
      obtain ⟨zs, hzs, h⟩ := exists_of_bind_ok h
      obtain rfl := Except.ok.inj h
      exact .cons hy (ih hzs)
  · intro h
    induction h with
    | nil => rfl
    | cons hx _ ih =>
      rw [List.mapM_cons, hx, ih]
      rfl

/-- Of several readings that fail, the leftmost is told. -/
theorem mapM_error_iff {xs : List α} {e : ε} :
    xs.mapM f = .error e ↔ ∃ before x behind, xs = before ++ x :: behind ∧
      (∀ y ∈ before, ∃ z, f y = .ok z) ∧ f x = .error e := by
  constructor
  · intro h
    induction xs with
    | nil => cases h
    | cons x xs ih =>
      rw [List.mapM_cons] at h
      cases hx : f x with
      | error e' =>
        rw [hx] at h
        obtain rfl := Except.error.inj h
        exact ⟨[], x, xs, rfl, List.forall_mem_nil _, hx⟩
      | ok y =>
        cases hxs : xs.mapM f with
        | ok zs =>
          rw [hx, hxs] at h
          cases h
        | error e' =>
          rw [hx, hxs] at h
          obtain rfl := Except.error.inj h
          obtain ⟨before, z, behind, rfl, hbefore, hz⟩ := ih hxs
          exact ⟨x :: before, z, behind, rfl, List.forall_mem_cons.2 ⟨⟨y, hx⟩, hbefore⟩, hz⟩
  · rintro ⟨before, x, behind, rfl, hbefore, hx⟩
    induction before with
    | nil =>
      rw [List.nil_append, List.mapM_cons, hx]
      rfl
    | cons y before ih =>
      obtain ⟨⟨z, hz⟩, hbefore⟩ := List.forall_mem_cons.1 hbefore
      rw [List.cons_append, List.mapM_cons, hz, ih hbefore]
      rfl

/-- Each of several values has something related to it exactly if all together have a list. -/
theorem exists_forall₂_iff {R : α → β → Prop} {xs : List α} :
    (∃ ys, List.Forall₂ R xs ys) ↔ ∀ x ∈ xs, ∃ y, R x y := by
  induction xs with
  | nil => exact iff_of_true ⟨[], .nil⟩ (List.forall_mem_nil _)
  | cons x xs ih =>
    rw [List.forall_mem_cons, ← ih]
    constructor
    · rintro ⟨_, h⟩
      cases h with
      | cons hx hxs => exact ⟨⟨_, hx⟩, _, hxs⟩
    · rintro ⟨⟨y, hx⟩, ys, hxs⟩
      exact ⟨y :: ys, .cons hx hxs⟩

end CgroupLimits
