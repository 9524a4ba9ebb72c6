/-! Cutting a text around the first occurrence of another one.

    `cut? sep s` is the text before and the text after the first place where `sep` stands in `s`,
    or nothing when it stands nowhere. `eq_append_of_cut?` says that nothing is lost,
    `cut?_eq_some_iff_firstCut` which of several places it is, and `cut?_eq_some_iff` the same where
    the other text is one character. -/

namespace CgroupLimits.Text

/-- The characters before and after the first occurrence of `sep`. -/
def cutList? (sep : List Char) : List Char → Option (List Char × List Char)
  | [] => if sep.isEmpty then some ([], []) else none
  | c :: cs =>
    if sep.isPrefixOf (c :: cs) then some ([], (c :: cs).drop sep.length)
    else (cutList? sep cs).map fun halves => (c :: halves.1, halves.2)

/-- The text before and the text after the first occurrence of `sep` in `s`. -/
def cut? (sep s : String) : Option (String × String) :=
  (cutList? sep.toList s.toList).map fun halves => (String.ofList halves.1, String.ofList halves.2)

/-- What follows `lead` in a text that begins with it. -/
def after? (lead s : String) : Option String :=
  if lead.toList.isPrefixOf s.toList then some (String.ofList (s.toList.drop lead.toList.length))
  else none

/-! ### What a cut says about the text -/

theorem eq_append_of_cutList? {sep cs a b : List Char} (h : cutList? sep cs = some (a, b)) :
    cs = a ++ sep ++ b := by
  induction cs generalizing a with
  | nil =>
    by_cases he : sep.isEmpty = true
    · simp_all [cutList?]
    · simp [cutList?, he] at h
  | cons c cs ih =>
    rw [cutList?] at h
    split at h
    · rename_i hp
      obtain ⟨t, ht⟩ := List.isPrefixOf_iff_prefix.1 hp
      simp only [Option.some.injEq, Prod.mk.injEq] at h
      obtain ⟨rfl, rfl⟩ := h
      simp [← ht]
    · obtain ⟨⟨a', b'⟩, hcut, heq⟩ := Option.map_eq_some_iff.1 h
      simp only [Prod.mk.injEq] at heq
      obtain ⟨rfl, rfl⟩ := heq
      simp [ih hcut]

theorem eq_append_of_cut? {sep s a b : String} (h : cut? sep s = some (a, b)) :
    s = a ++ sep ++ b := by
  obtain ⟨⟨x, y⟩, hcut, heq⟩ := Option.map_eq_some_iff.1 h
  simp only [Prod.mk.injEq] at heq
  obtain ⟨rfl, rfl⟩ := heq
  rw [← String.toList_inj]
  simp [eq_append_of_cutList? hcut]

theorem eq_append_of_after? {lead s rest : String} (h : after? lead s = some rest) :
    s = lead ++ rest := by
  unfold after? at h
  split at h
  · rename_i hp
    obtain ⟨t, ht⟩ := List.isPrefixOf_iff_prefix.1 hp
    obtain rfl := Option.some.inj h
    rw [← String.toList_inj]
    simp [← ht]
  · simp at h

theorem after?_eq_some_iff {lead s rest : String} :
    after? lead s = some rest ↔ s = lead ++ rest := by
  constructor
  · exact eq_append_of_after?
  · rintro rfl
    simp [after?, List.isPrefixOf_iff_prefix]

/-! ### The first of several places -/

/-- Whether `before` and `behind` are what stands around the first `sep` in `s`. -/
def FirstCut (sep s before behind : String) : Prop :=
  s = before ++ sep ++ behind ∧ ∀ a b, s = a ++ sep ++ b → before.length ≤ a.length

theorem cutList?_append (sep a b : List Char) :
    ∃ before behind, cutList? sep (a ++ sep ++ b) = some (before, behind) ∧
      before.length ≤ a.length := by
  induction a with
  | nil =>
    rw [List.nil_append]
    cases hcs : sep ++ b with
    | nil =>
      obtain ⟨rfl, rfl⟩ := List.append_eq_nil_iff.1 hcs
      exact ⟨[], [], rfl, Nat.le_refl _⟩
    | cons c cs =>
      have hprefix : sep.isPrefixOf (c :: cs) = true :=
        List.isPrefixOf_iff_prefix.2 ⟨b, hcs⟩
      exact ⟨[], _, by rw [cutList?, if_pos hprefix], Nat.le_refl _⟩
  | cons c a ih =>
    obtain ⟨before, behind, hcut, hle⟩ := ih
    rw [List.cons_append, List.cons_append, cutList?]
    by_cases hprefix : sep.isPrefixOf (c :: (a ++ sep ++ b)) = true
    · exact ⟨[], _, if_pos hprefix, Nat.zero_le _⟩
    · exact ⟨c :: before, behind, by rw [if_neg hprefix, hcut]; rfl, Nat.succ_le_succ hle⟩

theorem cut?_append (sep a b : String) :
    ∃ before behind, cut? sep (a ++ sep ++ b) = some (before, behind) ∧
      before.length ≤ a.length := by
  obtain ⟨before, behind, hcut, hle⟩ := cutList?_append sep.toList a.toList b.toList
  refine ⟨String.ofList before, String.ofList behind, ?_, ?_⟩
  · rw [cut?, String.toList_append, String.toList_append, hcut]
    rfl
  · rwa [String.length_ofList, ← String.length_toList]

theorem cut?_eq_none_iff_not_append {sep s : String} :
    cut? sep s = none ↔ ¬ ∃ before behind, s = before ++ sep ++ behind := by
  constructor
  · rintro h ⟨a, b, rfl⟩
    obtain ⟨before, behind, hcut, -⟩ := cut?_append sep a b
    rw [h] at hcut
    cases hcut
  · intro h
    cases hcut : cut? sep s with
    | none => rfl
    | some halves => exact absurd ⟨halves.1, halves.2, eq_append_of_cut? hcut⟩ h

theorem cut?_eq_some_iff_firstCut {sep s before behind : String} :
    cut? sep s = some (before, behind) ↔ FirstCut sep s before behind := by
  constructor
  · intro h
    refine ⟨eq_append_of_cut? h, fun a b hs => ?_⟩
    obtain ⟨before', behind', hcut, hle⟩ := cut?_append sep a b
    rw [← hs, h] at hcut
    obtain ⟨rfl, -⟩ : before = before' ∧ _ := by simpa using hcut
    exact hle
  · rintro ⟨hs, hfirst⟩
    obtain ⟨before', behind', hcut, hle⟩ := cut?_append sep before behind
    rw [← hs] at hcut
    have hs' := eq_append_of_cut? hcut
    have hlength : before.toList.length = before'.toList.length := by
      rw [String.length_toList, String.length_toList]
      exact Nat.le_antisymm (hfirst before' behind' hs') hle
    have hlists : before.toList ++ (sep ++ behind).toList =
        before'.toList ++ (sep ++ behind').toList := by
      rw [← String.toList_append, ← String.toList_append, ← String.append_assoc,
        ← String.append_assoc, ← hs, hs']
    obtain ⟨hbefore, hrest⟩ := List.append_inj hlists hlength
    rw [String.toList_append, String.toList_append, List.append_cancel_left_eq] at hrest
    rw [hcut, String.toList_inj.1 hbefore, String.toList_inj.1 hrest]

/-! ### Cutting at one character -/

/-- What stands in front of an entry that is none of its own begins all that stands in front of that
    entry. -/
theorem exists_append_of_not_mem {α : Type} {x : α} {xs us ys zs : List α} (hx : x ∉ xs)
    (h : xs ++ x :: ys = us ++ x :: zs) : ∃ further, us = xs ++ further := by
  rcases List.append_eq_append_iff.1 h with ⟨further, hus, -⟩ | ⟨further, hxs, hrest⟩
  · exact ⟨further, hus⟩
  · cases further with
    | nil => exact ⟨[], by rw [hxs, List.append_nil, List.append_nil]⟩
    | cons y further =>
      obtain ⟨rfl, -⟩ := List.cons.inj hrest
      exact absurd (hxs ▸ List.mem_append_right us List.mem_cons_self) hx

theorem firstCut_iff {sep s a b : String} {c : Char} (hsep : sep.toList = [c]) :
    FirstCut sep s a b ↔ s = a ++ sep ++ b ∧ c ∉ a.toList := by
  constructor
  · rintro ⟨rfl, hfirst⟩
    refine ⟨rfl, fun hmem => ?_⟩
    obtain ⟨x, y, ha⟩ := List.append_of_mem hmem
    have hle := hfirst (String.ofList x) (String.ofList y ++ sep ++ b) (by
      rw [← String.toList_inj]
      simp [ha, hsep])
    rw [← String.length_toList, ha, String.length_ofList, List.length_append,
      List.length_cons] at hle
    omega
  · rintro ⟨rfl, hfree⟩
    refine ⟨rfl, fun a' b' h => ?_⟩
    have hlists : a.toList ++ c :: b.toList = a'.toList ++ c :: b'.toList := by
      simpa [hsep] using congrArg String.toList h
    obtain ⟨further, ha'⟩ := exists_append_of_not_mem hfree hlists
    rw [← String.length_toList, ← String.length_toList, ha', List.length_append]
    exact Nat.le_add_right _ _

theorem cut?_eq_none_iff {sep s : String} {c : Char} (hsep : sep.toList = [c]) :
    cut? sep s = none ↔ c ∉ s.toList := by
  rw [cut?_eq_none_iff_not_append]
  refine not_congr ⟨?_, fun hmem => ?_⟩
  · rintro ⟨a, b, rfl⟩
    simp [hsep]
  · obtain ⟨x, y, hs⟩ := List.append_of_mem hmem
    refine ⟨String.ofList x, String.ofList y, ?_⟩
    rw [← String.toList_inj]
    simp [hs, hsep]

theorem cut?_eq_some_iff {sep s a b : String} {c : Char} (hsep : sep.toList = [c]) :
    cut? sep s = some (a, b) ↔ s = a ++ sep ++ b ∧ c ∉ a.toList := by
  rw [cut?_eq_some_iff_firstCut, firstCut_iff hsep]

end CgroupLimits.Text
