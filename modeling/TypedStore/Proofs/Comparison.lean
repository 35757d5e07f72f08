/-!
# Three-way comparisons

Comparisons of values of several kinds go by the kind first and compare two values of one
kind in the way of this kind. Such a comparison is a total preorder if it is one within each
kind. Picking the better one of two values along a list ends with a best one.
-/

namespace TypedStore.Comparison

variable {α β : Type} {cmp : α → α → Ordering}

/-- A comparison that goes by a rank first is transitive if it is so among values of one rank. -/
theorem transCmp_of_rank [Std.OrientedCmp cmp] (rank : α → Nat)
    (cmp_eq : ∀ a b, rank a ≠ rank b → cmp a b = compare (rank a) (rank b))
    (isLE_trans : ∀ a b c, rank a = rank b → rank b = rank c → (cmp a b).isLE = true →
      (cmp b c).isLE = true → (cmp a c).isLE = true) : Std.TransCmp cmp where
  isLE_trans := by
    intro a b c hab hbc
    have hrank {x y : α} (h : (cmp x y).isLE = true) : rank x ≤ rank y := by
      by_cases hxy : rank x = rank y
      · exact Nat.le_of_eq hxy
      · rwa [cmp_eq x y hxy, Nat.isLE_compare] at h
    have hrab := hrank hab
    have hrbc := hrank hbc
    by_cases hlt : rank a < rank c
    · rw [cmp_eq a c (Nat.ne_of_lt hlt), Nat.isLE_compare]
      exact Nat.le_of_lt hlt
    · exact isLE_trans a b c (by omega) (by omega) hab hbc

/-- Comparing values by what they are mapped to is as transitive as the comparison there. -/
theorem transCmp_comap (cmp : α → α → Ordering) [Std.TransCmp cmp] (f : β → α) :
    Std.TransCmp fun x y => cmp (f x) (f y) where
  eq_swap := Std.OrientedCmp.eq_swap
  isLE_trans := Std.TransCmp.isLE_trans

/-- A comparison that values can be sorted by: the other way round it gives the other answer, and
both being no greater and comparing equal are transitive. -/
structure TotalPreorder (cmp : α → α → Ordering) : Prop where
  swap (a b : α) : cmp b a = (cmp a b).swap
  le_trans (a b c : α) (hab : cmp a b ≠ .gt) (hbc : cmp b c ≠ .gt) : cmp a c ≠ .gt
  eq_trans (a b c : α) (hab : cmp a b = .eq) (hbc : cmp b c = .eq) : cmp a c = .eq

theorem totalPreorder (cmp : α → α → Ordering) [Std.TransCmp cmp] : TotalPreorder cmp where
  swap _ _ := Std.OrientedCmp.eq_swap
  le_trans a b c hab hbc := by
    have hle : (cmp a b).isLE = true := Ordering.ne_gt_iff_isLE.mp hab
    have hle' : (cmp b c).isLE = true := Ordering.ne_gt_iff_isLE.mp hbc
    exact Ordering.ne_gt_iff_isLE.mpr (Std.TransCmp.isLE_trans hle hle')
  eq_trans _ _ _ := Std.TransCmp.eq_trans

/-- Where a choice between two values falls on one of them that is at least as good as both, the
choices along a list end with a value of the list that is at least as good as all. -/
theorem foldl_best {choose : α → α → α} (good : α → α → Prop) (refl : ∀ a, good a a)
    (trans : ∀ a b c, good a b → good b c → good a c)
    (choice : ∀ a b, choose a b = a ∧ good a b ∨ choose a b = b ∧ good b a) (first : α)
    (others : List α) :
    others.foldl choose first ∈ first :: others ∧
      ∀ x ∈ first :: others, good (others.foldl choose first) x := by
  induction others generalizing first with
  | nil => simp [refl]
  | cons next others ih =>
    obtain ⟨hmem, hgood⟩ := ih (choose first next)
    obtain ⟨hchosen, hall⟩ := List.forall_mem_cons.mp hgood
    rw [List.foldl_cons]
    rcases choice first next with ⟨hfirst, hbetter⟩ | ⟨hnext, hbetter⟩
    · rw [hfirst] at hmem hchosen hall ⊢
      refine ⟨?_, ?_⟩
      · rcases List.mem_cons.mp hmem with h | h
        · exact List.mem_cons.mpr (Or.inl h)
        · exact List.mem_cons_of_mem _ (List.mem_cons_of_mem _ h)
      · simp only [List.forall_mem_cons]
        exact ⟨hchosen, trans _ _ _ hchosen hbetter, hall⟩
    · rw [hnext] at hmem hchosen hall ⊢
      refine ⟨List.mem_cons_of_mem _ hmem, ?_⟩
      simp only [List.forall_mem_cons]
      exact ⟨trans _ _ _ hchosen hbetter, hchosen, hall⟩

end TypedStore.Comparison
