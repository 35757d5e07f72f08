import TypedStore.Ascending

/-!
# Listings of sets

The listing of a set in increasing order strictly increases, so no element stands in
it twice, and it depends on the set alone: two lists have the same listing exactly if
they have the same elements.
-/

namespace TypedStore.Ascending

variable {α : Type} {cmp : α → α → Ordering} [Std.TransCmp cmp] [Std.LawfulEqCmp cmp]

/-- Putting an element in its place keeps a list strictly increasing. -/
theorem pairwise_insert {x : α} {xs : List α} (h : xs.Pairwise fun a b => cmp a b = .lt) :
    (insert cmp x xs).Pairwise fun a b => cmp a b = .lt := by
  induction xs with
  | nil => simp [insert]
  | cons y rest ih =>
    obtain ⟨hhead, hrest⟩ := List.pairwise_cons.mp h
    simp only [insert]
    split
    · rename_i hlt
      refine List.pairwise_cons.mpr ⟨fun z hz => ?_, h⟩
      rcases List.mem_cons.mp hz with rfl | hz
      · exact hlt
      · exact Std.TransCmp.lt_trans hlt (hhead z hz)
    · exact h
    · rename_i hgt
      refine List.pairwise_cons.mpr ⟨fun z hz => ?_, ih hrest⟩
      have hmem := (mem_insert_iff fun a b => Std.LawfulEqCmp.eq_of_compare (a := a) (b := b)).mp hz
      rcases hmem with rfl | hz
      · exact Std.OrientedCmp.lt_of_gt hgt
      · exact hhead z hz

/-- A listing strictly increases. -/
theorem pairwise_ofList (xs : List α) : (ofList cmp xs).Pairwise fun a b => cmp a b = .lt := by
  induction xs with
  | nil => simp [ofList]
  | cons x rest ih => exact pairwise_insert ih

/-- No element stands twice in a listing. -/
theorem nodup_ofList (xs : List α) : (ofList cmp xs).Nodup := by
  rw [List.nodup_iff_pairwise_ne]
  refine (pairwise_ofList xs).imp fun {a b} hlt heq => ?_
  subst heq
  exact Std.OrientedCmp.not_lt_of_lt hlt hlt

/-- Two lists have the same listing exactly if they have the same elements. -/
theorem ofList_eq_iff {xs ys : List α} : ofList cmp xs = ofList cmp ys ↔ ∀ x, x ∈ xs ↔ x ∈ ys := by
  have hmem (x : α) (zs : List α) : x ∈ ofList cmp zs ↔ x ∈ zs :=
    mem_ofList_iff fun a b => Std.LawfulEqCmp.eq_of_compare (a := a) (b := b)
  constructor
  · intro h x
    rw [← hmem x xs, h, hmem]
  · intro h
    have hperm : (ofList cmp xs).Perm (ofList cmp ys) :=
      (List.perm_ext_iff_of_nodup (nodup_ofList xs) (nodup_ofList ys)).mpr fun x => by
        rw [hmem, hmem, h]
    refine hperm.eq_of_pairwise (fun a b _ _ hab hba => ?_) (pairwise_ofList xs)
      (pairwise_ofList ys)
    exact absurd hba (Std.OrientedCmp.not_lt_of_lt hab)

/-- A text stands in the listing of some texts exactly if it is one of them. -/
theorem mem_ofTexts {text : String} {texts : List String} : text ∈ ofTexts texts ↔ text ∈ texts :=
  mem_ofList_iff fun a b => Std.LawfulEqCmp.eq_of_compare (a := a) (b := b)

/-- Texts have the same listing exactly if they are the same set. -/
theorem ofTexts_eq_iff {as bs : List String} :
    ofTexts as = ofTexts bs ↔ ∀ text, text ∈ as ↔ text ∈ bs := ofList_eq_iff

end TypedStore.Ascending
