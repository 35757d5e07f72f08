/-!
# Ascending lists

A set is listed by its elements in increasing order, each once. The order is a
three-way comparison in which only equal elements compare equal.
-/

namespace TypedStore.Ascending

variable {α : Type}

/-- Put an element in its place, unless it is there already. -/
def insert (cmp : α → α → Ordering) (x : α) : List α → List α
  | [] => [x]
  | y :: rest =>
      match cmp x y with
      | .lt => x :: y :: rest
      | .eq => y :: rest
      | .gt => y :: insert cmp x rest

/-- The elements of a list in increasing order, each once. -/
def ofList (cmp : α → α → Ordering) (xs : List α) : List α := xs.foldr (insert cmp) []

theorem mem_insert_iff {cmp : α → α → Ordering} (eq_of_cmp : ∀ a b, cmp a b = .eq → a = b)
    {x y : α} {xs : List α} : y ∈ insert cmp x xs ↔ y = x ∨ y ∈ xs := by
  induction xs with
  | nil => simp [insert]
  | cons z rest ih =>
    simp only [insert]
    split
    · simp
    · rename_i h
      have hxz := eq_of_cmp _ _ h
      subst hxz
      simp
    · simp only [List.mem_cons, ih]
      constructor
      · rintro (h | h | h)
        · exact Or.inr (Or.inl h)
        · exact Or.inl h
        · exact Or.inr (Or.inr h)
      · rintro (h | h | h)
        · exact Or.inr (Or.inl h)
        · exact Or.inl h
        · exact Or.inr (Or.inr h)

theorem mem_ofList_iff {cmp : α → α → Ordering} (eq_of_cmp : ∀ a b, cmp a b = .eq → a = b)
    {y : α} {xs : List α} : y ∈ ofList cmp xs ↔ y ∈ xs := by
  induction xs with
  | nil => simp [ofList]
  | cons x rest ih =>
    have ih' : y ∈ rest.foldr (insert cmp) [] ↔ y ∈ rest := ih
    simp [ofList, mem_insert_iff eq_of_cmp, ih']

/-- Text in the order of its code points, which is also the order of its UTF-8 bytes. -/
def ofTexts (texts : List String) : List String := ofList compare texts

end TypedStore.Ascending
