/-!
# Sorted entries

A map from names to values is kept as the list of its entries in strictly
increasing order of names. The order is that of code points, which is also
the order of the UTF-8 bytes. `Dict` carries the order in its type, so two
dictionaries with the same lookups are equal.
-/

namespace TypedStore

namespace Entries

variable {α : Type}

/-- The value of the first entry with a given name. -/
def get? (name : String) : List (String × α) → Option α
  | [] => none
  | (key, value) :: rest => if key = name then some value else get? name rest

/-- Put an entry in its place, taking over the place of one with the same name. -/
def insert (name : String) (value : α) : List (String × α) → List (String × α)
  | [] => [(name, value)]
  | (key, old) :: rest =>
      if name < key then (name, value) :: (key, old) :: rest
      else if key = name then (name, value) :: rest
      else (key, old) :: insert name value rest

/-- Leave out the entry with a given name. -/
def erase (name : String) : List (String × α) → List (String × α)
  | [] => []
  | (key, value) :: rest => if key = name then rest else (key, value) :: erase name rest

/-- Names strictly increase along the list. -/
def Sorted (entries : List (String × α)) : Prop :=
  entries.Pairwise (fun a b => a.1 < b.1)

/-- Sort entries by name; of several entries with one name the last one stays. -/
def ofList (entries : List (String × α)) : List (String × α) :=
  entries.foldl (fun sorted entry => insert entry.1 entry.2 sorted) []

theorem mem_insert_iff {name : String} {value : α} {entries : List (String × α)}
    (h : Sorted entries) (entry : String × α) :
    entry ∈ insert name value entries ↔
      entry = (name, value) ∨ (entry ∈ entries ∧ entry.1 ≠ name) := by
  induction entries with
  | nil => simp [insert]
  | cons head rest ih =>
    obtain ⟨key, old⟩ := head
    obtain ⟨hhead, hrest⟩ := List.pairwise_cons.mp h
    simp only [insert]
    split
    · rename_i hlt
      have hne : ∀ e ∈ (key, old) :: rest, e.1 ≠ name := by
        intro e he heq
        rcases List.mem_cons.mp he with rfl | he
        · exact absurd (heq ▸ hlt) (String.lt_irrefl _)
        · exact absurd (String.lt_trans (heq ▸ hlt) (hhead e he)) (String.lt_irrefl _)
      rw [List.mem_cons]
      constructor
      · rintro (h | h)
        · exact Or.inl h
        · exact Or.inr ⟨h, hne entry h⟩
      · rintro (h | h)
        · exact Or.inl h
        · exact Or.inr h.1
    · split
      · rename_i heq
        subst heq
        have hne : ∀ e ∈ rest, e.1 ≠ key := by
          intro e he heq
          exact absurd (heq ▸ hhead e he) (String.lt_irrefl _)
        simp only [List.mem_cons]
        constructor
        · rintro (h | h)
          · exact Or.inl h
          · exact Or.inr ⟨Or.inr h, hne entry h⟩
        · rintro (h | ⟨rfl | h, hn⟩)
          · exact Or.inl h
          · exact absurd rfl hn
          · exact Or.inr h
      · rename_i hne
        simp only [List.mem_cons, ih hrest]
        constructor
        · rintro (rfl | h | h)
          · exact Or.inr ⟨Or.inl rfl, hne⟩
          · exact Or.inl h
          · exact Or.inr ⟨Or.inr h.1, h.2⟩
        · rintro (h | ⟨rfl | h, hn⟩)
          · exact Or.inr (Or.inl h)
          · exact Or.inl rfl
          · exact Or.inr (Or.inr ⟨h, hn⟩)

theorem sorted_nil : Sorted ([] : List (String × α)) := List.Pairwise.nil

/-- Putting an entry in its place keeps the order. -/
theorem sorted_insert {name : String} {value : α} {entries : List (String × α)}
    (h : Sorted entries) : Sorted (insert name value entries) := by
  induction entries with
  | nil => simp [insert, Sorted]
  | cons head rest ih =>
    obtain ⟨key, old⟩ := head
    obtain ⟨hhead, hrest⟩ := List.pairwise_cons.mp h
    simp only [insert]
    split
    · rename_i hlt
      refine List.pairwise_cons.mpr ⟨fun e he => ?_, h⟩
      rcases List.mem_cons.mp he with rfl | he
      · exact hlt
      · exact String.lt_trans hlt (hhead e he)
    · split
      · rename_i heq
        subst heq
        exact List.pairwise_cons.mpr ⟨hhead, hrest⟩
      · rename_i hnlt hne
        refine List.pairwise_cons.mpr ⟨fun e he => ?_, ih hrest⟩
        rcases (mem_insert_iff hrest e).mp he with rfl | ⟨he, _⟩
        · exact String.not_le.mp fun hle => by
            rcases Decidable.em (name < key) with hlt | hnlt'
            · exact hnlt hlt
            · exact hne (String.le_antisymm (String.not_lt.mp hnlt') hle)
        · exact hhead e he

theorem sublist_erase (name : String) (entries : List (String × α)) :
    (erase name entries).Sublist entries := by
  induction entries with
  | nil => exact List.Sublist.slnil
  | cons head rest ih =>
    simp only [erase]
    split
    · exact List.sublist_cons_self _ _
    · exact ih.cons_cons _

/-- Leaving an entry out keeps the order. -/
theorem sorted_erase {name : String} {entries : List (String × α)} (h : Sorted entries) :
    Sorted (erase name entries) :=
  h.sublist (sublist_erase name entries)

theorem sorted_foldl_insert (entries : List (String × α)) {start : List (String × α)}
    (h : Sorted start) :
    Sorted (entries.foldl (fun sorted entry => insert entry.1 entry.2 sorted) start) := by
  induction entries generalizing start with
  | nil => exact h
  | cons head rest ih => exact ih (sorted_insert h)

theorem sorted_ofList (entries : List (String × α)) : Sorted (ofList entries) :=
  sorted_foldl_insert entries sorted_nil

/-- An inserted entry is found, and every other lookup is as before. -/
theorem get?_insert (name key : String) (value : α) (entries : List (String × α)) :
    get? key (insert name value entries) =
      if name = key then some value else get? key entries := by
  induction entries with
  | nil => simp [insert, get?]
  | cons head rest ih =>
    obtain ⟨k, old⟩ := head
    simp only [insert]
    split
    · simp [get?]
    · split
      · rename_i heq
        subst heq
        by_cases hk : k = key <;> simp [get?, hk]
      · rename_i hne
        by_cases hk : k = key
        · subst hk
          simp [get?, Ne.symm hne]
        · simp [get?, hk, ih]

theorem get?_eq_none_of_forall_ne {key : String} {entries : List (String × α)}
    (h : ∀ e ∈ entries, e.1 ≠ key) : get? key entries = none := by
  induction entries with
  | nil => rfl
  | cons head rest ih =>
    have hhead := h head (List.mem_cons_self ..)
    simp only [get?, if_neg hhead]
    exact ih fun e he => h e (List.mem_cons_of_mem _ he)

/-- The entry left out is gone, and every other lookup is as before. -/
theorem get?_erase {entries : List (String × α)} (h : Sorted entries) (name key : String) :
    get? key (erase name entries) = if name = key then none else get? key entries := by
  induction entries with
  | nil => simp [erase, get?]
  | cons head rest ih =>
    obtain ⟨k, old⟩ := head
    obtain ⟨hhead, hrest⟩ := List.pairwise_cons.mp h
    simp only [erase]
    split
    · rename_i heq
      subst heq
      by_cases hk : k = key
      · subst hk
        simp only [if_true]
        exact get?_eq_none_of_forall_ne fun e he heq =>
          absurd (heq ▸ hhead e he) (String.lt_irrefl _)
      · simp [get?, hk]
    · rename_i hne
      by_cases hk : k = key
      · subst hk
        simp [get?, Ne.symm hne]
      · simp [get?, hk, ih hrest]

/-- In sorted entries a lookup finds exactly the entries of the list. -/
theorem get?_eq_some_iff {entries : List (String × α)} (h : Sorted entries) {key : String}
    {value : α} : get? key entries = some value ↔ (key, value) ∈ entries := by
  induction entries with
  | nil => simp [get?]
  | cons head rest ih =>
    obtain ⟨k, v⟩ := head
    obtain ⟨hhead, hrest⟩ := List.pairwise_cons.mp h
    by_cases hk : k = key
    · subst hk
      have hnot : (k, value) ∉ rest := fun hmem =>
        absurd (hhead _ hmem) (String.lt_irrefl _)
      simp only [get?, if_true, Option.some.injEq, List.mem_cons, Prod.mk.injEq, true_and]
      exact ⟨fun h => Or.inl h.symm, fun h => h.elim (·.symm) (absurd · hnot)⟩
    · simp only [get?, if_neg hk, ih hrest, List.mem_cons, Prod.mk.injEq]
      exact ⟨Or.inr, fun h => h.elim (fun e => absurd e.1.symm hk) id⟩

/-- Sorted entries are determined by their lookups. -/
theorem eq_of_get?_eq {a b : List (String × α)} (ha : Sorted a) (hb : Sorted b)
    (h : ∀ key, get? key a = get? key b) : a = b := by
  have hmem : ∀ e, e ∈ a ↔ e ∈ b := fun e => by
    rw [← get?_eq_some_iff ha, ← get?_eq_some_iff hb, h]
  clear h
  induction a generalizing b with
  | nil =>
    cases b with
    | nil => rfl
    | cons head rest => exact absurd ((hmem head).mpr (List.mem_cons_self ..)) (by simp)
  | cons x xs ih =>
    cases b with
    | nil => exact absurd ((hmem x).mp (List.mem_cons_self ..)) (by simp)
    | cons y ys =>
      obtain ⟨hx, hxs⟩ := List.pairwise_cons.mp ha
      obtain ⟨hy, hys⟩ := List.pairwise_cons.mp hb
      have hxy : x = y := by
        rcases List.mem_cons.mp ((hmem x).mp (List.mem_cons_self ..)) with h | hin
        · exact h
        · rcases List.mem_cons.mp ((hmem y).mpr (List.mem_cons_self ..)) with h | hin'
          · exact h.symm
          · exact absurd (String.lt_trans (hx y hin') (hy x hin)) (String.lt_irrefl _)
      subst hxy
      have htail : xs = ys := by
        apply ih hxs hys
        intro e
        constructor
        · intro he
          rcases List.mem_cons.mp ((hmem e).mp (List.mem_cons_of_mem _ he)) with rfl | h
          · exact absurd (hx _ he) (String.lt_irrefl _)
          · exact h
        · intro he
          rcases List.mem_cons.mp ((hmem e).mpr (List.mem_cons_of_mem _ he)) with rfl | h
          · exact absurd (hy _ he) (String.lt_irrefl _)
          · exact h
      rw [htail]

end Entries

/-- A map from names to values, its entries in increasing order of names. -/
structure Dict (α : Type) where
  entries : List (String × α)
  sorted : Entries.Sorted entries

namespace Dict

variable {α : Type}

/-- The map without entries. -/
def empty : Dict α := ⟨[], Entries.sorted_nil⟩

instance : EmptyCollection (Dict α) := ⟨empty⟩

instance : Inhabited (Dict α) := ⟨empty⟩

/-- The value under a name. -/
def get? (map : Dict α) (name : String) : Option α := Entries.get? name map.entries

/-- Add an entry or replace the one with the same name. -/
def insert (map : Dict α) (name : String) (value : α) : Dict α :=
  ⟨Entries.insert name value map.entries, Entries.sorted_insert map.sorted⟩

/-- Remove the entry with a name. -/
def erase (map : Dict α) (name : String) : Dict α :=
  ⟨Entries.erase name map.entries, Entries.sorted_erase map.sorted⟩

/-- The map of a list of entries; of several entries with one name the last one counts. -/
def ofList (entries : List (String × α)) : Dict α :=
  ⟨Entries.ofList entries, Entries.sorted_ofList entries⟩

/-- All names, increasing. -/
def keys (map : Dict α) : List String := map.entries.map Prod.fst

/-- All values, in the order of their names. -/
def values (map : Dict α) : List α := map.entries.map Prod.snd

/-- The number of entries. -/
def size (map : Dict α) : Nat := map.entries.length

/-- Whether there are no entries. -/
def isEmpty (map : Dict α) : Bool := map.entries.isEmpty

@[simp] theorem get?_empty (name : String) : (∅ : Dict α).get? name = none := rfl

@[simp] theorem get?_insert (map : Dict α) (name key : String) (value : α) :
    (map.insert name value).get? key = if name = key then some value else map.get? key :=
  Entries.get?_insert name key value map.entries

@[simp] theorem get?_erase (map : Dict α) (name key : String) :
    (map.erase name).get? key = if name = key then none else map.get? key :=
  Entries.get?_erase map.sorted name key

theorem get?_eq_some_iff {map : Dict α} {name : String} {value : α} :
    map.get? name = some value ↔ (name, value) ∈ map.entries :=
  Entries.get?_eq_some_iff map.sorted

/-- Dictionaries with the same lookups are equal. -/
theorem ext_get? {a b : Dict α} (h : ∀ name, a.get? name = b.get? name) : a = b := by
  obtain ⟨x, hx⟩ := a
  obtain ⟨y, hy⟩ := b
  have hxy : x = y := Entries.eq_of_get?_eq hx hy h
  subst hxy
  rfl

end Dict

end TypedStore
