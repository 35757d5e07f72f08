/-!
# Tables

A map whose keys have no order of their own is a list of entries. An entry keeps
its place when its value is replaced, and new entries come last.
-/

namespace TypedStore

/-- Keys with values. -/
abbrev Table (κ α : Type) := List (κ × α)

namespace Table

variable {κ α : Type} [DecidableEq κ]

/-- The value of a key. -/
def get? (key : κ) : Table κ α → Option α
  | [] => none
  | (k, value) :: rest => if k = key then some value else get? key rest

/-- Replace the value of a key or add an entry for it. -/
def set (key : κ) (value : α) : Table κ α → Table κ α
  | [] => [(key, value)]
  | (k, old) :: rest => if k = key then (key, value) :: rest else (k, old) :: set key value rest

/-- The set value is found, and every other lookup is as before. -/
@[simp] theorem get?_set (key other : κ) (value : α) (table : Table κ α) :
    get? other (set key value table) = if key = other then some value else get? other table := by
  induction table with
  | nil => simp [set, get?]
  | cons entry rest ih =>
    obtain ⟨k, old⟩ := entry
    simp only [set]
    split
    · rename_i h
      subst h
      by_cases hk : k = other <;> simp [get?, hk]
    · rename_i h
      by_cases hk : k = other
      · subst hk
        simp [get?, Ne.symm h]
      · simp [get?, hk, ih]

end Table

end TypedStore
