import TypedStore.Json.Basic

/-!
# Overlays

The values that were resolved for nodes, by type and by id. The values of a type
are replaced all at once; a single one is only ever dropped.
-/

namespace TypedStore

/-- Resolved values, by type and by id. -/
structure Overlays where
  byType : Dict (Dict Json)

namespace Overlays

/-- No resolved values. -/
def empty : Overlays := ⟨∅⟩

/-- Put new values in place of all values of a type. -/
def replace (overlays : Overlays) (type : String) (values : Dict Json) : Overlays :=
  ⟨overlays.byType.insert type values⟩

/-- The value for a type and an id. -/
def get? (overlays : Overlays) (type id : String) : Option Json :=
  (overlays.byType.get? type).bind fun values => values.get? id

/-- Drop the value for a type and an id. -/
def forget (overlays : Overlays) (type id : String) : Overlays :=
  match overlays.byType.get? type with
  | none => overlays
  | some values => ⟨overlays.byType.insert type (values.erase id)⟩

@[simp] theorem get?_empty (type id : String) : empty.get? type id = none := rfl

@[simp] theorem get?_replace (overlays : Overlays) (type other id : String) (values : Dict Json) :
    (overlays.replace type values).get? other id =
      if type = other then values.get? id else overlays.get? other id := by
  by_cases h : type = other <;> simp [replace, get?, h]

/-- The dropped value is gone, and all others stay. -/
@[simp] theorem get?_forget (overlays : Overlays) (type id other key : String) :
    (overlays.forget type id).get? other key =
      if type = other ∧ id = key then none else overlays.get? other key := by
  unfold forget
  cases h : overlays.byType.get? type with
  | none =>
    by_cases hk : type = other ∧ id = key
    · obtain ⟨rfl, rfl⟩ := hk
      simp [get?, h]
    · simp [hk]
  | some values =>
    by_cases ht : type = other
    · subst ht
      by_cases hk : id = key <;> simp [get?, h, hk]
    · simp [get?, ht]

end Overlays

end TypedStore
