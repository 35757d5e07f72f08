import TypedStore.Filter.Basic
import TypedStore.Proofs.Ascending
import TypedStore.Proofs.Comparison
import TypedStore.Proofs.Index.Quantity

/-!
# Keys and equality

An index finds values by their keys, a filter compares them. For a scalar both come
to the same: a value equals a scalar, as a filter sees it, exactly if the key of the
scalar is among the keys of the value.
-/

namespace TypedStore

/-- A value is a truth value, a number or a text. -/
def Json.isScalar : Json → Bool
  | bool _ | number _ | string _ => true
  | null | array _ | object _ => false

namespace IndexKey

/-- Comparing two keys the other way round gives the other answer. -/
instance : Std.OrientedCmp cmp where
  eq_swap := by
    intro a b
    cases a <;> cases b <;> first | rfl | exact Std.OrientedOrd.eq_swap

/-- Keys of different kinds are ordered by their kinds. -/
theorem cmp_eq_of_rank_ne {a b : IndexKey} (h : a.rank ≠ b.rank) :
    cmp a b = Ord.compare a.rank b.rank := by
  cases a <;> cases b <;> first | rfl | exact absurd rfl h

/-- Keys of one kind are ordered transitively by their values, and kinds are ordered
before values. -/
instance : Std.TransCmp cmp := by
  refine Comparison.transCmp_of_rank rank (fun _ _ => cmp_eq_of_rank_ne) ?_
  intro a b c hrank hrank' hab hbc
  cases a <;> cases b <;> simp [rank] at hrank <;> cases c <;> simp [rank] at hrank' <;>
    exact Std.TransOrd.isLE_trans hab hbc

instance : Std.LawfulEqCmp cmp where
  compare_self := by
    intro a
    cases a <;> exact Std.ReflOrd.compare_self
  eq_of_compare := eq_of_cmp_eq _ _

/-- Exactly the scalars have a key. -/
theorem ofJson?_eq_none_iff {value : Json} : ofJson? value = none ↔ value.isScalar = false := by
  cases value <;> simp [ofJson?, Json.isScalar]

/-- A scalar has a key. -/
theorem exists_ofJson?_of_isScalar {value : Json} (h : value.isScalar = true) :
    ∃ key, ofJson? value = some key := by
  rw [← Option.ne_none_iff_exists', ne_eq, ofJson?_eq_none_iff, h]
  decide

/-- A number has the key of an integer or of a double, so no other scalar has its key. -/
theorem ofNumber_eq (n : Number) :
    (∃ i, ofNumber n = int i) ∨ ∃ place, ofNumber n = float place := by
  rcases ofNumber_cases n with ⟨i, -, -, hkey⟩ | ⟨d, -, -, hkey⟩
  · exact Or.inl ⟨i, hkey⟩
  · exact Or.inr ⟨d.place, hkey⟩

/-- A value agrees with a scalar exactly if it has the key of the scalar. -/
theorem agrees_iff {item value : Json} {key : IndexKey} (h : ofJson? value = some key) :
    item.agrees value = true ↔ ofJson? item = some key := by
  rw [← h]
  cases value with
  | null | array | object => simp [ofJson?] at h
  | number n =>
    obtain ⟨_, hn⟩ | ⟨_, hn⟩ := ofNumber_eq n <;>
      cases item <;> simp [Json.agrees, Json.same, ofJson?, hn]
  | bool | string =>
    cases item with
    | number n =>
      obtain ⟨_, hn⟩ | ⟨_, hn⟩ := ofNumber_eq n <;> simp [Json.agrees, Json.same, ofJson?, hn]
    | _ => simp [Json.agrees, Json.same, ofJson?]

/-- A value has the key of a scalar exactly if a filter finds it equal to the scalar. -/
theorem mem_allOf_iff {actual value : Json} {key : IndexKey} (h : ofJson? value = some key) :
    key ∈ allOf actual ↔ Json.equals (some actual) value = true := by
  cases actual with
  | array items =>
    have hwhole : (Json.array items).agrees value = false := by
      rw [← Bool.not_eq_true, agrees_iff h]
      simp [ofJson?]
    simp only [mem_allOf_array_iff, Json.equals, hwhole, Bool.false_or, List.any_eq_true,
      agrees_iff h]
  | null | bool | number | string | object =>
    simp only [allOf, Option.mem_toList, Json.equals, agrees_iff h]

/-- Absence equals no scalar. -/
theorem equals_none {value : Json} {key : IndexKey} (h : ofJson? value = some key) :
    Json.equals none value = false := by
  cases value <;> simp_all [ofJson?, Json.equals, Json.isNull]

/-- A value is found under each of its keys once. -/
theorem nodup_allOf (value : Json) : (allOf value).Nodup := by
  cases value with
  | array items => exact Ascending.nodup_ofList _
  | null | bool | number | string | object => simp [allOf, ofJson?]

end IndexKey

end TypedStore
