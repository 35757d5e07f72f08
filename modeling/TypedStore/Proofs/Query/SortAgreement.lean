import TypedStore.Proofs.Filter.Nesting
import TypedStore.Proofs.Query.SortOrder

/-!
# Sorting and filtering compare alike

A sort compares values of all kinds, and values that are missing, and then nodes by one value for
each of its fields. Both are total preorders. Numbers with numbers and texts with texts are compared
in a second place, by the operators for ranges of a filter, and there the answers are the same.
-/

namespace TypedStore

open Comparison (TotalPreorder)

namespace Json

/-- Two numbers have one order in sorts and in filters. -/
theorem limitOrder?_number (a b : Number) :
    limitOrder? (number a) (number b) = some (sortOrder (number a) (number b)) := by
  simp [limitOrder?, sortOrder_number, Number.asDouble?]

/-- So have two texts. -/
theorem limitOrder?_string (a b : String) :
    limitOrder? (string a) (string b) = some (sortOrder (string a) (string b)) := rfl

variable [PatternEngine] {a b : Json}

/-- What has an order with an operand meets the operators for ranges by this order. -/
theorem meets_bound_of_limitOrder? {order : Ordering} (h : limitOrder? a b = some order)
    (side : Bound) : a.meets (.bound side) b = side.admits order := by
  have hcondition : Condition.ofOperator (.bound side) b = .ok (.bound side b) := rfl
  rw [meets_eq hcondition, Condition.holds]
  cases a with
  | array items => simp [limitOrder?] at h
  | null | bool | number | string | object => simp only [anyValue, inBound, h]

/-- Values are sorted as filters compare them: by the operators for ranges, with the second value as
their operand, that the first one meets. -/
structure SortsAsFiltered (a b : Json) : Prop where
  less : sortOrder? (some a) (some b) = .lt ↔ a.meets (.bound .below) b = true
  same : sortOrder? (some a) (some b) = .eq ↔
    a.meets (.bound .atMost) b = true ∧ a.meets (.bound .atLeast) b = true
  greater : sortOrder? (some a) (some b) = .gt ↔ a.meets (.bound .above) b = true

/-- Values with one order in sorts and in filters are sorted as filters compare them. -/
theorem sortsAsFiltered_of_limitOrder? (h : limitOrder? a b = some (sortOrder a b)) :
    SortsAsFiltered a b where
  less := by
    rw [meets_bound_of_limitOrder? h, sortOrder?]
    cases sortOrder a b <;> decide
  same := by
    rw [meets_bound_of_limitOrder? h, meets_bound_of_limitOrder? h, sortOrder?]
    cases sortOrder a b <;> decide
  greater := by
    rw [meets_bound_of_limitOrder? h, sortOrder?]
    cases sortOrder a b <;> decide

end Json

/-- Sorts compare by total preorders that agree with filters. Values, missing or not, are compared
by a total preorder, and so are lists of values, one for each field of a sort, whatever the
directions of the fields; each node has such a list. Of two numbers or two texts the first one is
less, the same or greater exactly if it meets the operator for less with the second one, both those
for at most and at least, or that for greater. -/
theorem SortSpec.comparison_consistent [PatternEngine] :
    TotalPreorder Json.sortOrder? ∧ TotalPreorder Json.sortOrder ∧
      (∀ keys : List SortKey,
        TotalPreorder fun a b : FieldValues keys => order keys a.toList b.toList) ∧
      (∀ (spec : SortSpec) (redirects : Redirects) (stamped : StampedNode),
        (spec.values redirects stamped).length = spec.keys.length) ∧
      (∀ a b : Number, Json.SortsAsFiltered (.number a) (.number b)) ∧
      ∀ a b : String, Json.SortsAsFiltered (.string a) (.string b) := by
  refine ⟨Comparison.totalPreorder _, Comparison.totalPreorder _, fun keys => ?_, length_values,
    fun a b => Json.sortsAsFiltered_of_limitOrder? (Json.limitOrder?_number a b),
    fun a b => Json.sortsAsFiltered_of_limitOrder? (Json.limitOrder?_string a b)⟩
  have := transCmp_order keys
  exact Comparison.totalPreorder _

end TypedStore
