/-!
# Operators of filters

The names of the conditions that a filter can put on a value.
-/

namespace TypedStore

/-- A side of an order. -/
inductive Bound where
  | above
  | atLeast
  | below
  | atMost
deriving DecidableEq, Repr

/-- An ordering lies on the side. -/
def Bound.admits : Bound → Ordering → Bool
  | above, o => o == .gt
  | atLeast, o => o != .lt
  | below, o => o == .lt
  | atMost, o => o != .gt

/-- What a filter asks of a value. -/
inductive Operator where
  | equal
  | unequal
  | oneOf
  | noneOf
  | bound (side : Bound)
  | regex
  | glob
deriving DecidableEq, Repr

namespace Operator

/-- The name of an operator. -/
def name : Operator → String
  | equal => "eq"
  | unequal => "ne"
  | oneOf => "in"
  | noneOf => "nin"
  | bound .above => "gt"
  | bound .atLeast => "gte"
  | bound .below => "lt"
  | bound .atMost => "lte"
  | regex => "regex"
  | glob => "glob"

/-- All operators. -/
def all : List Operator :=
  [equal, unequal, oneOf, noneOf, bound .above, bound .atLeast, bound .below, bound .atMost, regex,
    glob]

/-- The operator with a given name. -/
def parse? (name : String) : Option Operator := all.find? fun operator => operator.name = name

theorem parse?_name (operator : Operator) : parse? operator.name = some operator := by
  cases operator with
  | bound side => cases side <;> decide
  | _ => decide

theorem parse?_eq_some_iff {name : String} {operator : Operator} :
    parse? name = some operator ↔ name = operator.name := by
  constructor
  · intro h
    have := List.find?_some h
    simpa using (of_decide_eq_true this).symm
  · rintro rfl
    exact parse?_name operator

end Operator

/-- The name of the operator that tests the elements of an array with a filter of their own. -/
def elementOperator : String := "elemMatch"

end TypedStore
