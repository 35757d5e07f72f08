import TypedStore.Filter.Operator
import TypedStore.Index.Key
import TypedStore.Node
import TypedStore.Pattern.Engine

/-!
# Filters

A filter is a list of clauses, all of which must hold; a clause puts a condition
on the value at a path. A condition on an array holds if it holds for one of its
elements, except that the opposite of equality is exactly its negation. The
elements of an array can be tested with clauses of their own.
-/

namespace TypedStore

namespace Json

/-- Sameness of values where numbers count by value: two numbers are the same if
they have the same key. Numbers within arrays and objects also agree in their
representation. -/
def agrees : Json → Json → Bool
  | number a, number b => IndexKey.ofNumber a = IndexKey.ofNumber b
  | a, b => a.same b

/-- A value is null. -/
def isNull : Json → Bool
  | null => true
  | _ => false

/-- A value or the absence of one equals an expected value: absence equals null, and
an array equals what it equals as a whole or in one of its elements. -/
def equals (actual : Option Json) (expected : Json) : Bool :=
  match actual with
  | none => expected.isNull
  | some (array items) =>
      agrees (array items) expected || items.any fun item => agrees item expected
  | some value => agrees value expected

/-- A test holds of a value or of one element of an array. -/
def anyValue (test : Json → Bool) : Option Json → Bool
  | none => false
  | some (array items) => items.any test
  | some value => test value

/-- The order of a value and a limit: numbers are ordered with numbers, as doubles, and
texts with texts. -/
def limitOrder? : Json → Json → Option Ordering
  | number a, number limit =>
      match a.asDouble?, limit.asDouble? with
      | some a, some limit => a.partialCompare limit
      | _, _ => none
  | string a, string limit => some (compare a limit)
  | _, _ => none

/-- A value lies on a side of a limit: it has an order with it, and one on the side. -/
def inBound (side : Bound) (value limit : Json) : Bool :=
  match limitOrder? value limit with
  | some order => side.admits order
  | none => false

/-- A test holds of a text. -/
def isText (test : Matcher) : Json → Bool
  | string s => test s
  | _ => false

end Json

/-- What is asked of the value at a path. -/
inductive Condition where
  | equal (expected : Json)
  | unequal (expected : Json)
  | oneOf (options : List Json)
  | noneOf (options : List Json)
  | bound (side : Bound) (limit : Json)
  | regex (matcher : Matcher)
  | glob (matcher : Matcher)
  /-- One element of an array satisfies clauses of its own. -/
  | someElement (clauses : List (Path × Condition))

/-- A condition on the value at a path. -/
abbrev Clause := Path × Condition

mutual

/-- A condition holds of a value or of the absence of one. -/
def Condition.holds : Condition → Option Json → Bool
  | .equal expected, actual => Json.equals actual expected
  | .unequal expected, actual => !Json.equals actual expected
  | .oneOf options, actual => options.any fun option => Json.equals actual option
  | .noneOf options, actual => !options.any fun option => Json.equals actual option
  | .bound side limit, actual => Json.anyValue (Json.inBound side · limit) actual
  | .regex matcher, actual => Json.anyValue (Json.isText matcher) actual
  | .glob matcher, actual => Json.anyValue (Json.isText matcher) actual
  | .someElement clauses, some (.array items) =>
      items.any fun item => clausesHold clauses fun path => item.at? path
  | .someElement _, _ => false

/-- All clauses hold of what is found at their paths. -/
def clausesHold : List (Path × Condition) → (Path → Option Json) → Bool
  | [], _ => true
  | (path, condition) :: rest, view => condition.holds (view path) && clausesHold rest view

end

theorem clausesHold_eq_all (clauses : List Clause) (view : Path → Option Json) :
    clausesHold clauses view = clauses.all fun clause => clause.2.holds (view clause.1) := by
  induction clauses with
  | nil => simp [clausesHold]
  | cons clause rest ih =>
    obtain ⟨path, condition⟩ := clause
    simp [clausesHold, ih]

/-- A filter that has been compiled. -/
structure Filter where
  clauses : List Clause

namespace Filter

/-- The filter that lets everything pass. -/
def empty : Filter := ⟨[]⟩

/-- A filter lets something pass whose values are found by a view. -/
def matchesView (filter : Filter) (view : Path → Option Json) : Bool :=
  clausesHold filter.clauses view

/-- A filter lets a stamped node pass. -/
def matchesNode (filter : Filter) (stamped : StampedNode) : Bool := filter.matchesView stamped.at?

/-- A filter lets a plain value pass. -/
def matchesValue (filter : Filter) (value : Json) : Bool := filter.matchesView value.at?

end Filter

end TypedStore
