import TypedStore.Gravity

/-!
# Faults of filters

Why a filter cannot be compiled, and the words for it.
-/

namespace TypedStore

/-- The kind of operand that an operator expects. -/
inductive Operand where
  | object
  | array
  | string
deriving DecidableEq, Repr

/-- The words for a kind of operand. -/
def Operand.words : Operand → String
  | object => "an object"
  | array => "an array"
  | string => "a string"

/-- Why a filter cannot be compiled. -/
inductive FilterError where
  /-- The filter is a value of another kind. -/
  | notAnObject (kind : String)
  | unknownOperator (name : String)
  /-- An operator stands where no field has been named. -/
  | missingPath (operator : String)
  | invalidOperand (operator : String) (expected : Operand)
  | invalidPattern (pattern reason : String)
deriving DecidableEq, Repr

namespace FilterError

/-- The words for a fault. -/
def message : FilterError → String
  | notAnObject kind => "filter must be an object, got " ++ kind
  | unknownOperator name => "unknown operator '" ++ name ++ "'"
  | missingPath operator => "operator '" ++ operator ++ "' must be applied to a field"
  | invalidOperand operator expected =>
      "operator '" ++ operator ++ "' expects " ++ expected.words
  | invalidPattern pattern reason => "invalid pattern '" ++ pattern ++ "': " ++ reason

/-- The code of a refused filter. -/
def code (_ : FilterError) : String := "NODEQ_FILTER_INVALID"

/-- How grave a refused filter is. -/
def gravity (_ : FilterError) : Gravity := .reject

/-- The words for a refused filter. -/
def refusal (e : FilterError) : String := "Invalid filter: " ++ e.message

/-- A refused filter in one line: gravity, code and words. -/
def line (e : FilterError) : String := e.gravity.line e.code e.refusal

end FilterError

end TypedStore
