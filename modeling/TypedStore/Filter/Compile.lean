import TypedStore.Filter.Basic
import TypedStore.Filter.Pattern
import TypedStore.Query.Redirects

/-!
# Compiling filters

A filter is written as a tree of objects. A name over an object leads further down
a path, a name over any other value is an operator on the path so far, and
`elemMatch` over an object holds a filter for the elements of an array. Names are
read in increasing order, and compiling stops at the first fault or panic. Paths
outside `elemMatch` are redirected, paths inside it are not.
-/

namespace TypedStore

variable [PatternEngine]

/-- The condition of an operator with its operand. -/
def Condition.ofOperator (operator : Operator) (operand : Json) :
    Except (Stop FilterError) Condition :=
  match operator, operand with
  | .equal, expected => .ok (.equal expected)
  | .unequal, expected => .ok (.unequal expected)
  | .oneOf, .array options => .ok (.oneOf options)
  | .noneOf, .array options => .ok (.noneOf options)
  | .bound side, limit => .ok (.bound side limit)
  | .regex, .string text =>
      ((Regex.ofOperand text).map Condition.regex).mapError Stop.fault
  | .glob, .string text => (Glob.ofOperand text).map Condition.glob
  | .oneOf, _ => .error (.fault (.invalidOperand Operator.oneOf.name .array))
  | .noneOf, _ => .error (.fault (.invalidOperand Operator.noneOf.name .array))
  | .regex, _ => .error (.fault (.invalidOperand Operator.regex.name .string))
  | .glob, _ => .error (.fault (.invalidOperand Operator.glob.name .string))

namespace Filter

/-- The clause for a condition at a path. Outside of array elements, where redirects
are given, the path must not be empty and may be redirected. -/
def clauseAt (redirects : Option Redirects) (path : Path) (operator : String)
    (condition : Condition) : Except (Stop FilterError) Clause :=
  match redirects with
  | none => .ok (path, condition)
  | some redirects =>
      if path.isEmpty then .error (.fault (.missingPath operator))
      else .ok (redirects.target (Path.join path), condition)

mutual

/-- The clauses of the members of an object below a path. -/
def compileMembers (redirects : Option Redirects) (path : Path) :
    List (String × Json) → Except (Stop FilterError) (List Clause)
  | [] => .ok []
  | (name, value) :: rest =>
      match compileMember redirects path name value with
      | .error e => .error e
      | .ok clauses =>
        match compileMembers redirects path rest with
        | .error e => .error e
        | .ok others => .ok (clauses ++ others)

/-- The clauses of one member below a path. -/
def compileMember (redirects : Option Redirects) (path : Path) (name : String) :
    Json → Except (Stop FilterError) (List Clause)
  | .object members =>
      if name = elementOperator then
        match compileMembers none [] members with
        | .error e => .error e
        | .ok inner =>
            (clauseAt redirects path name (.someElement inner)).map fun clause => [clause]
      else compileMembers redirects (path ++ Path.split name) members
  | operand =>
      if name = elementOperator then .error (.fault (.invalidOperand name .object))
      else
        match Operator.parse? name with
        | none => .error (.fault (.unknownOperator name))
        | some operator =>
          match Condition.ofOperator operator operand with
          | .error e => .error e
          | .ok condition =>
              (clauseAt redirects path operator.name condition).map fun clause => [clause]

end

/-- Compile a filter. Null is the filter that lets everything pass. -/
def compile (redirects : Redirects) : Json → Except (Stop FilterError) Filter
  | .null => .ok empty
  | .object members => (compileMembers (some redirects) [] members).map Filter.mk
  | other => .error (.fault (.notAnObject other.kind))

end Filter

end TypedStore
