/-!
# Gravity of refusals

A refused request says whether the request itself was at fault or the work on it
could not go on.
-/

namespace TypedStore

/-- How grave a refusal is. -/
inductive Gravity where
  /-- The request was malformed. -/
  | reject
  /-- The request cannot be answered. -/
  | fatal
deriving DecidableEq, Repr

/-- The name of a gravity. -/
def Gravity.name : Gravity → String
  | reject => "REJECT"
  | fatal => "FATAL"

/-- A refusal in one line: its gravity, its code and its words. -/
def Gravity.line (gravity : Gravity) (code message : String) : String :=
  "[" ++ gravity.name ++ "] " ++ code ++ ": " ++ message

end TypedStore
