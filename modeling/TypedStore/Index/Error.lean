import TypedStore.Gravity

/-!
# Faults of indexes

Why a field path cannot be indexed, and the words for it.
-/

namespace TypedStore

/-- What is wrong with a field path. -/
inductive PathFault where
  | emptyFieldName
  | emptySegment
deriving DecidableEq, Repr

/-- The words for what is wrong with a field path. -/
def PathFault.message : PathFault → String
  | emptyFieldName => "empty field name"
  | emptySegment => "empty path segment"

/-- A field path that no index can have. -/
structure IndexError where
  path : String
  fault : PathFault
deriving DecidableEq, Repr

namespace IndexError

/-- The code of the fault. -/
def code (_ : IndexError) : String := "NODEQ_INDEX_INVALID_PATH"

/-- How grave the fault is. -/
def gravity (_ : IndexError) : Gravity := .fatal

/-- The words for the fault. -/
def message (e : IndexError) : String :=
  "Invalid field path '" ++ e.path ++ "': " ++ e.fault.message

/-- The fault in one line: gravity, code and words. -/
def line (e : IndexError) : String := e.gravity.line e.code e.message

end IndexError

end TypedStore
