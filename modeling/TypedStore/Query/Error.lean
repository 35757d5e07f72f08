import TypedStore.Index.Error

/-!
# Faults of queries

Why a query is refused before any node is read, and the words for it. A fault of
the index that was to answer a query is final: the query is not tried in another
way.
-/

namespace TypedStore

/-- What is wrong with the sort of a query. -/
inductive SortFault where
  /-- The lists of fields and orders differ in length. -/
  | lengths (fields orders : Nat)
  | unknownOrder (order : String)
deriving DecidableEq, Repr

/-- The words for what is wrong with a sort. -/
def SortFault.message : SortFault → String
  | lengths fields orders => s!"sort has {fields} fields but {orders} orders"
  | unknownOrder order => "unknown sort order '" ++ order ++ "'"

/-- Why a query cannot be planned. -/
inductive QueryError where
  | invalidSort (fault : SortFault)
  /-- The index on a contributed field cannot be had. -/
  | shortcutFailed (field : String) (cause : IndexError)
deriving DecidableEq, Repr

namespace QueryError

/-- The code of a fault. -/
def code : QueryError → String
  | invalidSort _ => "NODEQ_QUERY_INVALID"
  | shortcutFailed .. => "NODEQ_INDEX_SHORTCUT_FAILED"

/-- How grave a fault is. -/
def gravity : QueryError → Gravity
  | invalidSort _ => .reject
  | shortcutFailed .. => .fatal

/-- The words for a fault. -/
def message : QueryError → String
  | invalidSort fault => fault.message
  | shortcutFailed field cause =>
      "Index shortcut on field '" ++ field ++ "' failed: " ++ cause.message

/-- The field of the query that is at fault. -/
def field? : QueryError → Option String
  | invalidSort _ => none
  | shortcutFailed field _ => some field

/-- The fault of the index behind this one. -/
def cause? : QueryError → Option IndexError
  | invalidSort _ => none
  | shortcutFailed _ cause => some cause

/-- A fault in one line: gravity, code and words. -/
def line (e : QueryError) : String := e.gravity.line e.code e.message

end QueryError

end TypedStore
