import TypedStore.Filter.Error
import TypedStore.Query.Error
import TypedStore.Settings.Error
import TypedStore.Store.Error

/-!
# Faults of a context

Any operation on a context fails for a reason of one of its parts.
-/

namespace TypedStore

/-- Why an operation on a context fails. -/
inductive ContextError where
  | store (cause : StoreError)
  | query (cause : QueryError)
  | filter (cause : FilterError)
  | settings (cause : SettingsError)
deriving DecidableEq, Repr

namespace ContextError

/-- The code of a fault. -/
def code : ContextError → String
  | store _ => "NODEQ_STORE_ERROR"
  | query cause => cause.code
  | filter cause => cause.code
  | settings cause => cause.code

/-- A fault in one line. -/
def line : ContextError → String
  | store cause => "store error: " ++ cause.message
  | query cause => cause.line
  | filter cause => cause.line
  | settings cause => cause.message

end ContextError

end TypedStore
