/-!
# Events

What is worth an entry in the journal.
-/

namespace TypedStore

/-- Something that happened. -/
inductive Event where
  /-- Settings were put to use. -/
  | configLoaded
  | queryReceived
  | queryPlanned
  | queryExecuted
  | queryFailed
  /-- The index that was to answer a query cannot be had. -/
  | indexShortcutFailed
  /-- An index was out of date and is built anew. -/
  | indexStale
  | resolverFailed
deriving DecidableEq, Repr

namespace Event

/-- The name of an event. -/
def name : Event → String
  | configLoaded => "CONFIG_LOADED"
  | queryReceived => "QUERY_RECEIVED"
  | queryPlanned => "QUERY_PLANNED"
  | queryExecuted => "QUERY_EXECUTED"
  | queryFailed => "QUERY_FAILED"
  | indexShortcutFailed => "INDEX_SHORTCUT_FAILED"
  | indexStale => "INDEX_STALE"
  | resolverFailed => "RESOLVER_FAILED"

/-- An operation could not be finished. -/
def isFailure : Event → Bool
  | queryFailed => true
  | indexShortcutFailed => true
  | resolverFailed => true
  | _ => false

end Event

end TypedStore
