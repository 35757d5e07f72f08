import TypedStore.Settings.Basic

/-!
# Counters

How often things have happened to a context. Counters only ever grow.
-/

namespace TypedStore

/-- The counters of a context. -/
structure Counters where
  queriesExecuted : Nat
  queriesFailed : Nat
  indexShortcutHits : Nat
  idShortcutHits : Nat
  fullScans : Nat
  indexBuilds : Nat
  resolverRefreshes : Nat
deriving DecidableEq, Repr

namespace Counters

/-- Nothing has happened. -/
def zero : Counters := ⟨0, 0, 0, 0, 0, 0, 0⟩

/-- The counters as a value, in a fixed order. -/
def toJson (counters : Counters) : Json :=
  .object [
    ("queries_executed", Json.ofNat counters.queriesExecuted),
    ("queries_failed", Json.ofNat counters.queriesFailed),
    ("index_shortcut_hits", Json.ofNat counters.indexShortcutHits),
    ("id_shortcut_hits", Json.ofNat counters.idShortcutHits),
    ("full_scans", Json.ofNat counters.fullScans),
    ("index_builds", Json.ofNat counters.indexBuilds),
    ("resolver_refreshes", Json.ofNat counters.resolverRefreshes)]

/-- The counters as text. -/
def text (counters : Counters) : String := counters.toJson.text

end Counters

end TypedStore
