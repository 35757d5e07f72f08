import TypedStore.Counters
import TypedStore.Index.Cache
import TypedStore.Query.Basic

/-!
# Plans

A query is answered in the first of three ways that will do: from the index on a
contributed field, by looking up an id, or by a scan of all nodes of its types. A
plan of the first two ways holds the answer, a plan of the third one what has to be
scanned.
-/

namespace TypedStore

/-- The way in which a query is answered. -/
inductive ScanKind where
  /-- From the bucket of an index. -/
  | indexed
  /-- By looking up an id. -/
  | byId
  /-- By looking through all nodes of the types. -/
  | full
deriving DecidableEq, Repr

/-- The name of a way to answer. -/
def ScanKind.name : ScanKind → String
  | indexed => "INDEX_EQ"
  | byId => "PK_LOOKUP"
  | full => "FULL_SCAN"

/-- A way to answer a query, with the nodes to answer it from. -/
structure Plan where
  scan : ScanKind
  candidates : List StampedNode
  /-- The name of the index that was used. -/
  index : Option String

/-- What came of a step of planning: the cache, the counters, the entries for the
journal and the outcome. -/
structure Planned (α : Type) where
  cache : IndexCache
  counters : Counters
  journal : List Entry
  outcome : Except QueryError α

namespace Query

/-- The elements of a list, each at its first place only. -/
def distinct : List String → List String
  | [] => []
  | text :: rest => text :: (distinct rest).filter (· ≠ text)

/-- The types of a query with commas between them. -/
def typesText (query : Query) : String := Separated.joinTexts ',' query.types

/-- All nodes of the types of a query, type after type. -/
def candidates (query : Query) (store : Store) : List StampedNode :=
  (distinct query.types).flatMap store.stampedOfType

/-- The entry for an index that cannot be had. -/
def shortcutFailedEntry (field : String) (e : IndexError) : Entry :=
  .ofEvent .indexShortcutFailed [("field", field), ("path", e.path), ("reason", e.line)]

/-- Count the building of an index. -/
def countBuild (built : Bool) (counters : Counters) : Counters :=
  if built then { counters with indexBuilds := counters.indexBuilds + 1 } else counters

/-- The failure to plan with the index on a contributed field. -/
def shortcutFailed (cache : IndexCache) (counters : Counters) (field : String) (e : IndexError) :
    Planned (Option Plan) :=
  ⟨cache, counters, [shortcutFailedEntry field e], .error (.shortcutFailed field e)⟩

/-- The plan to answer from the index on a contributed field, if the query asks for
equality of one and some node has the value. -/
def planIndexed (query : Query) (store : Store) (cache : IndexCache) (counters : Counters) :
    Planned (Option Plan) :=
  match query.fieldShortcut? with
  | none => ⟨cache, counters, [], .ok none⟩
  | some (field, value) =>
    match FieldPath.ofField field with
    | .error e => shortcutFailed cache counters field e
    | .ok path =>
      match cache.ensure store path.text query.types with
      | .error e => shortcutFailed cache counters field e
      | .ok ensured =>
        let counters := countBuild ensured.built counters
        match ensured.cache.lookup? store path.text value query.types with
        | some (node :: nodes) =>
            { cache := ensured.cache
              counters := { counters with indexShortcutHits := counters.indexShortcutHits + 1 }
              journal := ensured.journal
              outcome :=
                .ok (some ⟨.indexed, node :: nodes, some (IndexName.of query.types path).text⟩) }
        | _ => ⟨ensured.cache, counters, ensured.journal, .ok none⟩

/-- The plan to look up an id, if the query asks for one and there is such a node. -/
def planById (query : Query) (store : Store) : Option Plan :=
  match idEquality? query.filter with
  | none => none
  | some id => (store.findAmong? id query.types).map fun stamped => ⟨.byId, [stamped], none⟩

/-- Choose between looking up an id and a full scan. -/
def planUnindexed (query : Query) (store : Store) (counters : Counters) : Counters × Plan :=
  match query.planById store with
  | some plan => ({ counters with idShortcutHits := counters.idShortcutHits + 1 }, plan)
  | none =>
      ({ counters with fullScans := counters.fullScans + 1 }, ⟨.full, query.candidates store, none⟩)

/-- The entry for a query that has come in. -/
def receivedEntry (query : Query) : Entry := .detail .queryReceived [("types", query.typesText)]

/-- The entry for a query that has been planned. -/
def plannedEntry (query : Query) (plan : Plan) : Entry :=
  .detail .queryPlanned
    [("candidates", toString plan.candidates.length), ("scan_type", plan.scan.name),
      ("types", query.typesText)]

/-- Plan a query. -/
def plan (query : Query) (store : Store) (cache : IndexCache) (counters : Counters) :
    Planned Plan :=
  let first := query.planIndexed store cache counters
  match first.outcome with
  | .error e => ⟨first.cache, first.counters, query.receivedEntry :: first.journal, .error e⟩
  | .ok found =>
      let (counters, plan) := match found with
        | some plan => (first.counters, plan)
        | none => query.planUnindexed store first.counters
      { cache := first.cache
        counters := counters
        journal := query.receivedEntry :: (first.journal ++ [query.plannedEntry plan])
        outcome := .ok plan }

end Query

end TypedStore
