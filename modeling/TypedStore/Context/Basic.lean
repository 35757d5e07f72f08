import TypedStore.Context.Error
import TypedStore.Query.Execution
import TypedStore.Settings.Basic
import TypedStore.Store.Refresh

/-!
# Contexts

A context is a store with a cache of indexes, counters and settings. Queries and
refreshes are counted and leave entries in the journal; what they answer does not
depend on either. A query that panics leaves what its plan has left.
-/

namespace TypedStore

/-- A store with all that is needed to query it. -/
structure Context where
  store : Store
  cache : IndexCache
  counters : Counters
  settings : Settings

/-- What an operation on a context leaves: the context, the entries for the journal
and the outcome. -/
structure Effect (α : Type) where
  context : Context
  journal : List Entry
  outcome : α

namespace Context

/-- The entry for settings that are put to use. -/
def loadedEntry (settings : Settings) : Entry :=
  .ofEvent .configLoaded
    [("index_invalidation", settings.freshness.label), ("log_level", settings.least.name),
      ("resolve_concurrency", settings.scheduling.label)]

/-- A context around a store. -/
def create (store : Store) (settings : Settings) : Context :=
  ⟨store, IndexCache.empty settings.freshness, Counters.zero, settings⟩

/-- The entries of the journal for a new context. -/
def creationJournal (settings : Settings) : List Entry := [loadedEntry settings]

/-- Add a node or replace the one with its id. -/
def addNode (context : Context) (node : Node) : Except ContextError Context :=
  match context.store.add node with
  | .ok store => .ok { context with store := store }
  | .error e => .error (.store e)

/-- The entry for a query that has been answered. -/
def executedEntry (answer : Answer) : Entry :=
  .detail .queryExecuted
    [("found", if answer.outcome.isFound then "true" else "false"),
      ("returned", toString answer.outcome.nodes.length), ("scan_type", answer.scan.name),
      ("scanned", toString answer.scanned)]

/-- The entry for a query that has failed. -/
def failedEntry (e : ContextError) : Entry :=
  .ofEvent .queryFailed [("code", e.code), ("reason", e.line)]

/-- Count a query that has been answered. -/
def countExecuted (context : Context) : Context :=
  { context with counters :=
      { context.counters with queriesExecuted := context.counters.queriesExecuted + 1 } }

/-- Count a query that has failed. -/
def countFailed (context : Context) : Context :=
  { context with counters :=
      { context.counters with queriesFailed := context.counters.queriesFailed + 1 } }

/-- Count a refresh that has gone through. -/
def countRefresh (context : Context) : Context :=
  { context with counters :=
      { context.counters with resolverRefreshes := context.counters.resolverRefreshes + 1 } }

section Queries

variable [PatternEngine]

/-- Plan a query and answer it. -/
def planAndExecute (context : Context) (query : Query) :
    Effect (Except (Stop ContextError) Answer) :=
  let planned := query.plan context.store context.cache context.counters
  let after := { context with cache := planned.cache, counters := planned.counters }
  match planned.outcome with
  | .error e => ⟨after, planned.journal, .error (.fault (.query e))⟩
  | .ok plan =>
      let answer := query.execute context.store plan
      ⟨after, planned.journal, answer.mapError (Stop.map ContextError.filter)⟩

/-- Run a query. One that panics is neither counted nor entered. -/
def runQuery (context : Context) (query : Query) : Effect (Except (Stop ContextError) Answer) :=
  let effect := context.planAndExecute query
  match effect.outcome with
  | .ok answer =>
      ⟨effect.context.countExecuted, effect.journal ++ [executedEntry answer], .ok answer⟩
  | .error (.fault e) =>
      ⟨effect.context.countFailed, effect.journal ++ [failedEntry e], .error (.fault e)⟩
  | .error .panic => ⟨effect.context, effect.journal, .error .panic⟩

end Queries

/-- The span of a refresh of some types. -/
def refreshSpan (types : List String) : Span :=
  ⟨"RESOLVER_REFRESH", [("types", Separated.joinTexts ',' types)]⟩

/-- Refresh the overlays of some types, one pass after another. Gives the nodes whose
resolver was called, and whether the refresh went through. -/
def refresh (context : Context) (passes : List Pass) :
    Effect (List Node × Except ContextError Unit) :=
  let refreshed := context.store.refresh context.settings.scheduling passes
  let after := { context with store := refreshed.store }
  let span := refreshSpan (passes.map Pass.type)
  match refreshed.outcome with
  | .ok () => ⟨after.countRefresh, span.around [] (.complete []), refreshed.called, .ok ()⟩
  | .error e =>
      let failed : Entry := .ofEvent .resolverFailed [("reason", e.message)]
      ⟨after, span.around [failed] (.fail e.message), refreshed.called, .error (.store e)⟩

end Context

end TypedStore
