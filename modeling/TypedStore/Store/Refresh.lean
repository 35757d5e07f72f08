import TypedStore.Store.Basic
import TypedStore.Store.Window

/-!
# Refreshing overlays

The overlays of types are computed anew, in one pass after another. The overlays of a
type are replaced once all its nodes have been resolved; the first failure ends the
refresh and leaves the overlays of its type as they were. A pass over a type without
nodes does nothing. A type may have several passes, in which a resolver need not answer
the same.
-/

namespace TypedStore

/-- A pass of a refresh: a type, and what the resolver does for its nodes in this pass. -/
structure Pass where
  type : String
  resolver : Resolver

/-- What came of a refresh: the store, the nodes whose resolver was called, and
whether it went through. -/
structure Refreshed where
  store : Store
  called : List Node
  outcome : Except StoreError Unit

namespace Store

/-- Refresh the overlays of some types, one pass after another. -/
def refresh (store : Store) (scheduling : Scheduling) : List Pass → Refreshed
  | [] => ⟨store, [], .ok ()⟩
  | pass :: rest =>
      let nodes := store.nodesOfType pass.type
      if nodes.isEmpty then store.refresh scheduling rest
      else
        let resolved := pass.resolver.run scheduling nodes
        match resolved.answer with
        | .error (node, reason) =>
            ⟨store, resolved.called, .error (.resolverFailed node.id pass.type reason)⟩
        | .ok values =>
            let overlaid := store.withOverlays pass.type (Dict.ofList values)
            let later := overlaid.refresh scheduling rest
            { later with called := resolved.called ++ later.called }

end Store

end TypedStore
