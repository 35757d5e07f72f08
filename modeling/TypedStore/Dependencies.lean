import TypedStore.Store.Basic

/-!
# Dependencies

Whoever makes an artifact out of a node leaves an edge from the node to the path of
the artifact. The edge is kept also when there is no such node yet.
-/

namespace TypedStore

/-- An artifact depends on a node. -/
structure Edge where
  id : String
  path : String
deriving DecidableEq, Repr

/-- The edges, in the order in which they were left. -/
abbrev Dependencies := List Edge

namespace Dependencies

/-- The paths of the artifacts that depend on a node. -/
def pathsOf (edges : Dependencies) (id : String) : List String :=
  (edges.filter fun edge => edge.id = id).map Edge.path

end Dependencies

/-- Leave an edge from a node, and get the node. -/
def Store.getWithEdge (store : Store) (edges : Dependencies) (id path : String) :
    Option Node × Dependencies :=
  (store.get? id, edges ++ [⟨id, path⟩])

end TypedStore
