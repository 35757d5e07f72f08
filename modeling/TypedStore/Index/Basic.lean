import TypedStore.Index.FieldPath
import TypedStore.Index.Key
import TypedStore.Store.Basic
import TypedStore.Table

/-!
# Indexes

An index over a field path of some types holds, for each key, the stamped nodes that
have a value with this key at the path, in the order of their ids. It is a view of
the store at one generation.
-/

namespace TypedStore

/-- The nodes of some types by the keys of one of their values. -/
structure FieldIndex where
  /-- The generation of the store that the index is a view of. -/
  generation : Nat
  buckets : Table IndexKey (List StampedNode)
  /-- How often a node stands in a bucket. -/
  size : Nat

namespace FieldIndex

/-- The keys under which a node is found: those of its value at a path. -/
def keysOf (path : Path) (node : Node) : List IndexKey :=
  match node.at? path with
  | some value => IndexKey.allOf value
  | none => []

/-- The keys of all nodes of some types, each with its stamped node. -/
def postings (store : Store) (path : Path) (types : List String) : List (IndexKey × StampedNode) :=
  (store.nodes.filter fun node => types.contains node.type).flatMap fun node =>
    (keysOf path node).map fun key => (key, store.stamp node)

/-- Put a node at the end of the bucket of a key. -/
def post (buckets : Table IndexKey (List StampedNode)) (posting : IndexKey × StampedNode) :
    Table IndexKey (List StampedNode) :=
  buckets.set posting.1 ((buckets.get? posting.1).getD [] ++ [posting.2])

/-- Build the index over a path of some types. -/
def build (store : Store) (path : Path) (types : List String) : FieldIndex :=
  let found := postings store path types
  ⟨store.generation, found.foldl post [], found.length⟩

/-- The nodes with a key, if there are any. -/
def bucket? (index : FieldIndex) (key : IndexKey) : Option (List StampedNode) :=
  index.buckets.get? key

end FieldIndex

end TypedStore
