import TypedStore.Node
import TypedStore.Store.Overlays

/-!
# The store

Nodes are kept by id and by type, and the values that were resolved for them beside
them. The type of a node never changes while the node is there. Every change of what
a reader could see raises the generation of the store by one.
-/

namespace TypedStore

/-- Nodes by id and by type, their overlays, and a count of changes. -/
structure Store where
  byId : Dict Node
  byType : Dict (Dict Node)
  overlays : Overlays
  generation : Nat

namespace Store

/-- The store without nodes. -/
def empty : Store := ⟨∅, ∅, Overlays.empty, 0⟩

/-- The nodes of a type by their ids. -/
def ofType (store : Store) (type : String) : Dict Node := (store.byType.get? type).getD ∅

/-- Put a node into both maps. -/
def put (store : Store) (node : Node) : Store :=
  { store with
    byId := store.byId.insert node.id node
    byType := store.byType.insert node.type ((store.ofType node.type).insert node.id node)
    generation := store.generation + 1 }

/-- Add a node or replace the one with its id, which must have the same type. -/
def add (store : Store) (node : Node) : Except StoreError Store :=
  match store.byId.get? node.id with
  | none => .ok (store.put node)
  | some existing =>
      if existing.type = node.type then .ok (store.put node)
      else .error (.typeChanged node.id existing.type node.type)

/-- The nodes by type without the one of a type with an id. A type without nodes is not kept. -/
def withoutInType (byType : Dict (Dict Node)) (type id : String) : Dict (Dict Node) :=
  match byType.get? type with
  | none => byType
  | some nodes =>
      if (nodes.erase id).isEmpty then byType.erase type else byType.insert type (nodes.erase id)

/-- Remove all that is kept for the node of a type with an id. -/
def remove (store : Store) (type id : String) : Store where
  byId := store.byId.erase id
  byType := withoutInType store.byType type id
  overlays := store.overlays.forget type id
  generation := store.generation + 1

/-- Delete the node with an id. Without such a node nothing changes. -/
def delete (store : Store) (id : String) : Option Node × Store :=
  match store.byId.get? id with
  | none => (none, store)
  | some node => (some node, store.remove node.type id)

/-- The node with an id. -/
def get? (store : Store) (id : String) : Option Node := store.byId.get? id

/-- All nodes, in the order of their ids. -/
def nodes (store : Store) : List Node := store.byId.values

/-- The nodes of a type, in the order of their ids. -/
def nodesOfType (store : Store) (type : String) : List Node := (store.ofType type).values

/-- The types that have nodes. -/
def types (store : Store) : List String := store.byType.keys

/-- The number of nodes. -/
def size (store : Store) : Nat := store.byId.size

/-- The content of a node differs from what a digest was taken of. A node that is not
there counts as changed. -/
def hasChanged (store : Store) (id digest : String) : Bool :=
  match store.get? id with
  | some node => node.digest != digest
  | none => true

/-- A node with its overlay. -/
def stamp (store : Store) (node : Node) : StampedNode :=
  ⟨node, store.overlays.get? node.type node.id⟩

/-- The stamped node of a type with an id. -/
def stampedOfType? (store : Store) (type id : String) : Option StampedNode :=
  ((store.ofType type).get? id).map store.stamp

/-- The stamped nodes of a type, in the order of their ids. -/
def stampedOfType (store : Store) (type : String) : List StampedNode :=
  (store.nodesOfType type).map store.stamp

/-- The stamped node with an id, if its type is among some types. -/
def findAmong? (store : Store) (id : String) (types : List String) : Option StampedNode :=
  match store.get? id with
  | some node => if types.contains node.type then some (store.stamp node) else none
  | none => none

/-- Put new overlays in place of those of a type. -/
def withOverlays (store : Store) (type : String) (values : Dict Json) : Store :=
  { store with
    overlays := store.overlays.replace type values
    generation := store.generation + 1 }

end Store

end TypedStore
