import TypedStore.Proofs.Entries
import TypedStore.Proofs.Node.Identity
import TypedStore.Store.Basic

/-!
# Consistent stores

A store keeps every node twice, by its id and by its type. In a consistent store the
two views agree: the nodes of a type are those of the store that have it. What
changes a store keeps it consistent.
-/

namespace TypedStore.Store

/-- The views of a store by id and by type agree, and it holds nodes that can be made. -/
structure Consistent (store : Store) : Prop where
  made : ∀ id node, store.get? id = some node → node.Made
  id_eq : ∀ id node, store.get? id = some node → node.id = id
  /-- What is found among the nodes of a type is the node with the id, if it has the type. -/
  ofType_get? : ∀ type id,
    (store.ofType type).get? id = (store.get? id).filter fun node => node.type = type
  /-- A type without nodes is not kept. -/
  occupied : ∀ type nodes, store.byType.get? type = some nodes → nodes.isEmpty = false

variable {store : Store} {node : Node} {id type : String}

@[simp] theorem get?_put (store : Store) (node : Node) (id : String) :
    (store.put node).get? id = if node.id = id then some node else store.get? id := by
  simp [put, get?]

@[simp] theorem get?_remove (store : Store) (type id key : String) :
    (store.remove type id).get? key = if id = key then none else store.get? key := by
  simp [remove, get?]

/-- Putting a node changes only the nodes of its type, and only the one with its id. -/
@[simp] theorem ofType_put_get? (store : Store) (node : Node) (type id : String) :
    ((store.put node).ofType type).get? id =
      if node.type = type ∧ node.id = id then some node else (store.ofType type).get? id := by
  by_cases htype : node.type = type
  · subst htype
    by_cases hid : node.id = id <;> simp [ofType, put, hid]
  · simp [ofType, put, htype]

/-- Removing a node changes only the nodes of its type, and only the one with its id. -/
@[simp] theorem ofType_remove_get? (store : Store) (type id other key : String) :
    ((store.remove type id).ofType other).get? key =
      if type = other ∧ id = key then none else (store.ofType other).get? key := by
  unfold remove ofType withoutInType
  cases hnodes : store.byType.get? type with
  | none =>
    by_cases hkey : type = other ∧ id = key
    · obtain ⟨rfl, rfl⟩ := hkey
      simp [hnodes]
    · simp [hkey]
  | some nodes =>
    by_cases htype : type = other
    · subst htype
      by_cases hempty : (nodes.erase id).isEmpty = true
      · have hnone := Dict.isEmpty_iff.mp hempty key
        rw [Dict.get?_erase] at hnone
        simp [hempty, hnodes, hnone]
      · simp [hempty, hnodes]
    · by_cases hempty : (nodes.erase id).isEmpty = true <;> simp [hempty, htype]

/-- What holds of the nodes of a store and of a node holds after the node was put. -/
theorem forall_get?_put {motive : String → Node → Prop} (hnode : motive node.id node)
    (h : ∀ id found, store.get? id = some found → motive id found) (id : String) (found : Node)
    (hfound : (store.put node).get? id = some found) : motive id found := by
  rw [get?_put] at hfound
  split at hfound
  · rename_i hid
    obtain rfl := Option.some.inj hfound
    exact hid ▸ hnode
  · exact h id found hfound

/-- What holds of the nodes of a store holds after one was removed. -/
theorem forall_get?_remove {motive : String → Node → Prop}
    (h : ∀ id found, store.get? id = some found → motive id found) (key : String) (found : Node)
    (hfound : (store.remove type id).get? key = some found) : motive key found := by
  rw [get?_remove] at hfound
  split at hfound
  · contradiction
  · exact h key found hfound

/-- The store without nodes is consistent. -/
theorem consistent_empty : Consistent empty where
  made := by simp [empty, get?]
  id_eq := by simp [empty, get?]
  ofType_get? := by simp [empty, get?, ofType]
  occupied := by simp [empty]

/-- Putting a node in the place of one of the same type keeps a store consistent. -/
theorem Consistent.put (h : store.Consistent) (made : node.Made)
    (hsame : ∀ existing, store.get? node.id = some existing → existing.type = node.type) :
    (store.put node).Consistent where
  made := forall_get?_put (motive := fun _ found => found.Made) made h.made
  id_eq := forall_get?_put (motive := fun id found => found.id = id) rfl h.id_eq
  ofType_get? := by
    intro type id
    rw [ofType_put_get?, get?_put, h.ofType_get?]
    by_cases hid : node.id = id
    · subst hid
      by_cases htype : node.type = type
      · simp [htype, Option.filter]
      · cases hexisting : store.get? node.id with
        | none => simp [htype, Option.filter]
        | some existing => simp [htype, hsame existing hexisting, Option.filter]
    · simp [hid]
  occupied := by
    intro type nodes hnodes
    rw [Store.put, Dict.get?_insert] at hnodes
    split at hnodes
    · obtain rfl := Option.some.inj hnodes
      rw [← Bool.not_eq_true, Dict.isEmpty_iff]
      intro hnone
      simpa using hnone node.id
    · exact h.occupied type nodes hnodes

/-- Removing a node by its type and id keeps a store consistent. -/
theorem Consistent.remove (h : store.Consistent) (hnode : store.get? id = some node) :
    (store.remove node.type id).Consistent where
  made := forall_get?_remove (motive := fun _ found => found.Made) h.made
  id_eq := forall_get?_remove (motive := fun key found => found.id = key) h.id_eq
  ofType_get? := by
    intro type key
    rw [ofType_remove_get?, get?_remove, h.ofType_get?]
    by_cases hid : id = key
    · subst hid
      by_cases htype : node.type = type <;> simp [htype, hnode, Option.filter]
    · simp [hid]
  occupied := by
    intro type nodes hnodes
    simp only [Store.remove, withoutInType] at hnodes
    split at hnodes
    · exact h.occupied type nodes hnodes
    · split at hnodes
      · rw [Dict.get?_erase] at hnodes
        split at hnodes
        · contradiction
        · exact h.occupied type nodes hnodes
      · rename_i hempty
        rw [Dict.get?_insert] at hnodes
        split at hnodes
        · obtain rfl := Option.some.inj hnodes
          exact Bool.not_eq_true _ ▸ hempty
        · exact h.occupied type nodes hnodes

/-- Overlays are no part of what has to agree. -/
theorem Consistent.withOverlays (h : store.Consistent) (type : String) (values : Dict Json) :
    (store.withOverlays type values).Consistent :=
  ⟨h.made, h.id_eq, h.ofType_get?, h.occupied⟩

/-- A stamped node is what the store has under its id, with the overlay that the store
has for it. -/
structure Current (store : Store) (stamped : StampedNode) : Prop where
  live : store.get? stamped.id = some stamped.node
  stamp_eq : store.stamp stamped.node = stamped

/-- Stamping a node of the store gives a current one. -/
theorem current_stamp (h : store.get? node.id = some node) : store.Current (store.stamp node) :=
  ⟨h, rfl⟩

/-- Exactly the nodes that are found by their ids are listed. -/
theorem Consistent.mem_nodes_iff (h : store.Consistent) :
    node ∈ store.nodes ↔ store.get? node.id = some node := by
  rw [nodes, Dict.mem_values_iff]
  constructor
  · rintro ⟨id, hnode⟩
    rwa [h.id_eq id node hnode]
  · intro hnode
    exact ⟨node.id, hnode⟩

/-- Nodes are listed in increasing order of their ids. -/
theorem Consistent.pairwise_nodes (h : store.Consistent) :
    store.nodes.Pairwise fun a b => a.id < b.id :=
  Dict.pairwise_values h.id_eq

/-- What is found among the nodes of a type is a node of the store that has the type. -/
theorem Consistent.ofType_get?_eq_some_iff (h : store.Consistent) :
    (store.ofType type).get? id = some node ↔ store.get? id = some node ∧ node.type = type := by
  rw [h.ofType_get?, Option.filter_eq_some_iff]
  simp

/-- Exactly the nodes of the store that have a type are listed for the type. -/
theorem Consistent.mem_nodesOfType_iff (h : store.Consistent) :
    node ∈ store.nodesOfType type ↔ store.get? node.id = some node ∧ node.type = type := by
  simp only [nodesOfType, Dict.mem_values_iff, h.ofType_get?_eq_some_iff]
  constructor
  · rintro ⟨id, hnode, htype⟩
    exact ⟨h.id_eq id node hnode ▸ hnode, htype⟩
  · intro hnode
    exact ⟨node.id, hnode⟩

/-- The nodes of a type are listed in increasing order of their ids. -/
theorem Consistent.pairwise_nodesOfType (h : store.Consistent) (type : String) :
    (store.nodesOfType type).Pairwise fun a b => a.id < b.id :=
  Dict.pairwise_values fun id node hnode => h.id_eq id node (h.ofType_get?_eq_some_iff.mp hnode).1

/-- A node is found among some types by its id if it has one of them. -/
theorem findAmong?_eq_some_iff {types : List String} {stamped : StampedNode} :
    store.findAmong? id types = some stamped ↔
      ∃ node, store.get? id = some node ∧ node.type ∈ types ∧ stamped = store.stamp node := by
  unfold findAmong?
  cases store.get? id with
  | none => simp
  | some node => by_cases htype : node.type ∈ types <;> simp [htype, eq_comm]

/-- What is found among some types by its id is the current node with the id, if it has one of
them. -/
theorem Consistent.findAmong?_iff_current (h : store.Consistent) {types : List String}
    {stamped : StampedNode} :
    store.findAmong? id types = some stamped ↔
      store.Current stamped ∧ stamped.type ∈ types ∧ stamped.id = id := by
  rw [findAmong?_eq_some_iff]
  constructor
  · rintro ⟨node, hlive, htype, rfl⟩
    obtain rfl := h.id_eq id node hlive
    exact ⟨current_stamp hlive, htype, rfl⟩
  · rintro ⟨hcurrent, htype, rfl⟩
    exact ⟨stamped.node, hcurrent.live, htype, hcurrent.stamp_eq.symm⟩

/-- A node is found in a type by its id if it has the type. -/
theorem Consistent.stampedOfType?_eq_some_iff (h : store.Consistent) {stamped : StampedNode} :
    store.stampedOfType? type id = some stamped ↔
      ∃ node, store.get? id = some node ∧ node.type = type ∧ stamped = store.stamp node := by
  simp only [stampedOfType?, Option.map_eq_some_iff, h.ofType_get?_eq_some_iff, and_assoc,
    @eq_comm _ stamped]

/-- Exactly the nodes of the store that have a type are listed for it with their overlays. -/
theorem Consistent.mem_stampedOfType_iff (h : store.Consistent) {stamped : StampedNode} :
    stamped ∈ store.stampedOfType type ↔
      ∃ node, store.get? node.id = some node ∧ node.type = type ∧ stamped = store.stamp node := by
  simp only [stampedOfType, List.mem_map, h.mem_nodesOfType_iff, and_assoc, @eq_comm _ stamped]

end TypedStore.Store
