import TypedStore.Proofs.Store.Consistency
import TypedStore.Store.Refresh

/-!
# Histories of a store

A store comes from the empty one by additions, deletions and refreshes, any of which
may be refused or fail. All stores with a history are consistent, and the generation
tells whether anything has changed.
-/

namespace TypedStore

/-- A change that is asked of a store. -/
inductive Change where
  | add (node : Node) (made : node.Made)
  | delete (id : String)
  | refresh (scheduling : Scheduling) (passes : List Pass)

namespace Store

/-- The store after a change was asked of it. A refused addition changes nothing, and a
refresh that fails keeps what it has changed before. -/
def change (store : Store) : Change → Store
  | .add node _ =>
      match store.add node with
      | .ok added => added
      | .error _ => store
  | .delete id => (store.delete id).2
  | .refresh scheduling passes => (store.refresh scheduling passes).store

/-- A store that has a history. -/
inductive Reachable : Store → Prop
  | empty : Reachable empty
  | change {store : Store} (reachable : Reachable store) (c : Change) : Reachable (store.change c)

variable {store : Store}

/-- A node is added unless one with its id has another type. -/
theorem add_eq_ok_iff {node : Node} {added : Store} :
    store.add node = .ok added ↔
      added = store.put node ∧
        ∀ existing, store.get? node.id = some existing → existing.type = node.type := by
  simp only [add, get?]
  cases store.byId.get? node.id with
  | none => simp [@eq_comm _ added]
  | some existing =>
    by_cases htype : existing.type = node.type <;> simp [htype, @eq_comm _ added]

/-- An addition that was asked for has put the node or has changed nothing. -/
theorem change_add_eq (store : Store) {node : Node} (made : node.Made) :
    (store.change (.add node made) = store.put node ∧
        ∀ existing, store.get? node.id = some existing → existing.type = node.type) ∨
      store.change (.add node made) = store := by
  cases hadd : store.add node with
  | error _ => exact Or.inr (by simp [change, hadd])
  | ok added =>
    have hchange : store.change (.add node made) = added := by simp [change, hadd]
    rw [hchange]
    exact Or.inl (add_eq_ok_iff.mp hadd)

/-- A deletion that was asked for has removed a node or has changed nothing. -/
theorem change_delete_eq (store : Store) (id : String) :
    (∃ node, store.get? id = some node ∧
        store.change (.delete id) = store.remove node.type id) ∨
      store.change (.delete id) = store := by
  cases hnode : store.byId.get? id with
  | none => exact Or.inr (by simp [change, delete, hnode])
  | some node => exact Or.inl ⟨node, hnode, by simp [change, delete, hnode]⟩

/-- A refresh does nothing but put new overlays in place of old ones, so it keeps what
this keeps. -/
theorem refresh_induction {motive : Store → Prop}
    (hoverlays : ∀ store type values, motive store → motive (store.withOverlays type values))
    (scheduling : Scheduling) (passes : List Pass) (h : motive store) :
    motive (store.refresh scheduling passes).store := by
  induction passes generalizing store with
  | nil => exact h
  | cons pass rest ih =>
    simp only [refresh]
    split
    · exact ih h
    · split
      · exact h
      · exact ih (hoverlays _ _ _ h)

/-- Every change keeps a store consistent. -/
theorem Consistent.change (h : store.Consistent) (c : Change) : (store.change c).Consistent := by
  cases c with
  | add node made =>
    rcases change_add_eq store made with ⟨heq, hsame⟩ | heq
    · rw [heq]
      exact h.put made hsame
    · rwa [heq]
  | delete id =>
    rcases change_delete_eq store id with ⟨node, hnode, heq⟩ | heq
    · rw [heq]
      exact h.remove hnode
    · rwa [heq]
  | refresh scheduling passes =>
    exact refresh_induction (fun _ type values h => h.withOverlays type values) _ _ h

/-- A store with a history is consistent. -/
theorem Reachable.consistent (reachable : store.Reachable) : store.Consistent := by
  induction reachable with
  | empty => exact consistent_empty
  | change _ c ih => exact ih.change c

/-- Whatever changes a store raises its generation. -/
theorem change_eq_or_generation_lt (store : Store) (c : Change) :
    store.change c = store ∨ store.generation < (store.change c).generation := by
  cases c with
  | add node made =>
    rcases change_add_eq store made with ⟨heq, -⟩ | heq
    · exact Or.inr (by simp [heq, put])
    · exact Or.inl heq
  | delete id =>
    rcases change_delete_eq store id with ⟨node, -, heq⟩ | heq
    · exact Or.inr (by simp [heq, remove])
    · exact Or.inl heq
  | refresh scheduling passes =>
    refine refresh_induction (motive := fun after => after = store ∨
      store.generation < after.generation) ?_ _ _ (Or.inl rfl)
    intro after type values h
    refine Or.inr (?_ : store.generation < after.generation + 1)
    rcases h with rfl | hlt <;> omega

end Store

end TypedStore
