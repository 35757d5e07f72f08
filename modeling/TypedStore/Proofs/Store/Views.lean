import TypedStore.Proofs.Store.Past

/-!
# One map seen two ways

After any history, what a store holds is a map from ids to nodes: under an id stands the
node that was last added with it and not deleted since. The lists of the nodes of a type
and of the types are read off this map, whatever the order of the changes was. Additions
and deletions that change the store are counted one by one, all others leave it as it is.
-/

namespace TypedStore.Store

/-- A change adds a node with an id: the addition is asked for and not refused. -/
def Adds (store : Store) (id : String) (node : Node) (c : Change) : Prop :=
  node.id = id ∧ ∃ made added, c = .add node made ∧ store.add node = .ok added

/-- A change takes the place of what stands under an id: it deletes the id or adds a node
with it. -/
def Displaces (store : Store) (id : String) (c : Change) : Prop :=
  c = .delete id ∨ ∃ node, store.Adds id node c

/-- All that a store lists or finds is read off the map from ids to nodes. -/
structure TwoViews (store : Store) : Prop where
  mem_nodes_iff : ∀ node, node ∈ store.nodes ↔ store.get? node.id = some node
  nodes_ascending : store.nodes.Pairwise fun a b => a.id < b.id
  mem_nodesOfType_iff : ∀ type node,
    node ∈ store.nodesOfType type ↔ store.get? node.id = some node ∧ node.type = type
  nodesOfType_ascending : ∀ type, (store.nodesOfType type).Pairwise fun a b => a.id < b.id
  mem_types_iff : ∀ type,
    type ∈ store.types ↔ ∃ id node, store.get? id = some node ∧ node.type = type
  types_ascending : store.types.Pairwise fun a b => a < b
  /-- An id stands under one type only. -/
  existsUnique_type : ∀ id node, store.get? id = some node →
    ∃! type, ∃ found ∈ store.nodesOfType type, found.id = id
  stampedOfType?_eq_some_iff : ∀ type id stamped, store.stampedOfType? type id = some stamped ↔
    ∃ node, store.get? id = some node ∧ node.type = type ∧ stamped = store.stamp node
  mem_stampedOfType_iff : ∀ type stamped, stamped ∈ store.stampedOfType type ↔
    ∃ node, store.get? node.id = some node ∧ node.type = type ∧ stamped = store.stamp node
  findAmong?_eq_some_iff : ∀ id types stamped, store.findAmong? id types = some stamped ↔
    ∃ node, store.get? id = some node ∧ node.type ∈ types ∧ stamped = store.stamp node

/-- Additions and deletions raise the generation by one or change nothing. -/
structure CountsWrites (store : Store) : Prop where
  /-- An addition is refused exactly if the id is there with another type. -/
  add_eq_error_iff : ∀ node e, store.add node = .error e ↔
    ∃ existing, store.get? node.id = some existing ∧ existing.type ≠ node.type ∧
      e = .typeChanged node.id existing.type node.type
  change_of_refused : ∀ node made e, store.add node = .error e →
    store.change (.add node made) = store
  generation_of_added : ∀ node made added, store.add node = .ok added →
    store.change (.add node made) = added ∧ added.generation = store.generation + 1
  delete_of_absent : ∀ id, store.get? id = none → store.delete id = (none, store)
  generation_of_deleted : ∀ id node, store.get? id = some node →
    (store.delete id).1 = some node ∧ (store.delete id).2.generation = store.generation + 1

variable {store : Store} {id type : String} {node : Node} {c : Change}

/-- An addition is refused exactly if the id is there with another type, and puts the node
into the store otherwise. -/
theorem add_cases (store : Store) (node : Node) :
    (∃ existing, store.get? node.id = some existing ∧ existing.type ≠ node.type ∧
        store.add node = .error (.typeChanged node.id existing.type node.type)) ∨
      (∀ existing, store.get? node.id = some existing → existing.type = node.type) ∧
        store.add node = .ok (store.put node) := by
  cases hexisting : store.get? node.id with
  | none =>
    have hadd : store.add node = .ok (store.put node) :=
      add_eq_ok_iff.mpr ⟨rfl, by simp [hexisting]⟩
    exact Or.inr ⟨by simp, hadd⟩
  | some existing =>
    by_cases htype : existing.type = node.type
    · have hsame : ∀ other, some existing = some other → other.type = node.type := by
        rintro other ⟨⟩
        exact htype
      exact Or.inr ⟨hsame, add_eq_ok_iff.mpr ⟨rfl, hexisting ▸ hsame⟩⟩
    · refine Or.inl ⟨existing, rfl, htype, ?_⟩
      rw [get?] at hexisting
      simp [add, hexisting, htype]

/-- In every store, additions and deletions are counted. -/
theorem countsWrites (store : Store) : store.CountsWrites where
  add_eq_error_iff := by
    intro node e
    constructor
    · intro hadd
      rcases store.add_cases node with ⟨existing, hexisting, htype, hrefused⟩ | ⟨-, hadded⟩
      · exact ⟨existing, hexisting, htype, Except.error.inj (hadd.symm.trans hrefused)⟩
      · exact absurd (hadd.symm.trans hadded) (by simp)
    · rintro ⟨existing, hexisting, htype, rfl⟩
      rcases store.add_cases node with ⟨other, hother, -, hrefused⟩ | ⟨hsame, -⟩
      · obtain rfl := Option.some.inj (hexisting.symm.trans hother)
        exact hrefused
      · exact absurd (hsame existing hexisting) htype
  change_of_refused := by
    intro node made e hadd
    simp [change, hadd]
  generation_of_added := by
    intro node made added hadd
    obtain ⟨rfl, -⟩ := add_eq_ok_iff.mp hadd
    exact ⟨by simp [change, hadd], rfl⟩
  delete_of_absent := by
    intro id hnone
    rw [get?] at hnone
    simp [delete, hnone]
  generation_of_deleted := by
    intro id node hnode
    rw [get?] at hnode
    simp [delete, hnode, remove]

/-- A deletion leaves nothing under its id and keeps all else. -/
theorem get?_change_delete (store : Store) (id key : String) :
    (store.change (.delete id)).get? key = if id = key then none else store.get? key := by
  cases hnode : store.get? id with
  | none =>
    have hkept := store.countsWrites.delete_of_absent id hnode
    by_cases hkey : id = key
    · subst hkey
      simp [change, hkept, hnode]
    · simp [change, hkept, hkey]
  | some node =>
    rw [get?] at hnode
    simp [change, delete, hnode]

/-- A refresh keeps the nodes, by id and by type. -/
theorem refresh_nodes (store : Store) (scheduling : Scheduling) (passes : List Pass) :
    (store.refresh scheduling passes).store.byId = store.byId ∧
      (store.refresh scheduling passes).store.byType = store.byType :=
  refresh_induction
    (motive := fun after => after.byId = store.byId ∧ after.byType = store.byType)
    (fun _ _ _ h => h) scheduling passes ⟨rfl, rfl⟩

/-- What stands under an id after a change was added by it, or was there and was not
displaced. -/
theorem get?_change_eq_some_iff :
    (store.change c).get? id = some node ↔
      store.Adds id node c ∨ store.get? id = some node ∧ ¬store.Displaces id c := by
  cases c with
  | add other made =>
    cases hadd : store.add other with
    | error e =>
      rw [store.countsWrites.change_of_refused other made e hadd]
      have hnone (found : Node) : ¬store.Adds id found (.add other made) := by
        rintro ⟨-, _, added, hsame, hadded⟩
        obtain ⟨rfl⟩ := hsame
        simp [hadd] at hadded
      simp [Displaces, hnone]
    | ok added =>
      obtain ⟨rfl, -⟩ := add_eq_ok_iff.mp hadd
      have hadds (found : Node) :
          store.Adds id found (.add other made) ↔ other.id = id ∧ other = found := by
        constructor
        · rintro ⟨rfl, _, added, hsame, -⟩
          obtain ⟨rfl⟩ := hsame
          exact ⟨rfl, rfl⟩
        · rintro ⟨hid, rfl⟩
          exact ⟨hid, made, _, rfl, hadd⟩
      rw [(store.countsWrites.generation_of_added other made _ hadd).1, get?_put]
      by_cases hid : other.id = id <;> simp [Displaces, hadds, hid]
  | delete other =>
    rw [get?_change_delete]
    by_cases hid : other = id <;> simp [Adds, Displaces, hid]
  | refresh scheduling passes =>
    simp [change, get?, refresh_nodes, Adds, Displaces]

/-- After a history, under an id stands the node that was last added with it and not deleted
since. -/
theorem get?_ofHistory_eq_some_iff (history : List Change) :
    (ofHistory history).get? id = some node ↔
      Since (fun store c => store.Adds id node c) (fun store c => store.Displaces id c)
        history := by
  induction history using List.reverseRecOn with
  | nil => simp [not_since_nil, ofHistory, empty, get?]
  | append_singleton history c ih =>
    rw [ofHistory_append_singleton, get?_change_eq_some_iff, since_append_singleton_iff, ih]

/-- A type is kept exactly if some node has it. -/
theorem Consistent.exists_byType_iff (h : store.Consistent) :
    (∃ nodes, store.byType.get? type = some nodes) ↔
      ∃ id node, store.get? id = some node ∧ node.type = type := by
  constructor
  · rintro ⟨nodes, hnodes⟩
    have hoccupied : ¬∀ id, nodes.get? id = none := by
      rw [← Dict.isEmpty_iff, h.occupied type nodes hnodes]
      exact Bool.false_ne_true
    obtain ⟨id, hid⟩ := not_forall.mp hoccupied
    obtain ⟨node, hnode⟩ := Option.ne_none_iff_exists'.mp hid
    have hofType : (store.ofType type).get? id = some node := by simpa [ofType, hnodes] using hnode
    exact ⟨id, node, h.ofType_get?_eq_some_iff.mp hofType⟩
  · rintro ⟨id, node, hnode⟩
    have hofType : (store.ofType type).get? id = some node := h.ofType_get?_eq_some_iff.mpr hnode
    cases hnodes : store.byType.get? type with
    | none => simp [ofType, hnodes] at hofType
    | some nodes => exact ⟨nodes, rfl⟩

/-- The nodes by type are determined by the nodes by id. -/
theorem Consistent.byType_eq {a b : Store} (ha : a.Consistent) (hb : b.Consistent)
    (h : ∀ id, a.get? id = b.get? id) : a.byType = b.byType := by
  apply Dict.ext_get?
  intro type
  have hofType : a.ofType type = b.ofType type := by
    apply Dict.ext_get?
    intro id
    rw [ha.ofType_get?, hb.ofType_get?, h]
  have hkept : (∃ nodes, a.byType.get? type = some nodes) ↔
      ∃ nodes, b.byType.get? type = some nodes := by
    simp only [ha.exists_byType_iff, hb.exists_byType_iff, h]
  unfold ofType at hofType
  cases hnodes : a.byType.get? type with
  | none =>
    cases hothers : b.byType.get? type with
    | none => rfl
    | some others => simp [hnodes, hothers] at hkept
  | some nodes =>
    obtain ⟨others, hothers⟩ := hkept.mp ⟨nodes, hnodes⟩
    rw [hnodes, hothers] at hofType
    rw [hothers]
    exact congrArg some hofType

/-- In a consistent store all is read off the map. -/
theorem Consistent.twoViews (h : store.Consistent) : store.TwoViews where
  mem_nodes_iff := fun _ => h.mem_nodes_iff
  nodes_ascending := h.pairwise_nodes
  mem_nodesOfType_iff := fun _ _ => h.mem_nodesOfType_iff
  nodesOfType_ascending := h.pairwise_nodesOfType
  mem_types_iff := fun type => Dict.mem_keys_iff.trans h.exists_byType_iff
  types_ascending := Dict.pairwise_keys _
  existsUnique_type := by
    intro id node hnode
    have hid := h.id_eq id node hnode
    refine ⟨node.type, ⟨node, h.mem_nodesOfType_iff.mpr ⟨hid ▸ hnode, rfl⟩, hid⟩, ?_⟩
    rintro type ⟨found, hfound, rfl⟩
    obtain ⟨hlive, rfl⟩ := h.mem_nodesOfType_iff.mp hfound
    obtain rfl := Option.some.inj (hlive.symm.trans hnode)
    rfl
  stampedOfType?_eq_some_iff := fun _ _ _ => h.stampedOfType?_eq_some_iff
  mem_stampedOfType_iff := fun _ _ => h.mem_stampedOfType_iff
  findAmong?_eq_some_iff := fun _ _ _ => Store.findAmong?_eq_some_iff

/-- After any history, under an id stands the node that was last added with it and not
deleted since; the nodes of a type and the types are read off this map, and both maps of the
store are the same after every history that leaves the same nodes; an addition is refused
exactly if the id is there with another type, and what is refused or finds nothing to delete
changes nothing, while every other addition and deletion raises the generation by one. -/
theorem ofHistory_views (history : List Change) :
    (∀ id node, (ofHistory history).get? id = some node ↔
      Since (fun store c => store.Adds id node c) (fun store c => store.Displaces id c)
        history) ∧
    (ofHistory history).TwoViews ∧
    (∀ other, (∀ id, (ofHistory other).get? id = (ofHistory history).get? id) →
      (ofHistory other).byId = (ofHistory history).byId ∧
        (ofHistory other).byType = (ofHistory history).byType) ∧
    (ofHistory history).CountsWrites := by
  have consistent := consistent_ofHistory history
  refine ⟨fun id node => get?_ofHistory_eq_some_iff history, consistent.twoViews, ?_,
    countsWrites _⟩
  intro other hsame
  exact ⟨Dict.ext_get? hsame, (consistent_ofHistory other).byType_eq consistent hsame⟩

end TypedStore.Store
