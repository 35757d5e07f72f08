import TypedStore.Index.Basic
import TypedStore.Proofs.Index.Key
import TypedStore.Proofs.Store.Consistency

/-!
# Buckets of an index

The bucket of a key holds the nodes that have the key, in the order of the store. So
the bucket of the key of a scalar holds exactly the nodes whose value at the path
equals the scalar.
-/

namespace TypedStore

/-- A node of a store that has one of some types and, at a path, equals a value. -/
structure Store.Qualifies (store : Store) (path : Path) (types : List String) (value : Json)
    (node : Node) : Prop where
  live : store.get? node.id = some node
  typed : node.type ∈ types
  equals : Json.equals (node.at? path) value = true

/-- What an index answers to equality with a value: the stamped nodes that qualify, each
once and in increasing order of their ids. There is no answer to a value that is no
scalar, and none if no node qualifies. -/
structure Store.AnswersEquality (store : Store) (path : Path) (types : List String) (value : Json)
    (answer : Option (List StampedNode)) : Prop where
  eq_none_iff : answer = none ↔
    value.isScalar = false ∨ ∀ node, ¬store.Qualifies path types value node
  ascending : ∀ found, answer = some found → found.Pairwise fun a b => a.id < b.id
  mem_iff : ∀ found, answer = some found → ∀ stamped, stamped ∈ found ↔
    ∃ node, store.Qualifies path types value node ∧ stamped = store.stamp node

/-- The stamped nodes that qualify are current ones. -/
theorem Store.exists_qualifies_iff {store : Store} {path : Path} {types : List String}
    {value : Json} {stamped : StampedNode} :
    (∃ node, store.Qualifies path types value node ∧ stamped = store.stamp node) ↔
      store.Current stamped ∧ stamped.type ∈ types ∧
        Json.equals (stamped.node.at? path) value = true := by
  constructor
  · rintro ⟨node, hnode, rfl⟩
    exact ⟨store.current_stamp hnode.live, hnode.typed, hnode.equals⟩
  · rintro ⟨hcurrent, htyped, hequals⟩
    exact ⟨stamped.node, ⟨hcurrent.live, htyped, hequals⟩, hcurrent.stamp_eq.symm⟩

/-- Stamped nodes in increasing order of their ids are distinct. -/
theorem StampedNode.nodup_of_ascending {nodes : List StampedNode}
    (h : nodes.Pairwise fun a b => a.id < b.id) : nodes.Nodup := by
  refine h.imp ?_
  intro a b hlt heq
  subst heq
  exact String.lt_irrefl _ hlt

/-- Stamped nodes in increasing order of their ids are determined by which ones they are. -/
theorem StampedNode.eq_of_ascending {as bs : List StampedNode}
    (ha : as.Pairwise fun a b => a.id < b.id) (hb : bs.Pairwise fun a b => a.id < b.id)
    (h : ∀ stamped, stamped ∈ as ↔ stamped ∈ bs) : as = bs := by
  have hperm : as.Perm bs :=
    (List.perm_ext_iff_of_nodup (nodup_of_ascending ha) (nodup_of_ascending hb)).mpr h
  refine hperm.eq_of_pairwise (fun a b _ _ hab hba => ?_) ha hb
  exact absurd (String.lt_trans hab hba) (String.lt_irrefl _)

/-- There is only one answer. -/
theorem Store.AnswersEquality.unique {store : Store} {path : Path} {types : List String}
    {value : Json} {a b : Option (List StampedNode)}
    (ha : store.AnswersEquality path types value a)
    (hb : store.AnswersEquality path types value b) : a = b := by
  cases a with
  | none => exact (hb.eq_none_iff.mpr (ha.eq_none_iff.mp rfl)).symm
  | some as =>
    cases b with
    | none => exact ha.eq_none_iff.mpr (hb.eq_none_iff.mp rfl)
    | some bs =>
      congr 1
      refine StampedNode.eq_of_ascending (ha.ascending as rfl) (hb.ascending bs rfl) ?_
      intro stamped
      rw [ha.mem_iff as rfl, hb.mem_iff bs rfl]

namespace FieldIndex

/-- The nodes of a store that have one of some types and, at a path, a key. -/
def bearers (store : Store) (path : Path) (types : List String) (key : IndexKey) : List Node :=
  (store.nodes.filter fun node => types.contains node.type).filter fun node =>
    (keysOf path node).contains key

/-- No node is found twice under one key. -/
theorem nodup_keysOf (path : Path) (node : Node) : (keysOf path node).Nodup := by
  unfold keysOf
  split
  · exact IndexKey.nodup_allOf _
  · exact List.nodup_nil

/-- A node has the key of a scalar exactly if its value equals the scalar. -/
theorem mem_keysOf_iff {path : Path} {node : Node} {value : Json} {key : IndexKey}
    (h : IndexKey.ofJson? value = some key) :
    key ∈ keysOf path node ↔ Json.equals (node.at? path) value = true := by
  unfold keysOf
  cases node.at? path with
  | none => simp [IndexKey.equals_none h]
  | some actual => exact IndexKey.mem_allOf_iff h

/-- Posting nodes one after another adds to the bucket of a key those that are posted
under the key, in order. -/
theorem get?_foldl_post (postings : List (IndexKey × StampedNode))
    (buckets : Table IndexKey (List StampedNode)) (key : IndexKey) :
    (postings.foldl post buckets).get? key =
      match (postings.filter fun posting => posting.1 = key).map Prod.snd with
      | [] => buckets.get? key
      | node :: nodes => some ((buckets.get? key).getD [] ++ node :: nodes) := by
  -- The buckets that are there already stand for what was posted before.
  induction postings generalizing buckets with
  | nil => rfl
  | cons posting rest ih =>
    obtain ⟨other, stamped⟩ := posting
    rw [List.foldl_cons, ih, post, Table.get?_set]
    by_cases hkey : other = key
    · subst hkey
      cases hrest : (rest.filter fun posting => posting.1 = other).map Prod.snd <;> simp [hrest]
    · simp [hkey]

/-- The postings under a key are those of its bearers. -/
theorem postings_of_key (store : Store) (path : Path) (types : List String) (key : IndexKey) :
    ((postings store path types).filter fun posting => posting.1 = key).map Prod.snd =
      (bearers store path types key).map store.stamp := by
  have hkeys (node : Node) : ((keysOf path node).filter fun other => other = key) =
      if (keysOf path node).contains key then [key] else [] := by
    rw [List.filter_eq]
    by_cases hmem : key ∈ keysOf path node
    · simp [hmem, (nodup_keysOf path node).count]
    · simp [hmem, List.count_eq_zero_of_not_mem hmem]
  unfold postings bearers
  induction store.nodes.filter fun node => types.contains node.type with
  | nil => rfl
  | cons node rest ih =>
    rw [List.flatMap_cons, List.filter_append, List.map_append, ih, List.filter_map,
      List.filter_cons]
    have hnode := hkeys node
    simp only [Function.comp_def] at hnode ⊢
    rw [hnode]
    split <;> simp [*]

/-- The bucket of a key holds the stamped bearers of the key; without bearers there is
no bucket. -/
theorem bucket?_build (store : Store) (path : Path) (types : List String) (key : IndexKey) :
    (build store path types).bucket? key =
      match (bearers store path types key).map store.stamp with
      | [] => none
      | node :: nodes => some (node :: nodes) := by
  simp only [bucket?, build, get?_foldl_post, postings_of_key]
  cases (bearers store path types key).map store.stamp <;> simp [Table.get?]

variable {store : Store} {path : Path} {types : List String} {value : Json} {key : IndexKey}

/-- The bearers of the key of a scalar are the nodes that qualify. -/
theorem mem_bearers_iff (consistent : store.Consistent) (h : IndexKey.ofJson? value = some key)
    {node : Node} :
    node ∈ bearers store path types key ↔ store.Qualifies path types value node := by
  simp only [bearers, List.mem_filter, consistent.mem_nodes_iff, List.contains_iff_mem,
    mem_keysOf_iff h]
  constructor
  · rintro ⟨⟨hlive, htyped⟩, hequals⟩
    exact ⟨hlive, htyped, hequals⟩
  · rintro ⟨hlive, htyped, hequals⟩
    exact ⟨⟨hlive, htyped⟩, hequals⟩

/-- Bearers are listed in increasing order of their ids. -/
theorem pairwise_bearers (consistent : store.Consistent) :
    (bearers store path types key).Pairwise fun a b => a.id < b.id :=
  (consistent.pairwise_nodes.filter _).filter _

/-- What a bucket of an index that was built from a store holds are the stamped bearers of the
key. -/
theorem eq_of_bucket?_build {found : List StampedNode}
    (h : (build store path types).bucket? key = some found) :
    found = (bearers store path types key).map store.stamp := by
  rw [bucket?_build] at h
  split at h
  · contradiction
  · rename_i hbearers
    rw [hbearers]
    exact (Option.some.inj h).symm

/-- A bucket of an index that was built from a store holds current nodes of the types that
the index was built for. -/
theorem current_of_mem_bucket? (consistent : store.Consistent) {found : List StampedNode}
    (h : (build store path types).bucket? key = some found) {stamped : StampedNode}
    (hmem : stamped ∈ found) : store.Current stamped ∧ stamped.type ∈ types := by
  obtain ⟨node, hnode, rfl⟩ := List.mem_map.mp (eq_of_bucket?_build h ▸ hmem)
  simp only [bearers, List.mem_filter, consistent.mem_nodes_iff, List.contains_iff_mem] at hnode
  exact ⟨store.current_stamp hnode.1.1, hnode.1.2⟩

/-- A bucket of an index that was built from a store holds no two nodes with one id. -/
theorem nodup_ids_of_bucket? (consistent : store.Consistent) {found : List StampedNode}
    (h : (build store path types).bucket? key = some found) :
    (found.map StampedNode.id).Nodup := by
  rw [eq_of_bucket?_build h, List.map_map]
  exact List.pairwise_map.mpr ((pairwise_bearers consistent).imp String.ne_of_lt)

/-- An index that has just been built answers equality. -/
theorem answersEquality_build (consistent : store.Consistent) (path : Path) (types : List String)
    (value : Json) :
    store.AnswersEquality path types value
      ((IndexKey.ofJson? value).bind (build store path types).bucket?) := by
  cases hkey : IndexKey.ofJson? value with
  | none =>
    have hscalar := IndexKey.ofJson?_eq_none_iff.mp hkey
    exact ⟨by simp [hscalar], by simp, by simp⟩
  | some key =>
    have hscalar : value.isScalar ≠ false := fun h => by
      rw [IndexKey.ofJson?_eq_none_iff.mpr h] at hkey
      contradiction
    rw [Option.bind_some, bucket?_build]
    have hmem {node : Node} :
        node ∈ bearers store path types key ↔ store.Qualifies path types value node :=
      mem_bearers_iff consistent hkey
    have hascending : ((bearers store path types key).map store.stamp).Pairwise
        fun a b => a.id < b.id :=
      List.pairwise_map.mpr (pairwise_bearers consistent)
    cases hbearers : bearers store path types key with
    | nil =>
      refine ⟨?_, by simp, by simp⟩
      have hnone : ∀ node, ¬store.Qualifies path types value node := fun node => by
        rw [← hmem, hbearers]
        simp
      simp [hnone]
    | cons node nodes =>
      rw [hbearers] at hmem hascending
      refine ⟨?_, ?_, ?_⟩
      · have hsome := hmem.mp (List.mem_cons_self ..)
        simp only [List.map_cons, reduceCtorEq, hscalar, false_or, false_iff]
        exact fun hnone => hnone node hsome
      · rintro found hfound
        obtain rfl := Option.some.inj hfound
        exact hascending
      · rintro found hfound stamped
        obtain rfl := Option.some.inj hfound
        simp only [← List.map_cons, List.mem_map, hmem, eq_comm]

end FieldIndex

end TypedStore
