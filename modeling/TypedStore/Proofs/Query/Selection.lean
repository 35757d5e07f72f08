import TypedStore.Proofs.Query.Sorting
import TypedStore.Proofs.Store.Consistency
import TypedStore.Query.Execution

/-!
# Candidates and what is selected from them

The candidates of a query are the current nodes of its types. Sorting and taking the
first one select from what they are given. A condition of a filter is read from the
overlay of a node if its path is redirected, and from the node itself otherwise.
-/

namespace TypedStore

namespace Filter

variable {redirects : Redirects} {path : String}

/-- A redirected condition is read from the overlay. -/
theorem matchesNode_of_covers (hcovers : redirects.covers path = true) (condition : Condition)
    (stamped : StampedNode) :
    matchesNode ⟨[(redirects.target path, condition)]⟩ stamped =
      condition.holds (stamped.overlay.bind fun value => value.at? (Path.split path)) := by
  simp [matchesNode, matchesView, clausesHold, Redirects.target, hcovers, StampedNode.at?]

/-- A condition that is not redirected is read from the node itself. -/
theorem matchesNode_of_not_covers (hcovers : redirects.covers path = false) {name : String}
    {rest : Path} (hsplit : Path.split path = name :: rest) (hname : name ≠ overlaySegment)
    (condition : Condition) (stamped : StampedNode) :
    matchesNode ⟨[(redirects.target path, condition)]⟩ stamped =
      condition.holds (stamped.node.at? (name :: rest)) := by
  simp [matchesNode, matchesView, clausesHold, Redirects.target, hcovers, hsplit,
    StampedNode.at?, hname]

end Filter

namespace Query

open Std (OrientedCmp TransCmp)

/-- A text is among the distinct ones of a list exactly if it is in the list. -/
theorem mem_distinct {text : String} {texts : List String} :
    text ∈ distinct texts ↔ text ∈ texts := by
  induction texts with
  | nil => simp [distinct]
  | cons first rest ih => by_cases h : text = first <;> simp [distinct, h, ih]

/-- The candidates of a query are the current nodes of its types. -/
theorem mem_candidates_iff {query : Query} {store : Store} (consistent : store.Consistent)
    {stamped : StampedNode} :
    stamped ∈ query.candidates store ↔ store.Current stamped ∧ stamped.type ∈ query.types := by
  simp only [candidates, List.mem_flatMap, mem_distinct, Store.stampedOfType, List.mem_map,
    consistent.mem_nodesOfType_iff]
  constructor
  · rintro ⟨type, htype, node, ⟨hlive, rfl⟩, rfl⟩
    exact ⟨store.current_stamp hlive, htype⟩
  · rintro ⟨hcurrent, htype⟩
    exact ⟨stamped.type, htype, stamped.node, ⟨hcurrent.live, rfl⟩, hcurrent.stamp_eq⟩

/-- The nodes that a lookup of an id answers with are the current ones with this id. -/
theorem mem_answerById_iff {query : Query} {store : Store} (consistent : store.Consistent)
    {id : String} {stamped : StampedNode} :
    stamped ∈ (query.answerById store id).nodes ↔
      store.Current stamped ∧ stamped.type ∈ query.types ∧ stamped.id = id := by
  rw [← consistent.findAmong?_iff_current]
  unfold answerById
  cases store.findAmong? id query.types with
  | none => cases query.firstOnly <;> simp [Outcome.nodes]
  | some only => simp [Outcome.nodes, eq_comm]

/-- Sorting rearranges nodes. -/
theorem perm_sorted (query : Query) (nodes : List StampedNode) :
    (query.sorted nodes).Perm nodes := by
  unfold sorted
  cases query.sort with
  | none => exact .refl nodes
  | some spec => exact spec.perm_sort query.redirects nodes

/-- Sorting neither adds nor drops a node. -/
theorem mem_sorted {query : Query} {nodes : List StampedNode} {stamped : StampedNode} :
    stamped ∈ query.sorted nodes ↔ stamped ∈ nodes :=
  (query.perm_sorted nodes).mem_iff

/-- The order of two nodes in a scan: by the place of the type, then by the id. -/
def scanOrder (types : List String) : Node → Node → Ordering :=
  compareLex (compareOn fun node => typeRank types node.type) (compareOn Node.id)

instance (types : List String) : TransCmp (scanOrder types) :=
  inferInstanceAs (TransCmp (compareLex _ _))

/-- One node comes before another one in a scan exactly if it is the lesser one. -/
theorem scannedBefore_iff {types : List String} {a b : StampedNode} :
    scannedBefore types a b = true ↔ scanOrder types a.node b.node = .lt := by
  have hid : compare a.node.id b.node.id = .lt ↔ a.node.id < b.node.id := compareOfLessAndEq_eq_lt
  simp only [scannedBefore, Bool.or_eq_true, Bool.and_eq_true, decide_eq_true_eq, scanOrder,
    compareLex, compareOn, Ordering.then_eq_lt, Nat.compare_eq_lt, Nat.compare_eq_eq, hid]
  rfl

/-- Where one node is enough, one of the nodes is chosen that no other one comes before. -/
theorem firstScanned_cons (types : List String) (node : StampedNode) (rest : List StampedNode) :
    ∃ chosen ∈ node :: rest, firstScanned types (node :: rest) = some chosen ∧
      ∀ other ∈ node :: rest, scanOrder types other.node chosen.node ≠ .lt := by
  have hchoice (best next : StampedNode) :
      (if scannedBefore types next best then next else best) = best ∧
          (scanOrder types best.node next.node).isLE = true ∨
        (if scannedBefore types next best then next else best) = next ∧
          (scanOrder types next.node best.node).isLE = true := by
    by_cases h : scannedBefore types next best = true
    · exact Or.inr ⟨if_pos h, Ordering.isLE_of_eq_lt (scannedBefore_iff.mp h)⟩
    · refine Or.inl ⟨if_neg h, OrientedCmp.isLE_of_isGE (Ordering.ne_lt_iff_isGE.mp ?_)⟩
      rwa [scannedBefore_iff] at h
  obtain ⟨hmem, hbest⟩ := Comparison.foldl_best
    (fun a b : StampedNode => (scanOrder types a.node b.node).isLE = true)
    (fun _ => Std.ReflCmp.isLE_rfl) (fun _ _ _ => TransCmp.isLE_trans) hchoice node rest
  exact ⟨_, hmem, rfl, fun other hother => OrientedCmp.not_lt_of_isLE (hbest other hother)⟩

/-- The first of some nodes in the order of a scan is one of them. -/
theorem mem_of_firstScanned {types : List String} {nodes : List StampedNode}
    {stamped : StampedNode} (h : firstScanned types nodes = some stamped) : stamped ∈ nodes := by
  cases nodes with
  | nil => simp [firstScanned] at h
  | cons node rest =>
    obtain ⟨chosen, hmem, hchosen, -⟩ := firstScanned_cons types node rest
    rw [hchosen, Option.some.injEq] at h
    rwa [← h]

/-- The first candidate that passes is one of the candidates, and it passes. -/
theorem mem_of_scanFirst {filter : Filter} {nodes : List StampedNode} {stamped : StampedNode}
    (h : (scanFirst filter nodes).1 = some stamped) :
    stamped ∈ nodes ∧ filter.matchesNode stamped = true := by
  induction nodes with
  | nil => simp [scanFirst] at h
  | cons node rest ih =>
    by_cases hpasses : filter.matchesNode node = true
    · rw [scanFirst, if_pos hpasses, Option.some.injEq] at h
      subst h
      exact ⟨List.mem_cons_self .., hpasses⟩
    · rw [scanFirst, if_neg hpasses] at h
      exact ⟨List.mem_cons_of_mem _ (ih h).1, (ih h).2⟩

end Query

end TypedStore
