import TypedStore.Pattern.Dialect
import TypedStore.Proofs.Query.Selection
import TypedStore.Proofs.Store.History

/-!
# The order of a scan

A scan goes through the types of a query in the order in which they are first asked for, and
through the nodes of one type in increasing order of their ids. A plan that holds nodes from
an index has them in another order. Where one node is enough, the one that is chosen from
them is still the one that a scan would come to first.
-/

namespace TypedStore.Query

/-- The types of a query stand in the order of their places. -/
theorem pairwise_distinct (types : List String) :
    (distinct types).Pairwise fun a b => typeRank types a < typeRank types b := by
  induction types with
  | nil => simp [distinct]
  | cons first rest ih =>
    have hrank (type : String) (hne : type ≠ first) :
        typeRank (first :: rest) type = typeRank rest type + 1 := by
      simp [typeRank, List.findIdx_cons, hne.symm]
    rw [distinct, List.pairwise_cons]
    constructor
    · intro type htype
      have hne : type ≠ first := by simpa using (List.mem_filter.mp htype).2
      rw [hrank type hne]
      simp [typeRank, List.findIdx_cons]
    · refine (ih.filter _).imp_of_mem fun {a b} ha hb hlt => ?_
      have hane : a ≠ first := by simpa using (List.mem_filter.mp ha).2
      have hbne : b ≠ first := by simpa using (List.mem_filter.mp hb).2
      rw [hrank a hane, hrank b hbne]
      exact Nat.succ_lt_succ hlt

variable {query : Query} {store : Store}

/-- The candidates of a query stand in the order of a scan. -/
theorem pairwise_candidates (consistent : store.Consistent) :
    ((query.candidates store).map StampedNode.node).Pairwise fun a b =>
      scanOrder query.types a b = .lt := by
  have hnodes : (query.candidates store).map StampedNode.node =
      (distinct query.types).flatMap store.nodesOfType := by
    simp [candidates, List.map_flatMap, Store.stampedOfType, Store.stamp, Function.comp_def]
  rw [hnodes, List.pairwise_flatMap]
  constructor
  · intro type _
    refine (consistent.pairwise_nodesOfType type).imp_of_mem fun {a b} ha hb hlt => ?_
    have hatype := (consistent.mem_nodesOfType_iff.mp ha).2
    have hbtype := (consistent.mem_nodesOfType_iff.mp hb).2
    have hid : compare a.id b.id = .lt := compareOfLessAndEq_eq_lt.mpr hlt
    simp [scanOrder, compareLex, compareOn, hatype, hbtype, hid]
  · refine (pairwise_distinct query.types).imp fun {type later} hlt a ha b hb => ?_
    have hatype := (consistent.mem_nodesOfType_iff.mp ha).2
    have hbtype := (consistent.mem_nodesOfType_iff.mp hb).2
    simp [scanOrder, compareLex, compareOn, hatype, hbtype, Nat.compare_eq_lt.mpr hlt]

/-- A node is the first one of a listing among some nodes. -/
def FirstAmong (listing : List Node) (nodes : List StampedNode) (chosen : StampedNode) : Prop :=
  chosen ∈ nodes ∧ ∃ before after, listing = before ++ chosen.node :: after ∧
    ∀ other ∈ nodes, other.node ∉ before

/-- In an ascending listing, a node that no other one is less than is the first one. -/
theorem firstAmong_of_forall_not_lt {types : List String} {listing : List Node}
    (ascending : listing.Pairwise fun a b => scanOrder types a b = .lt)
    {nodes : List StampedNode} {chosen : StampedNode} (hmem : chosen ∈ nodes)
    (hlisted : chosen.node ∈ listing)
    (hleast : ∀ other ∈ nodes, scanOrder types other.node chosen.node ≠ .lt) :
    FirstAmong listing nodes chosen := by
  obtain ⟨before, after, rfl⟩ := List.append_of_mem hlisted
  refine ⟨hmem, before, after, rfl, fun other hother hbefore => ?_⟩
  have hlt := (List.pairwise_append.mp ascending).2.2 _ hbefore _ List.mem_cons_self
  exact hleast other hother hlt

/-- Exactly the nodes of the store that have a type of the query are scanned for it. -/
theorem mem_nodes_candidates_iff (consistent : store.Consistent) {node : Node} :
    node ∈ (query.candidates store).map StampedNode.node ↔
      store.get? node.id = some node ∧ node.type ∈ query.types := by
  simp only [List.mem_map, mem_candidates_iff consistent]
  constructor
  · rintro ⟨stamped, ⟨hcurrent, htype⟩, rfl⟩
    exact ⟨hcurrent.live, htype⟩
  · rintro ⟨hlive, htype⟩
    exact ⟨store.stamp node, ⟨Store.current_stamp hlive, htype⟩, rfl⟩

/-- Of nodes of its types that a plan holds from an index, in whatever order and with whatever
overlays, a query for one node gets the one that comes first in the listing of a scan, and none
only if there are none. The listing of a scan has every node of the store that has a type of the
query, once. -/
theorem execute_indexed_firstAmong [PatternEngine] (reachable : store.Reachable)
    (hfirst : query.firstOnly = true) (nodes : List StampedNode) (index : Option String)
    (hnodes : ∀ stamped ∈ nodes,
      store.get? stamped.id = some stamped.node ∧ stamped.type ∈ query.types) :
    (∃ found, query.execute store ⟨.indexed, nodes, index⟩ =
        .ok ⟨.found found.toList, .indexed, nodes.length⟩ ∧
      (found = none ↔ nodes = []) ∧
      ∀ chosen, found = some chosen →
        FirstAmong ((query.candidates store).map StampedNode.node) nodes chosen) ∧
    ((query.candidates store).map StampedNode.node).Nodup ∧
    ∀ node, node ∈ (query.candidates store).map StampedNode.node ↔
      store.get? node.id = some node ∧ node.type ∈ query.types := by
  have hpairwise : ((query.candidates store).map StampedNode.node).Pairwise fun a b =>
      scanOrder query.types a b = .lt :=
    pairwise_candidates reachable.consistent
  refine ⟨⟨firstScanned query.types nodes, ?_, ?_, ?_⟩, ?_, fun node =>
    mem_nodes_candidates_iff reachable.consistent⟩
  · simp [execute, hfirst]
  · cases nodes <;> simp [firstScanned]
  · intro chosen hchosen
    cases nodes with
    | nil => simp [firstScanned] at hchosen
    | cons node rest =>
      obtain ⟨best, hmem, hbest, hleast⟩ := firstScanned_cons query.types node rest
      obtain rfl := Option.some.inj (hbest.symm.trans hchosen)
      have hlisted := (mem_nodes_candidates_iff reachable.consistent).mpr (hnodes best hmem)
      exact firstAmong_of_forall_not_lt hpairwise hmem hlisted hleast
  · refine List.nodup_iff_pairwise_ne.mpr (hpairwise.imp fun {a b} hlt heq => ?_)
    subst heq
    exact Std.OrientedCmp.not_lt_of_lt hlt hlt

/-- A node with nothing but its id, type and digest. -/
def plain (id type : String) : StampedNode := ⟨Node.bare id type "d", none⟩

/-- A store with a page, whose id is the least one, and two posts. -/
def pageAndPosts : Store :=
  ((Store.empty.put (plain "a" "Page").node).put (plain "b" "Post").node).put
    (plain "c" "Post").node

/-- A query for one node that asks for posts before pages. -/
def postsFirst : Query :=
  ⟨["Post", "Draft", "Page", "Post"], Json.emptyObject, none, true, Redirects.none⟩

open scoped PatternEngine

/-- Of all three nodes, in another order, the post with the lesser id is chosen. -/
theorem execute_indexed_firstAmong_postsFirst :
    pageAndPosts.Reachable ∧ postsFirst.firstOnly = true ∧
      ∃ found : Option StampedNode, postsFirst.execute pageAndPosts
          ⟨.indexed, [plain "c" "Post", plain "a" "Page", plain "b" "Post"], none⟩ =
            .ok ⟨.found found.toList, .indexed, 3⟩ ∧
        found = some (plain "b" "Post") := by
  have made (id type : String) : (plain id type).node.Made := .bare id type "d"
  have reachable : pageAndPosts.Reachable :=
    ((Store.Reachable.empty.change (.add _ (made "a" "Page"))).change
      (.add _ (made "b" "Post"))).change (.add _ (made "c" "Post"))
  obtain ⟨⟨found, hexecute, -, -⟩, -⟩ :=
    execute_indexed_firstAmong reachable (rfl : postsFirst.firstOnly = true)
      [plain "c" "Post", plain "a" "Page", plain "b" "Post"] none (by
        simp only [List.forall_mem_cons, List.not_mem_nil, false_imp_iff, implies_true, and_true]
        exact ⟨⟨rfl, by decide⟩, ⟨rfl, by decide⟩, ⟨rfl, by decide⟩⟩)
  refine ⟨reachable, rfl, found, hexecute, ?_⟩
  have hlist : [plain "b" "Post"] = found.toList := by
    injection hexecute with hanswer
    injection hanswer with houtcome
    injection houtcome
  exact (Option.toList_eq_singleton_iff).mp hlist.symm

end TypedStore.Query
