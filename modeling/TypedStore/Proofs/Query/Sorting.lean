import TypedStore.Proofs.Query.SortOrder

/-!
# Sorted nodes

A sort rearranges nodes: of two nodes in the result, the first field that tells them apart
puts the earlier one first, or no field does and it came first before. Comparing the values
that were read once for each node is comparing the nodes themselves, so the sort is a stable
merge sort by a total preorder, which leaves sorted nodes as they are.
-/

namespace TypedStore.SortSpec

open Std (OrientedCmp TransCmp)

/-- A list is what a sort makes of nodes: they are rearranged, with the places that they had, so
that of any two nodes the first one precedes the other, or they tie and it had the lower place. -/
def Arranges (spec : SortSpec) (redirects : Redirects) (nodes result : List StampedNode) : Prop :=
  ∃ placed : List (StampedNode × Nat), placed.Perm nodes.zipIdx ∧ placed.map Prod.fst = result ∧
    placed.Pairwise fun a b => spec.Precedes redirects a.1 b.1 ∨
      spec.Ties redirects a.1 b.1 ∧ a.2 < b.2

variable (spec : SortSpec) (redirects : Redirects)

/-- One node may stand before another one. -/
def le (a b : StampedNode) : Bool := (spec.compare redirects a b).isLE

theorem le_trans (a b c : StampedNode) (hab : spec.le redirects a b = true)
    (hbc : spec.le redirects b c = true) : spec.le redirects a c = true :=
  (inferInstance : TransCmp (spec.compare redirects)).isLE_trans hab hbc

theorem le_total (a b : StampedNode) :
    (spec.le redirects a b || spec.le redirects b a) = true := by
  rw [Bool.or_eq_true]
  by_cases h : spec.compare redirects a b = .gt
  · exact Or.inr (Ordering.isLE_of_eq_lt (OrientedCmp.lt_of_gt h))
  · exact Or.inl (Ordering.ne_gt_iff_isLE.mp h)

/-- Sorting by the values that were read for each node is sorting by comparing the nodes. -/
theorem sort_eq_mergeSort (nodes : List StampedNode) :
    spec.sort redirects nodes = nodes.mergeSort (spec.le redirects) := by
  have hkeyed := List.map_mergeSort (r := spec.le redirects)
    (s := fun a b : List (Option Json) × StampedNode => order spec.keys a.1 b.1 != .gt)
    (f := fun stamped => (spec.values redirects stamped, stamped)) (l := nodes)
    fun a _ b _ => Ordering.isLE_eq_not_beq_gt
  rw [sort, ← hkeyed, List.map_map]
  exact List.map_id _

/-- Sorting rearranges nodes. -/
theorem perm_sort (nodes : List StampedNode) : (spec.sort redirects nodes).Perm nodes := by
  rw [sort_eq_mergeSort]
  exact List.mergeSort_perm nodes _

/-- Sorted nodes are in order. -/
theorem pairwise_sort (nodes : List StampedNode) :
    (spec.sort redirects nodes).Pairwise fun a b => spec.le redirects a b = true := by
  rw [sort_eq_mergeSort]
  exact List.pairwise_mergeSort (spec.le_trans redirects) (spec.le_total redirects) nodes

/-- Sorting sorted nodes changes nothing. -/
theorem sort_sort (nodes : List StampedNode) :
    spec.sort redirects (spec.sort redirects nodes) = spec.sort redirects nodes := by
  rw [sort_eq_mergeSort _ _ (spec.sort redirects nodes)]
  exact List.mergeSort_of_pairwise (spec.pairwise_sort redirects nodes)

/-- Where places decide between nodes that tie, the order by merge sort is that of the sort. -/
theorem precedes_or_ties_of_zipIdxLE {a b : StampedNode × Nat} (hplaces : a.2 ≠ b.2)
    (h : List.zipIdxLE (spec.le redirects) a b = true) :
    spec.Precedes redirects a.1 b.1 ∨ spec.Ties redirects a.1 b.1 ∧ a.2 < b.2 := by
  cases horder : spec.compare redirects a.1 b.1 with
  | lt => exact Or.inl (compare_eq_lt_iff.mp horder)
  | eq =>
    have hswap : spec.compare redirects b.1 a.1 = .eq := OrientedCmp.eq_symm horder
    have hle : a.2 ≤ b.2 := by simpa [List.zipIdxLE, le, horder, hswap] using h
    exact Or.inr ⟨compare_eq_eq_iff.mp horder, Nat.lt_of_le_of_ne hle hplaces⟩
  | gt => simp [List.zipIdxLE, le, horder] at h

/-- A sort arranges nodes by the first field that tells them apart and keeps the order of nodes
that tie. -/
theorem arranges_sort (nodes : List StampedNode) :
    spec.Arranges redirects nodes (spec.sort redirects nodes) := by
  have hperm := List.mergeSort_perm nodes.zipIdx (List.zipIdxLE (spec.le redirects))
  have hplaces : ((nodes.zipIdx.mergeSort (List.zipIdxLE (spec.le redirects))).map
      Prod.snd).Pairwise (· ≠ ·) := by
    rw [← List.nodup_iff_pairwise_ne, (hperm.map Prod.snd).nodup_iff, List.zipIdx_map_snd]
    exact List.nodup_range'
  have hordered := List.pairwise_mergeSort (List.zipIdxLE_trans (spec.le_trans redirects))
    (List.zipIdxLE_total (spec.le_total redirects)) nodes.zipIdx
  refine ⟨_, hperm, ?_, ?_⟩
  · rw [sort_eq_mergeSort]
    exact List.mergeSort_zipIdx
  · refine ((List.pairwise_map.mp hplaces).and hordered).imp fun {a b} h => ?_
    exact spec.precedes_or_ties_of_zipIdxLE redirects h.1 h.2

/-- A sort is the stable sort by all its fields. It rearranges nodes so that of any two the first
field that tells them apart, in its direction, puts the earlier one first, and nodes that no field
tells apart keep their order. What counts for a field is what is found at its path, redirected or
not, where an array with elements counts by a least one ascending and by a greatest one
descending, and what is missing is greater than all that is not. Sorting again changes nothing. -/
theorem sort_stable (nodes : List StampedNode) :
    spec.Arranges redirects nodes (spec.sort redirects nodes) ∧
      (∀ (key : SortKey) (stamped : StampedNode),
        Json.Counts key.direction (stamped.at? (redirects.target key.field))
          (key.value redirects stamped)) ∧
      (∀ present, Json.sortOrder? none (some present) = .gt) ∧
      spec.sort redirects (spec.sort redirects nodes) = spec.sort redirects nodes :=
  ⟨spec.arranges_sort redirects nodes, fun _ _ => Json.counts_sortValue _ _, fun _ => rfl,
    spec.sort_sort redirects nodes⟩

end TypedStore.SortSpec
