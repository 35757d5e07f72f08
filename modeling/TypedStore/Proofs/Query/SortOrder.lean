import Mathlib.Data.Vector.Defs
import TypedStore.Proofs.Comparison
import TypedStore.Proofs.Json.Number
import TypedStore.Query.Sort

/-!
# The order of a sort

Values that may be missing are compared by a total preorder. Of an array that is not empty a least
or a greatest element counts. Nodes are compared by their values for the fields of a sort, by each
field in its direction, and the first one that tells two nodes apart decides: this is a total
preorder too.
-/

namespace TypedStore

open Std (OrientedCmp TransCmp)

/-- Comparing quantities is comparing integers. -/
instance : TransCmp Number.compare :=
  inferInstanceAs (TransCmp (compareOn fun n : Number => n.toDouble.scaled))

/-- Comparing in a direction is as transitive as comparing. -/
theorem Direction.transCmp_orient {α : Type} (direction : Direction) (cmp : α → α → Ordering)
    [TransCmp cmp] : TransCmp fun a b => direction.orient (cmp a b) := by
  cases direction with
  | ascending => exact inferInstanceAs (TransCmp cmp)
  | descending =>
    have hswap : (fun a b => descending.orient (cmp a b)) = fun a b => cmp b a := by
      funext a b
      exact OrientedCmp.eq_swap.symm
    rw [hswap]
    exact inferInstance

namespace Json

/-- Values of different kinds are ordered by their kinds. -/
theorem sortOrder_eq_of_sortRank_ne {a b : Json} (h : a.sortRank ≠ b.sortRank) :
    sortOrder a b = compare a.sortRank b.sortRank := by
  unfold sortOrder
  exact if_pos h

/-- Numbers are ordered by their doubles. -/
theorem sortOrder_number (a b : Number) : sortOrder (number a) (number b) = a.compare b := by
  simp [sortOrder, sortRank, Number.asDouble?]

/-- Comparing two values the other way round gives the other answer. -/
instance : OrientedCmp sortOrder where
  eq_swap := by
    intro a b
    cases a <;> cases b
    case number.number =>
      rw [sortOrder_number, sortOrder_number]
      exact (inferInstance : OrientedCmp Number.compare).eq_swap
    case bool.bool | string.string => exact Std.OrientedOrd.eq_swap
    all_goals rfl

/-- Values of one kind are ordered transitively, and kinds are ordered before values. -/
instance : TransCmp sortOrder :=
  Comparison.transCmp_of_rank sortRank (fun _ _ => sortOrder_eq_of_sortRank_ne) <| by
    intro a b c hrank hrank' hab hbc
    cases a <;> cases b <;> simp [sortRank] at hrank <;> cases c <;> simp [sortRank] at hrank'
    case number.number.number =>
      rw [sortOrder_number] at hab hbc ⊢
      exact (inferInstance : TransCmp Number.compare).isLE_trans hab hbc
    case bool.bool.bool | string.string.string => exact Std.TransOrd.isLE_trans hab hbc
    all_goals rfl

/-- Comparing values that may be missing is a total preorder, in which missing values come last. -/
instance : TransCmp sortOrder? where
  eq_swap := by
    intro a b
    cases a <;> cases b
    case some.some => exact (inferInstance : OrientedCmp sortOrder).eq_swap
    all_goals rfl
  isLE_trans := by
    intro a b c hab hbc
    cases a <;> cases b <;> cases c
    case some.some.some => exact (inferInstance : TransCmp sortOrder).isLE_trans hab hbc
    all_goals first | rfl | contradiction

/-- The value that counts in a sort in place of what is found: of an array with elements a least
one in ascending and a greatest one in descending order, and otherwise what is found. -/
inductive Counts : Direction → Option Json → Option Json → Prop
  | whole {direction : Direction} {found : Option Json}
      (single : ∀ items, found = some (array items) → items = []) : Counts direction found found
  | least {items : List Json} {best : Json} (mem : best ∈ items)
      (le : ∀ item ∈ items, (sortOrder best item).isLE = true) :
      Counts .ascending (some (array items)) (some best)
  | greatest {items : List Json} {best : Json} (mem : best ∈ items)
      (ge : ∀ item ∈ items, (sortOrder best item).isGE = true) :
      Counts .descending (some (array items)) (some best)

/-- The first least element of an array is a least one. -/
theorem counts_least (first : Json) (others : List Json) :
    Counts .ascending (some (array (first :: others))) (some (least first others)) := by
  have hchoice (best item : Json) :
      (if sortOrder item best = .lt then item else best) = best ∧
          (sortOrder best item).isLE = true ∨
        (if sortOrder item best = .lt then item else best) = item ∧
          (sortOrder item best).isLE = true := by
    by_cases h : sortOrder item best = .lt
    · exact Or.inr ⟨if_pos h, Ordering.isLE_of_eq_lt h⟩
    · exact Or.inl ⟨if_neg h, OrientedCmp.isLE_of_isGE (Ordering.ne_lt_iff_isGE.mp h)⟩
  obtain ⟨hmem, hbest⟩ := Comparison.foldl_best (fun a b => (sortOrder a b).isLE = true)
    (fun _ => Std.ReflCmp.isLE_rfl) (fun _ _ _ => TransCmp.isLE_trans) hchoice first others
  exact .least hmem hbest

/-- The last greatest element of an array is a greatest one. -/
theorem counts_greatest (first : Json) (others : List Json) :
    Counts .descending (some (array (first :: others))) (some (greatest first others)) := by
  have hchoice (best item : Json) :
      (if sortOrder item best = .lt then best else item) = best ∧
          (sortOrder best item).isGE = true ∨
        (if sortOrder item best = .lt then best else item) = item ∧
          (sortOrder item best).isGE = true := by
    by_cases h : sortOrder item best = .lt
    · exact Or.inl ⟨if_pos h, Ordering.isGE_of_eq_gt (OrientedCmp.gt_of_lt h)⟩
    · exact Or.inr ⟨if_neg h, Ordering.ne_lt_iff_isGE.mp h⟩
  obtain ⟨hmem, hbest⟩ := Comparison.foldl_best (fun a b => (sortOrder a b).isGE = true)
    (fun _ => OrientedCmp.isGE_of_isLE Std.ReflCmp.isLE_rfl) (fun _ _ _ => TransCmp.isGE_trans)
    hchoice first others
  exact .greatest hmem hbest

/-- The value that is taken for a sort is one that counts. -/
theorem counts_sortValue (direction : Direction) (found : Option Json) :
    Counts direction found (sortValue direction found) := by
  unfold sortValue
  split
  · cases direction with
    | ascending => exact counts_least _ _
    | descending => exact counts_greatest _ _
  · rename_i hsingle
    refine .whole fun items hitems => ?_
    cases items with
    | nil => rfl
    | cons first others => exact absurd hitems (hsingle first others)

end Json

/-- The value of a node that counts for a field of a sort. -/
def SortKey.value (key : SortKey) (redirects : Redirects) (stamped : StampedNode) : Option Json :=
  Json.sortValue key.direction (stamped.at? (redirects.target key.field))

/-- The order of two nodes by one field of a sort. -/
def SortKey.compare (key : SortKey) (redirects : Redirects) (a b : StampedNode) : Ordering :=
  key.direction.orient (Json.sortOrder? (key.value redirects a) (key.value redirects b))

namespace SortSpec

/-- The values that count for the fields of a sort, one for each field. -/
abbrev FieldValues (keys : List SortKey) : Type := List.Vector (Option Json) keys.length

/-- Comparing values field by field, each field in its direction, is a total preorder. Lists of
other lengths are left out: where one of them ends, all that follows would count as equal. -/
theorem transCmp_order (keys : List SortKey) :
    TransCmp fun a b : FieldValues keys => order keys a.toList b.toList := by
  induction keys with
  | nil => exact { eq_swap := rfl, isLE_trans := fun _ _ => rfl }
  | cons key keys ih =>
    have horient := key.direction.transCmp_orient Json.sortOrder?
    have hfirst := Comparison.transCmp_comap
      (fun a b => key.direction.orient (Json.sortOrder? a b))
      (fun values : FieldValues (key :: keys) => values.head)
    have hrest := Comparison.transCmp_comap
      (fun a b : FieldValues keys => order keys a.toList b.toList)
      (fun values : FieldValues (key :: keys) => values.tail)
    have hlex : (fun a b : FieldValues (key :: keys) => order (key :: keys) a.toList b.toList) =
        compareLex (fun a b => key.direction.orient (Json.sortOrder? a.head b.head))
          (fun a b => order keys a.tail.toList b.tail.toList) := by
      funext ⟨as, ha⟩ ⟨bs, hb⟩
      obtain ⟨first, rest, rfl⟩ := List.exists_cons_of_length_eq_add_one ha
      obtain ⟨other, more, rfl⟩ := List.exists_cons_of_length_eq_add_one hb
      rfl
    rw [hlex]
    exact inferInstance

/-- A node has one value for each field of a sort. -/
theorem length_values (spec : SortSpec) (redirects : Redirects) (stamped : StampedNode) :
    (spec.values redirects stamped).length = spec.keys.length := by
  rw [values, List.length_map]

/-- The order of two nodes by all fields of a sort. -/
def compare (spec : SortSpec) (redirects : Redirects) (a b : StampedNode) : Ordering :=
  order spec.keys (spec.values redirects a) (spec.values redirects b)

/-- No field of a sort tells two nodes apart. -/
def Ties (spec : SortSpec) (redirects : Redirects) (a b : StampedNode) : Prop :=
  ∀ key ∈ spec.keys, key.compare redirects a b = .eq

/-- The first field that tells two nodes apart puts one before the other. -/
def Precedes (spec : SortSpec) (redirects : Redirects) (a b : StampedNode) : Prop :=
  ∃ before key after, spec.keys = before ++ key :: after ∧
    (∀ earlier ∈ before, earlier.compare redirects a b = .eq) ∧ key.compare redirects a b = .lt

variable {redirects : Redirects} {a b : StampedNode}

@[simp] theorem compare_nil : compare ⟨[]⟩ redirects a b = .eq := by
  rfl

@[simp] theorem compare_cons (key : SortKey) (keys : List SortKey) :
    compare ⟨key :: keys⟩ redirects a b =
      (key.compare redirects a b).then (compare ⟨keys⟩ redirects a b) := by
  rfl

/-- Comparing nodes by all fields is a total preorder. -/
instance (spec : SortSpec) (redirects : Redirects) : TransCmp (spec.compare redirects) :=
  have := transCmp_order spec.keys
  Comparison.transCmp_comap (fun a b : FieldValues spec.keys => order spec.keys a.toList b.toList)
    fun stamped => ⟨spec.values redirects stamped, spec.length_values redirects stamped⟩

/-- Nodes compare equal exactly if no field tells them apart. -/
theorem compare_eq_eq_iff {spec : SortSpec} :
    spec.compare redirects a b = .eq ↔ spec.Ties redirects a b := by
  obtain ⟨keys⟩ := spec
  induction keys with
  | nil => simp [Ties]
  | cons key keys ih => simp_all [Ties, Ordering.then_eq_eq]

/-- A node compares as the lesser one exactly if the first field that tells the two apart puts it
first. -/
theorem compare_eq_lt_iff {spec : SortSpec} :
    spec.compare redirects a b = .lt ↔ spec.Precedes redirects a b := by
  obtain ⟨keys⟩ := spec
  induction keys with
  | nil => simp [Precedes]
  | cons key keys ih =>
    rw [compare_cons, Ordering.then_eq_lt, ih]
    constructor
    · rintro (hlt | ⟨heq, before, later, after, hkeys, hbefore, hlt⟩)
      · exact ⟨[], key, keys, rfl, by simp, hlt⟩
      · obtain rfl : keys = before ++ later :: after := hkeys
        exact ⟨key :: before, later, after, rfl, by simpa [heq] using hbefore, hlt⟩
    · rintro ⟨before, later, after, hkeys, hbefore, hlt⟩
      cases before with
      | nil =>
        obtain ⟨rfl, -⟩ := List.cons.inj hkeys
        exact Or.inl hlt
      | cons earlier before =>
        obtain ⟨rfl, rfl⟩ := List.cons.inj hkeys
        obtain ⟨heq, hbefore⟩ := List.forall_mem_cons.mp hbefore
        exact Or.inr ⟨heq, before, later, after, rfl, hbefore, hlt⟩

end SortSpec

end TypedStore
