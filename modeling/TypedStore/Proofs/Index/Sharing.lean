import TypedStore.Pattern.Dialect
import TypedStore.Proofs.Filter.Range
import TypedStore.Proofs.Index.Bucket

/-!
# Sharing a bucket

Two nodes share a bucket of an index exactly if they have a key in common. So nodes with
numbers share one exactly if the numbers have one key. Numbers of one quantity always have one
key; different quantities have one only beyond the signed integers of 64 bits, where an integer
is keyed as the nearest double.
-/

namespace TypedStore

-- Powers are those of the numbers themselves, whatever other powers there are.
attribute [local instance(2000)] instPowNat

namespace FieldIndex

/-- Two nodes stand in one bucket of an index. -/
def Shares (index : FieldIndex) (a b : StampedNode) : Prop :=
  ∃ key found, index.bucket? key = some found ∧ a ∈ found ∧ b ∈ found

variable {store : Store} {path : Path} {types : List String} {x y : Node}

/-- A node is indexed under each of its keys and under no other key. -/
theorem exists_bucket?_build_iff (hx : x ∈ store.nodes) (htyped : x.type ∈ types)
    (key : IndexKey) :
    (∃ found, (build store path types).bucket? key = some found ∧ store.stamp x ∈ found) ↔
      key ∈ keysOf path x := by
  have hbearer : x ∈ bearers store path types key ↔ key ∈ keysOf path x := by
    simp [bearers, hx, htyped]
  rw [← hbearer]
  constructor
  · rintro ⟨found, hfound, hmem⟩
    rw [eq_of_bucket?_build hfound] at hmem
    obtain ⟨node, hnode, hstamp⟩ := List.mem_map.mp hmem
    have hsame : node = x := congrArg StampedNode.node hstamp
    rwa [← hsame]
  · intro hmem
    have hstamped : store.stamp x ∈ (bearers store path types key).map store.stamp :=
      List.mem_map_of_mem hmem
    rw [bucket?_build]
    cases hbearers : (bearers store path types key).map store.stamp with
    | nil =>
      rw [hbearers] at hstamped
      contradiction
    | cons first rest =>
      rw [hbearers] at hstamped
      exact ⟨first :: rest, rfl, hstamped⟩

/-- Nodes share a bucket exactly if they have a key in common. -/
theorem shares_build_iff (hx : x ∈ store.nodes) (hxtyped : x.type ∈ types)
    (hy : y ∈ store.nodes) (hytyped : y.type ∈ types) :
    (build store path types).Shares (store.stamp x) (store.stamp y) ↔
      ∃ key, key ∈ keysOf path x ∧ key ∈ keysOf path y := by
  refine exists_congr fun key => ?_
  rw [← exists_bucket?_build_iff hx hxtyped, ← exists_bucket?_build_iff hy hytyped]
  constructor
  · rintro ⟨found, hfound, hxmem, hymem⟩
    exact ⟨⟨found, hfound, hxmem⟩, ⟨found, hfound, hymem⟩⟩
  · rintro ⟨⟨found, hfound, hxmem⟩, other, hother, hymem⟩
    have hsame : other = found := Option.some.inj (hother.symm.trans hfound)
    exact ⟨found, hfound, hxmem, hsame ▸ hymem⟩

/-- A node that has a number at a path is found under the key of the number alone. -/
theorem mem_keysOf_number {n : Number} (h : x.at? path = some (.number n)) {key : IndexKey} :
    key ∈ keysOf path x ↔ key = IndexKey.ofNumber n := by
  simp [keysOf, h, IndexKey.allOf, IndexKey.ofJson?]

end FieldIndex

namespace Number

section Value

variable [PatternEngine]

/-- Two numbers are told apart by value: they have one key, the one is found equal to the other,
and nodes that have them at a path share a bucket of every index over it, exactly if they are the
same quantity. -/
structure KeyedByValue (a b : Number) : Prop where
  key : IndexKey.ofJson? (.number a) = IndexKey.ofJson? (.number b) ↔ a.quantity = b.quantity
  equal : a.meets .equal b = true ↔ a.quantity = b.quantity
  bucket : ∀ (store : Store) (path : Path) (types : List String) (x y : Node),
    (x ∈ store.nodes ∧ x.type ∈ types ∧ x.at? path = some (.number a)) →
    (y ∈ store.nodes ∧ y.type ∈ types ∧ y.at? path = some (.number b)) →
      ((FieldIndex.build store path types).Shares (store.stamp x) (store.stamp y) ↔
        a.quantity = b.quantity)

/-- Two numbers are told apart by value as soon as their keys are. -/
theorem keyedByValue_of_key {a b : Number}
    (h : IndexKey.ofNumber a = IndexKey.ofNumber b ↔ a.quantity = b.quantity) :
    KeyedByValue a b where
  key := by
    rw [← h]
    simp [IndexKey.ofJson?]
  equal := by
    rw [← h]
    simp
  bucket := by
    rintro store path types x y ⟨hx, hxtyped, hxnumber⟩ ⟨hy, hytyped, hynumber⟩
    rw [← h, FieldIndex.shares_build_iff hx hxtyped hy hytyped]
    simp only [FieldIndex.mem_keysOf_number hxnumber, FieldIndex.mem_keysOf_number hynumber]
    exact exists_eq_left

/-- Numbers are told apart by value unless they are different quantities that are read as one
double and neither is a signed integer of 64 bits. -/
theorem keyedByValue_iff (a b : Number) : KeyedByValue a b ↔
    (a.toDouble.same b.toDouble = true →
      a.quantity = b.quantity ∨ a.isSigned = true ∨ b.isSigned = true) := by
  have hkey : IndexKey.ofNumber a = IndexKey.ofNumber b ↔
      a.toDouble.scaled = b.toDouble.scaled ∧
        (a.quantity = b.quantity ∨ ¬a.isSigned = true ∧ ¬b.isSigned = true) := by
    rw [IndexKey.ofNumber_eq_ofNumber_iff, keyed_eq_keyed_iff]
  rw [Double.same, decide_eq_true_iff]
  constructor
  · intro h hsame
    have hvalue : IndexKey.ofNumber a = IndexKey.ofNumber b ↔ a.quantity = b.quantity := by
      simpa [IndexKey.ofJson?] using h.key
    by_cases hsigned : a.isSigned = true ∨ b.isSigned = true
    · exact Or.inr hsigned
    · rw [not_or] at hsigned
      exact Or.inl (hvalue.mp (hkey.mpr ⟨hsame, Or.inr hsigned⟩))
  · intro h
    apply keyedByValue_of_key
    rw [hkey]
    constructor
    · rintro ⟨hsame, hquantity | ⟨ha, hb⟩⟩
      · exact hquantity
      · exact (h hsame).resolve_right (not_or.mpr ⟨ha, hb⟩)
    · exact fun hquantity => ⟨scaled_toDouble_of_quantity_eq hquantity, Or.inl hquantity⟩

end Value

open scoped PatternEngine

/-- Two neighbouring integers beyond the signed ones have one key. -/
theorem not_keyedByValue_neighbours :
    ¬KeyedByValue (int (2 ^ (63 : Nat)) (by decide) (by decide))
      (int (2 ^ (63 : Nat) + 1) (by decide) (by decide)) := by
  intro h
  have hquantity := h.key.mp (by decide +kernel)
  exact absurd hquantity (by decide +kernel)

end Number

end TypedStore
