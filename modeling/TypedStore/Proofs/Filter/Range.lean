import TypedStore.Pattern.Dialect
import TypedStore.Proofs.Filter.Nesting
import TypedStore.Proofs.Index.Quantity
import TypedStore.Proofs.Json.Number

/-!
# Ranges of numbers

An operator for a range compares numbers as doubles, equality goes by their keys. Both agree on
two numbers unless reading them as doubles makes different quantities the same and one of the
numbers is a signed integer of 64 bits.
-/

namespace TypedStore

-- Powers are those of the numbers themselves, whatever other powers there are.
attribute [local instance(2000)] instPowNat

namespace Json

/-- A number lies on a side of another one exactly if its nearest double does. -/
@[simp] theorem inBound_number (side : Bound) (a limit : Number) :
    inBound side (number a) (number limit) = side.admits (a.compare limit) := by
  simp [inBound, limitOrder?, Number.asDouble?]

end Json

namespace Number

/-- Numbers compare equal exactly if they are the same when they are read as doubles. -/
theorem compare_eq_eq_iff {a b : Number} :
    a.compare b = .eq ↔ a.toDouble.scaled = b.toDouble.scaled :=
  Std.LawfulEqOrd.compare_eq_iff_eq

section Agreement

variable [PatternEngine]

/-- A number found at a path satisfies an operator with a number as its operand. -/
def meets (found : Number) (operator : Operator) (operand : Number) : Bool :=
  match Condition.ofOperator operator (.number operand) with
  | .ok condition => condition.holds (some (.number found))
  | .error _ => false

/-- A number found is equal to an operand exactly if the two share a key. -/
@[simp] theorem meets_equal {found operand : Number} : found.meets .equal operand =
    decide (IndexKey.ofNumber found = IndexKey.ofNumber operand) := by
  simp [meets, Condition.ofOperator, Condition.holds, Json.equals, Json.agrees]

/-- A number found lies on a side of an operand exactly if its nearest double does. -/
@[simp] theorem meets_bound {found operand : Number} {side : Bound} :
    found.meets (.bound side) operand = side.admits (found.compare operand) := by
  simp [meets, Condition.ofOperator, Condition.holds, Json.anyValue]

/-- A filter that puts one operator on a field asks of a number found there to meet it. -/
theorem exists_compile_meets (redirects : Redirects) {name : String}
    (hname : name ≠ elementOperator) {operator : Operator}
    (hoperator : operator = .equal ∨ ∃ side, operator = .bound side) (operand : Number) :
    ∃ filter, Filter.compile redirects
        (.object [(name, .object [(operator.name, .number operand)])]) = .ok filter ∧
      ∀ (view : Path → Option Json) (found : Number),
        view (redirects.target name) = some (.number found) →
          filter.matchesView view = found.meets operator operand := by
  obtain ⟨condition, hcondition⟩ : ∃ condition,
      Condition.ofOperator operator (.number operand) = .ok condition := by
    rcases hoperator with rfl | ⟨side, rfl⟩ <;> exact ⟨_, rfl⟩
  have hnames : elementOperator ∉ [name] := by simpa using Ne.symm hname
  obtain ⟨filter, hcompile, hmatches⟩ := Filter.exists_compile_meets redirects
    (List.cons_ne_nil name []) hnames (by simp) hcondition
  rw [Path.join_singleton] at hmatches
  exact ⟨filter, hcompile, fun view found hfound => hmatches view (.number found) hfound⟩

/-- The operators for ranges agree with equality: a number found is less than an operand, equal
to it or greater, and it is at least or at most the operand exactly if it is equal to it or
strictly on this side. -/
structure RangesAgree (found operand : Number) : Prop where
  one : [Operator.bound .below, .equal, .bound .above].countP (found.meets · operand) = 1
  atLeast : found.meets (.bound .atLeast) operand = true ↔
    found.meets (.bound .above) operand = true ∨ found.meets .equal operand = true
  atMost : found.meets (.bound .atMost) operand = true ↔
    found.meets (.bound .below) operand = true ∨ found.meets .equal operand = true

/-- Ranges agree with equality exactly if numbers that are read as one double have keys that tell
one quantity. -/
theorem rangesAgree_iff_keyed {a b : Number} : RangesAgree a b ↔
    (a.toDouble.scaled = b.toDouble.scaled → a.keyed = b.keyed) := by
  -- The keys never tell one quantity of numbers that are read as different doubles.
  have hkeyed : (a.compare b = .eq ↔ IndexKey.ofNumber a = IndexKey.ofNumber b) ↔
      (a.toDouble.scaled = b.toDouble.scaled → a.keyed = b.keyed) := by
    rw [compare_eq_eq_iff, IndexKey.ofNumber_eq_ofNumber_iff]
    exact ⟨Iff.mp, fun h => ⟨h, fun heq => (keyed_eq_keyed_iff.mp heq).1⟩⟩
  have hone : [Operator.bound .below, .equal, .bound .above].countP (a.meets · b) = 1 ↔
      (a.compare b = .eq ↔ IndexKey.ofNumber a = IndexKey.ofNumber b) := by
    by_cases hkey : IndexKey.ofNumber a = IndexKey.ofNumber b <;>
      cases hcompare : a.compare b <;> simp [Bound.admits, hkey, hcompare]
  rw [← hkeyed]
  refine ⟨fun h => hone.mp h.one, fun h => ⟨hone.mpr h, ?_, ?_⟩⟩
  · rw [meets_bound, meets_bound, meets_equal, decide_eq_true_iff, ← h]
    cases a.compare b <;> decide
  · rw [meets_bound, meets_bound, meets_equal, decide_eq_true_iff, ← h]
    cases a.compare b <;> decide

/-- Ranges agree with equality on numbers that keep their quantity when they are read as doubles. -/
theorem rangesAgree_of_isExact {a b : Number} (ha : a.IsExact) (hb : b.IsExact) :
    RangesAgree a b := by
  rw [rangesAgree_iff_keyed]
  intro hsame
  have hquantity : a.quantity = b.quantity := by
    rw [← ha, ← hb, hsame]
  exact keyed_eq_keyed_iff.mpr ⟨hsame, Or.inl hquantity⟩

/-- Ranges agree with equality on two numbers unless they are read as one double, differ in
quantity, and one of them is a signed integer of 64 bits. -/
theorem rangesAgree_iff (found operand : Number) : RangesAgree found operand ↔
    (found.toDouble.same operand.toDouble = true →
      found.quantity = operand.quantity ∨ ¬found.isSigned = true ∧ ¬operand.isSigned = true) := by
  rw [rangesAgree_iff_keyed, Double.same, decide_eq_true_iff]
  constructor
  · exact fun h hsame => (keyed_eq_keyed_iff.mp (h hsame)).2
  · exact fun h hsame => keyed_eq_keyed_iff.mpr ⟨hsame, h hsame⟩

end Agreement

open scoped PatternEngine

/-- Two neighbouring integers that are read as one double are neither less, nor equal, nor
greater than each other. -/
theorem not_rangesAgree_neighbours : ¬RangesAgree (int (2 ^ (53 : Nat)) (by decide) (by decide))
    (int (2 ^ (53 : Nat) + 1) (by decide) (by decide)) := by
  intro h
  exact absurd h.one (by decide +kernel)

end Number

end TypedStore
