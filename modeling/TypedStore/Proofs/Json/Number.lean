import TypedStore.Json.Number
import TypedStore.Proofs.Json.Double

/-!
# Numbers compared as doubles

Every number can be had as a double, and this double is never a NaN. So two numbers always have an
order, and what is put in place of a missing double or of a missing order is never used.
-/

namespace TypedStore

-- Powers are those of the numbers themselves, whatever other powers there are.
attribute [local instance(2000)] instPowNat

namespace Double

theorem isNaN_of_isFinite {d : Double} (h : d.isFinite = true) : d.isNaN = false := by
  have hexponent : d.exponent < 2047 := of_decide_eq_true h
  simp [isNaN, Nat.ne_of_lt hexponent]

/-- A double that is put together has the magnitude that was given to it. -/
theorem magnitude_ofMagnitude (negative : Bool) {magnitude : Nat} (h : magnitude < 2 ^ (63 : Nat)) :
    (ofMagnitude negative magnitude).magnitude = magnitude := by
  cases negative <;> simp [ofMagnitude, Double.magnitude] <;> omega

/-- Rounding an integer gives no NaN: at most it gives infinity. -/
theorem isNaN_ofInt (i : Int) : (ofInt i).isNaN = false := by
  have hmagnitude : (ofInt i).magnitude ≤ infinityMagnitude := by
    rw [ofInt, magnitude_ofMagnitude _ (nearestMagnitude_lt _ _)]
    exact nearestMagnitude_le _ _
  -- With all exponent bits set there is room for no fraction.
  have hfraction (hexponent : (ofInt i).exponent = 2047) : (ofInt i).fraction = 0 := by
    unfold exponent infinityMagnitude at *
    unfold fraction
    omega
  by_cases hexponent : (ofInt i).exponent = 2047
  · simp [isNaN, hfraction hexponent]
  · simp [isNaN, hexponent]

end Double

namespace Number

theorem isNaN_toDouble (n : Number) : n.toDouble.isNaN = false := by
  cases n with
  | int i _ _ => exact Double.isNaN_ofInt i
  | double d finite => exact Double.isNaN_of_isFinite finite

/-- Comparison of quantities, both read as doubles. -/
def compare (a b : Number) : Ordering := a.toDouble.compare b.toDouble

/-- Numbers always have an order as doubles. -/
@[simp] theorem partialCompare_toDouble (a b : Number) :
    a.toDouble.partialCompare b.toDouble = some (a.compare b) := by
  simp [Double.partialCompare, isNaN_toDouble, compare]

end Number

end TypedStore
