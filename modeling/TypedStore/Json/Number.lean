import TypedStore.Json.Double

/-!
# Numbers of JSON

A number is an integer of 64 bits, signed or unsigned, or a finite double. The
two spellings stay apart: an integer is never the same number value as a double,
even where both denote the same quantity. Whoever wants to compare quantities
goes through `Number.toDouble`.
-/

namespace TypedStore

-- Powers are those of the numbers themselves, whatever other powers there are.
attribute [local instance(2000)] instPowNat

/-- A JSON number: an integer that fits 64 bits, or a finite double. -/
inductive Number where
  /-- An integer between −2⁶³ and 2⁶⁴ − 1. -/
  | int (value : Int) (lower : -2 ^ (63 : Nat) ≤ value) (upper : value < 2 ^ (64 : Nat))
  /-- A double that is neither infinite nor a NaN. -/
  | double (value : Double) (finite : value.isFinite = true)
deriving DecidableEq, Repr

namespace Number

/-- The number of an integer, if it fits 64 bits. -/
def ofInt? (i : Int) : Option Number :=
  if h : -2 ^ (63 : Nat) ≤ i ∧ i < 2 ^ (64 : Nat) then some (int i h.1 h.2) else none

/-- The number of a double, if it is finite. -/
def ofDouble? (d : Double) : Option Number :=
  if h : d.isFinite = true then some (double d h) else none

/-- The nearest double. -/
def toDouble : Number → Double
  | int i _ _ => Double.ofInt i
  | double d _ => d

/-- The number as a double, where it can be had as one. -/
def asDouble? (n : Number) : Option Double := some n.toDouble

/-- Sameness of representation and value: integers with integers, doubles with
doubles. Both zeros among the doubles are the same. -/
def same : Number → Number → Bool
  | int i _ _, int j _ _ => i == j
  | double a _, double b _ => a.same b
  | _, _ => false

theorem same_refl (n : Number) : n.same n = true := by
  cases n <;> simp [same, Double.same]

theorem same_comm (a b : Number) : a.same b = b.same a := by
  cases a <;> cases b <;> simp [same, Double.same, Bool.beq_comm, eq_comm]

end Number

end TypedStore
