/-!
# Binary64 numbers

A double is its 64 bits: a sign, eleven bits of exponent and 52 of fraction.
Every finite double is a whole number of units of 2⁻¹⁰⁷⁴, and `Double.scaled`
is that number, so order and equality by value are those of the integers.
Rounding is stated once, for a quotient of natural numbers, to the nearest
double with ties to the even fraction.
-/

namespace TypedStore

-- Powers are those of the numbers themselves, whatever other powers there are.
attribute [local instance(2000)] instPowNat

/-- An IEEE-754 binary64 number, given by its bits. -/
structure Double where
  bits : UInt64
deriving DecidableEq, Repr, Inhabited

namespace Double

/-- The sign bit is set. -/
def isNegative (d : Double) : Bool := 2 ^ (63 : Nat) ≤ d.bits.toNat

/-- The bits below the sign: exponent and fraction. -/
def magnitude (d : Double) : Nat := d.bits.toNat % 2 ^ (63 : Nat)

/-- The eleven exponent bits. -/
def exponent (d : Double) : Nat := d.magnitude / 2 ^ (52 : Nat)

/-- The 52 fraction bits. -/
def fraction (d : Double) : Nat := d.magnitude % 2 ^ (52 : Nat)

/-- Neither infinite nor a NaN. -/
def isFinite (d : Double) : Bool := d.exponent < 2047

/-- All exponent bits are set and the fraction is not zero. -/
def isNaN (d : Double) : Bool := d.exponent = 2047 && d.fraction ≠ 0

/-- The absolute value, counted in units of 2⁻¹⁰⁷⁴. -/
def scaledMagnitude (d : Double) : Nat :=
  if d.exponent = 0 then d.fraction else (2 ^ (52 : Nat) + d.fraction) * 2 ^ (d.exponent - 1)

/-- The value, counted in units of 2⁻¹⁰⁷⁴. Infinity counts as 2²⁰⁹⁸ units, more
than any finite double. -/
def scaled (d : Double) : Int :=
  if d.isNegative then -(d.scaledMagnitude : Int) else d.scaledMagnitude

/-- Comparison by value. -/
def compare (a b : Double) : Ordering := Ord.compare a.scaled b.scaled

/-- Comparison by value, which a NaN does not have. -/
def partialCompare (a b : Double) : Option Ordering :=
  if a.isNaN || b.isNaN then none else some (a.compare b)

/-- Equality by value: both zeros are equal. -/
def same (a b : Double) : Bool := a.scaled = b.scaled

/-- The integer that a double denotes, if it denotes one. -/
def toInt? (d : Double) : Option Int :=
  if d.scaled % 2 ^ (1074 : Nat) = 0 then some (d.scaled / 2 ^ (1074 : Nat)) else none

/-- The double with a sign and given magnitude bits. -/
def ofMagnitude (negative : Bool) (magnitude : Nat) : Double :=
  ⟨UInt64.ofNat (if negative then 2 ^ (63 : Nat) + magnitude else magnitude)⟩

/-- The zero without a sign. -/
def zero : Double := ofMagnitude false 0

/-- The magnitude bits of infinity. -/
def infinityMagnitude : Nat := 2047 * 2 ^ (52 : Nat)

/-- The same value with the other sign. -/
def neg (d : Double) : Double := ofMagnitude (!d.isNegative) d.magnitude

/-- The integer nearest to a quotient, the even one of two. -/
def roundHalfEven (numerator denominator : Nat) : Nat :=
  let quotient := numerator / denominator
  let remainder := numerator % denominator
  if 2 * remainder < denominator then quotient
  else if denominator < 2 * remainder then quotient + 1
  else quotient + quotient % 2

/-- A quotient divided by a power of two, as a quotient of natural numbers. -/
def overPowerOfTwo (numerator denominator : Nat) (power : Int) : Nat × Nat :=
  if 0 ≤ power then (numerator, denominator * 2 ^ power.toNat)
  else (numerator * 2 ^ (-power).toNat, denominator)

/-- The exponent of the leading binary digit of a positive quotient. -/
def leadingExponent (numerator denominator : Nat) : Int :=
  let guess := (numerator.log2 : Int) - denominator.log2
  let (n, d) := overPowerOfTwo numerator denominator guess
  if d ≤ n then guess else guess - 1

/-- The magnitude bits of the double nearest to a quotient; a quotient beyond the
largest double by half a unit or more gives infinity. -/
def nearestMagnitude (numerator denominator : Nat) : Nat :=
  if numerator = 0 then 0
  else
    let power := max (-1074) (leadingExponent numerator denominator - 52)
    let (n, d) := overPowerOfTwo numerator denominator power
    min infinityMagnitude ((power + 1074).toNat * 2 ^ (52 : Nat) + roundHalfEven n d)

/-- The double nearest to a quotient of natural numbers. -/
def ofQuotient (numerator denominator : Nat) : Double :=
  ofMagnitude false (nearestMagnitude numerator denominator)

/-- The double nearest to an integer. -/
def ofInt (i : Int) : Double := ofMagnitude (i < 0) (nearestMagnitude i.natAbs 1)

/-- The product of two finite non-negative doubles, rounded. -/
def times (a b : Double) : Double :=
  ofQuotient (a.scaledMagnitude * b.scaledMagnitude) (2 ^ (2148 : Nat))

/-- The quotient of two finite non-negative doubles, rounded. -/
def dividedBy (a b : Double) : Double := ofQuotient a.scaledMagnitude b.scaledMagnitude

/-- A whole number read at the same precision loses nothing. -/
theorem roundHalfEven_one (n : Nat) : roundHalfEven n 1 = n := by
  simp [roundHalfEven, Nat.mod_one]

end Double

end TypedStore
