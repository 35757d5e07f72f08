import TypedStore.Json.Double

/-!
# Shortest decimals

The decimal with the fewest digits that reads back as a given double, and of
several such decimals the nearest one. A grid of decimals with a fixed number of
digits holds a point that reads back only if one of the two neighbours of the
value does, so two candidates for each number of digits are enough.
-/

namespace TypedStore

-- Powers are those of the numbers themselves, whatever other powers there are.
attribute [local instance(2000)] instPowNat

/-- The decimal `digits · 10^exponent`. -/
structure Decimal where
  digits : Nat
  exponent : Int
deriving DecidableEq, Repr

namespace Decimal

/-- The number of decimal digits; zero has none. -/
def digitCount (n : Nat) : Nat := if n = 0 then 0 else digitCount (n / 10) + 1

/-- The power of ten of the first digit of a positive quotient. -/
def leadingPower (numerator denominator : Nat) : Int :=
  if denominator ≤ numerator then (digitCount (numerator / denominator) : Int) - 1
  else -(digitCount ((denominator - 1) / numerator) : Int)

/-- A quotient divided by a power of ten, as a quotient of natural numbers. -/
def overPowerOfTen (numerator denominator : Nat) (power : Int) : Nat × Nat :=
  if 0 ≤ power then (numerator, denominator * 10 ^ power.toNat)
  else (numerator * 10 ^ (-power).toNat, denominator)

/-- The non-negative double nearest to a decimal. -/
def toDouble (decimal : Decimal) : Double :=
  if 0 ≤ decimal.exponent then
    Double.ofQuotient (decimal.digits * 10 ^ decimal.exponent.toNat) 1
  else Double.ofQuotient decimal.digits (10 ^ (-decimal.exponent).toNat)

/-- A decimal without zeros at the end of its digits. -/
def trimmed (digits : Nat) (exponent : Int) : Decimal :=
  if h : digits ≠ 0 ∧ digits % 10 = 0 then trimmed (digits / 10) (exponent + 1)
  else ⟨digits, exponent⟩
termination_by digits
decreasing_by omega

/-- The neighbour of a double on the grid of decimals with a given exponent that
reads back, the nearer one if both do, the even one if both are equally near. -/
def onGrid? (d : Double) (exponent : Int) : Option Decimal :=
  let (n, m) := overPowerOfTen d.scaledMagnitude (2 ^ (1074 : Nat)) exponent
  let below : Decimal := ⟨n / m, exponent⟩
  let above : Decimal := ⟨n / m + 1, exponent⟩
  let readsBack (decimal : Decimal) : Bool := decimal.toDouble.magnitude = d.magnitude
  let nearest := if 2 * (n % m) < m ∨ (2 * (n % m) = m ∧ n / m % 2 = 0) then below else above
  if readsBack below && readsBack above then some nearest
  else if readsBack below then some below
  else if readsBack above then some above
  else none

/-- The shortest decimal of a finite double that is not zero, without its sign. -/
def shortest (d : Double) : Decimal :=
  let leading := leadingPower d.scaledMagnitude (2 ^ (1074 : Nat))
  let found := (List.range 17).findSome? fun (place : Nat) => onGrid? d (leading - place)
  match found with
  | some decimal => trimmed decimal.digits decimal.exponent
  | none => trimmed d.scaledMagnitude (-1074)

/-- The digits of a natural number. -/
def digitChars (n : Nat) : List Char := Nat.toDigits 10 n

/-- The power of ten of the first digit. -/
def firstPower (decimal : Decimal) : Int :=
  decimal.exponent + (digitChars decimal.digits).length - 1

/-- The text of a decimal: with a point at its place if the first digit is worth
between 10⁻⁵ and 10¹⁵, else with one digit before the point and an exponent with
its sign. -/
def text (decimal : Decimal) : List Char :=
  let digits := digitChars decimal.digits
  let power := decimal.firstPower
  if -5 ≤ power ∧ power < 0 then
    '0' :: '.' :: (List.replicate ((-power).toNat - 1) '0' ++ digits)
  else if 0 ≤ power ∧ power ≤ 15 then
    let before := power.toNat + 1
    let padded := digits ++ List.replicate (before - digits.length) '0'
    let after := digits.drop before
    padded.take before ++ '.' :: (if after.isEmpty then ['0'] else after)
  else
    let after := digits.drop 1
    digits.take 1 ++ (if after.isEmpty then [] else '.' :: after) ++
      ['e', if power < 0 then '-' else '+'] ++ digitChars power.natAbs

end Decimal

/-- The text of a finite double: the shortest digits that read back. -/
def Double.text (d : Double) : List Char :=
  (if d.isNegative then ['-'] else []) ++
    (if d.magnitude = 0 then ['0', '.', '0'] else (Decimal.shortest d).text)

end TypedStore
