import Mathlib.Algebra.Order.Field.Rat
import Mathlib.Order.WithBot
import Mathlib.Tactic.FieldSimp
import TypedStore.Proofs.Json.Double

/-!
# The numbers that doubles denote

A double that is no NaN denotes a rational number or one of the two infinities: its sign, and the
product of a significand of 53 binary digits and a power of two. Counting units of 2⁻¹⁰⁷⁴ puts
doubles in the order of the numbers that they denote.
-/

namespace TypedStore.Double

-- Powers are those of the numbers themselves, whatever other powers there are.
attribute [local instance(2000)] instPowNat

/-- The absolute value that a finite double denotes. The fraction stands behind the point of a
significand whose leading digit is one, unless the exponent is the least one. -/
def absolute (d : Double) : ℚ :=
  if d.exponent = 0 then d.fraction / 2 ^ 52 * 2 ^ (-1022 : ℤ)
  else (1 + d.fraction / 2 ^ 52) * 2 ^ ((d.exponent : ℤ) - 1023)

/-- The number that a double denotes, unless it is a NaN: the greatest exponent is that of the two
infinities. -/
def value (d : Double) : WithBot (WithTop ℚ) :=
  if d.exponent = 2047 then if d.isNegative then ⊥ else ⊤
  else ((if d.isNegative then -d.absolute else d.absolute : ℚ) : WithTop ℚ)

/-- A power of two, counted in units. -/
theorem two_zpow_eq {exponent : ℤ} {power : Nat} (h : exponent + exponentOfOne = power) :
    (2 : ℚ) ^ exponent = 2 ^ power / (perOne : ℚ) := by
  have hne : (2 : ℚ) ≠ 0 := by norm_num
  have hexponent : exponent = (power : ℤ) - (exponentOfOne : ℤ) := by omega
  rw [hexponent, zpow_sub₀ hne, zpow_natCast, zpow_natCast, perOne]
  push_cast
  rfl

/-- The absolute value of a finite double is the number of units that its bits count. -/
theorem absolute_eq (d : Double) : d.absolute = (unitsOf d.magnitude : ℚ) / (perOne : ℚ) := by
  unfold absolute unitsOf
  by_cases hexponent : d.exponent = 0
  · have hpower : (2 : ℚ) ^ (-1022 : ℤ) = 2 ^ 52 / (perOne : ℚ) :=
      two_zpow_eq (by rw [exponentOfOne_eq]; omega)
    have hmagnitude : d.magnitude / 2 ^ (52 : Nat) = 0 := hexponent
    rw [if_pos hexponent, if_pos hmagnitude, hpower, fraction]
    field_simp
  · have hpower : (2 : ℚ) ^ ((d.exponent : ℤ) - 1023) =
        2 ^ (52 + (d.exponent - 1)) / (perOne : ℚ) :=
      two_zpow_eq (by rw [exponentOfOne_eq]; omega)
    have hmagnitude : ¬d.magnitude / 2 ^ (52 : Nat) = 0 := hexponent
    have hone : ((2 ^ (52 : Nat) : Nat) : ℚ) = 2 ^ 52 := by norm_num
    rw [if_neg hexponent, if_neg hmagnitude, hpower, pow_add, fraction, exponent, Nat.cast_mul,
      Nat.cast_add, hone, Nat.cast_pow, Nat.cast_two]
    field_simp

/-- A finite double denotes the number of units that it counts. -/
theorem value_of_finite {d : Double} (h : d.exponent ≠ 2047) :
    d.value = (((d.scaled : ℚ) / (perOne : ℚ) : ℚ) : WithTop ℚ) := by
  rw [value, if_neg h, absolute_eq, scaled, scaledMagnitude_eq]
  cases d.isNegative with
  | true => rw [if_pos rfl, if_pos rfl, Int.cast_neg, Int.cast_natCast, neg_div]
  | false => rw [if_neg Bool.false_ne_true, if_neg Bool.false_ne_true, Int.cast_natCast]

/-- A double that is no NaN is finite and counts fewer units than infinity, in either direction, or
it counts as many and denotes this infinity. -/
theorem value_cases {d : Double} (h : d.isNaN = false) :
    (d.scaled < unitsOf infinityMagnitude ∧ -(unitsOf infinityMagnitude : Int) < d.scaled ∧
        d.value = (((d.scaled : ℚ) / (perOne : ℚ) : ℚ) : WithTop ℚ)) ∨
      (d.scaled = unitsOf infinityMagnitude ∧ d.value = ⊤) ∨
      d.scaled = -(unitsOf infinityMagnitude : Int) ∧ d.value = ⊥ := by
  have hbits : d.magnitude = d.exponent * 2 ^ (52 : Nat) + d.fraction := by
    unfold exponent fraction
    omega
  have hlt : d.magnitude < 2 ^ (63 : Nat) := Nat.mod_lt _ (by decide)
  have hfraction : d.fraction < 2 ^ (52 : Nat) := Nat.mod_lt _ (by decide)
  by_cases hexponent : d.exponent = 2047
  · -- Only the infinities have the greatest exponent and are no NaNs.
    have hzero : d.fraction = 0 := by
      simpa [isNaN, hexponent] using h
    have hinfinity : d.magnitude = infinityMagnitude := by
      unfold infinityMagnitude
      omega
    right
    rw [value, if_pos hexponent, scaled, scaledMagnitude_eq, hinfinity]
    cases d.isNegative with
    | true => exact Or.inr ⟨rfl, rfl⟩
    | false => exact Or.inl ⟨rfl, rfl⟩
  · have hfinite : d.magnitude < infinityMagnitude := by
      unfold infinityMagnitude
      omega
    have hunits : unitsOf d.magnitude < unitsOf infinityMagnitude := unitsOf_lt_iff.mpr hfinite
    have hscaled : d.scaled.natAbs = unitsOf d.magnitude := natAbs_scaled d
    left
    refine ⟨?_, ?_, value_of_finite hexponent⟩
    · omega
    · omega

/-- Numbers of units are in order as the numbers that they make. -/
theorem units_div_lt_iff {m n : Int} :
    ((((m : ℚ) / (perOne : ℚ) : ℚ) : WithTop ℚ) : WithBot (WithTop ℚ)) <
        (((n : ℚ) / (perOne : ℚ) : ℚ) : WithTop ℚ) ↔ m < n := by
  have hpos : (0 : ℚ) < (perOne : ℚ) := Nat.cast_pos.mpr perOne_pos
  rw [WithBot.coe_lt_coe, WithTop.coe_lt_coe, div_lt_div_iff_of_pos_right hpos, Int.cast_lt]

/-- Doubles are in the order of what they denote exactly if the units that they count are. -/
theorem value_lt_value_iff {a b : Double} (ha : a.isNaN = false) (hb : b.isNaN = false) :
    a.value < b.value ↔ a.scaled < b.scaled := by
  -- The two infinities count different units.
  have hpos : 0 < unitsOf infinityMagnitude := unitsOf_pos_iff.mpr (by decide)
  rcases value_cases ha with ⟨hlt, hgt, hvalue⟩ | ⟨htop, hvalue⟩ | ⟨hbot, hvalue⟩
  · rcases value_cases hb with ⟨hlt', hgt', hvalue'⟩ | ⟨htop', hvalue'⟩ | ⟨hbot', hvalue'⟩
    · rw [hvalue, hvalue']
      exact units_div_lt_iff
    · rw [hvalue, hvalue']
      exact iff_of_true (WithBot.coe_lt_coe.mpr (WithTop.coe_lt_top _)) (by omega)
    · rw [hvalue']
      exact iff_of_false not_lt_bot (by omega)
  · have hle : b.scaled ≤ unitsOf infinityMagnitude := by
      rcases value_cases hb with ⟨_, _, _⟩ | ⟨_, _⟩ | ⟨_, _⟩ <;> omega
    rw [hvalue]
    exact iff_of_false not_top_lt (by omega)
  · rcases value_cases hb with ⟨hlt', hgt', hvalue'⟩ | ⟨htop', hvalue'⟩ | ⟨hbot', hvalue'⟩
    · rw [hvalue, hvalue']
      exact iff_of_true (WithBot.bot_lt_coe _) (by omega)
    · rw [hvalue, hvalue']
      exact iff_of_true (WithBot.bot_lt_coe _) (by omega)
    · rw [hvalue']
      exact iff_of_false not_lt_bot (by omega)

/-- Doubles denote the same exactly if they count the same units. -/
theorem value_eq_value_iff {a b : Double} (ha : a.isNaN = false) (hb : b.isNaN = false) :
    a.value = b.value ↔ a.scaled = b.scaled := by
  have hab := value_lt_value_iff ha hb
  have hba := value_lt_value_iff hb ha
  constructor
  · intro heq
    have hnot : ¬a.scaled < b.scaled := fun h => (hab.mpr h).ne heq
    have hnot' : ¬b.scaled < a.scaled := fun h => (hba.mpr h).ne' heq
    omega
  · intro heq
    have hle : a.value ≤ b.value := not_lt.mp fun h => absurd (hba.mp h) (by omega)
    have hle' : b.value ≤ a.value := not_lt.mp fun h => absurd (hab.mp h) (by omega)
    exact le_antisymm hle hle'

end TypedStore.Double
