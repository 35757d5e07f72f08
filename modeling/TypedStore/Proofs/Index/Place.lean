import TypedStore.Proofs.Index.Quantity
import TypedStore.Proofs.Json.Value

/-!
# Keys of doubles

The place of a double among all doubles is read off its bits: those of a negative double are turned
over, and of any other double the sign bit is set. Zeros are first made the same. This file shows
that keys are in the order of the numbers that the doubles denote, from one infinity to the other.
-/

namespace TypedStore

-- Powers are those of the numbers themselves, whatever other powers there are.
attribute [local instance(2000)] instPowNat

/-- Setting a bit above all bits of a number adds its power of two. -/
theorem xor_two_pow {n bit : Nat} (h : n < 2 ^ bit) : n ^^^ 2 ^ bit = 2 ^ bit + n := by
  have hdiv : (n ^^^ 2 ^ bit) / 2 ^ bit = 1 := by
    rw [Nat.xor_div_two_pow, Nat.div_eq_of_lt h, Nat.div_self (Nat.two_pow_pos bit), Nat.zero_xor]
  have hmod : (n ^^^ 2 ^ bit) % 2 ^ bit = n := by
    rw [Nat.xor_mod_two_pow, Nat.mod_eq_of_lt h, Nat.mod_self, Nat.xor_zero]
  have hwhole := Nat.div_add_mod (n ^^^ 2 ^ bit) (2 ^ bit)
  rw [hdiv, hmod, Nat.mul_one] at hwhole
  exact hwhole.symm

namespace Double

/-- The bits of a double, with those of zero for both zeros. -/
def zeroedBits (d : Double) : UInt64 := if d.same ⟨0⟩ then 0 else d.bits

/-- The bits of a double in the order of all doubles: they are turned over where the sign bit is
set, and elsewhere the sign bit is set. -/
def orderedBits (d : Double) : UInt64 :=
  if d.zeroedBits >>> 63 = 1 then ~~~d.zeroedBits else d.zeroedBits ^^^ ((1 : UInt64) <<< 63)

/-- The zeros are the doubles without magnitude. -/
theorem same_zero_iff {d : Double} : d.same ⟨0⟩ = true ↔ d.magnitude = 0 := by
  have hzero : (⟨0⟩ : Double).scaled = 0 := by decide
  have hunits : d.scaled.natAbs = unitsOf d.magnitude := natAbs_scaled d
  have hpos : 0 < unitsOf d.magnitude ↔ 0 < d.magnitude := unitsOf_pos_iff
  rw [same, decide_eq_true_iff, hzero]
  omega

/-- The sign bit is the highest one. -/
theorem shiftRight_eq_one_iff {bits : UInt64} : bits >>> 63 = 1 ↔ 2 ^ (63 : Nat) ≤ bits.toNat := by
  have hlt : bits.toNat < 2 ^ (64 : Nat) := bits.toNat_lt
  have hshift : (bits >>> 63).toNat = bits.toNat / 2 ^ (63 : Nat) := by
    rw [UInt64.toNat_shiftRight, Nat.shiftRight_eq_div_pow]
    rfl
  have hone : (1 : UInt64).toNat = 1 := rfl
  rw [← UInt64.toNat_inj, hshift, hone]
  omega

/-- Both zeros have the place behind all negative doubles. -/
theorem place_of_magnitude_eq_zero {d : Double} (h : d.magnitude = 0) :
    d.place = 2 ^ (63 : Nat) := by
  rw [place, if_neg fun hneg => hneg.2 h, h, Nat.add_zero]

/-- The bits of a double that is no zero are found again from its place. -/
theorem toNat_bits_cases {d : Double} (h : d.magnitude ≠ 0) :
    d.bits.toNat < 2 ^ (63 : Nat) ∧ 2 ^ (63 : Nat) < d.place ∧
        d.place = 2 ^ (63 : Nat) + d.bits.toNat ∨
      2 ^ (63 : Nat) ≤ d.bits.toNat ∧ d.place < 2 ^ (63 : Nat) ∧
        d.place + d.bits.toNat + 1 = 2 ^ (64 : Nat) := by
  have hlt : d.bits.toNat < 2 ^ (64 : Nat) := d.bits.toNat_lt
  by_cases hnegative : 2 ^ (63 : Nat) ≤ d.bits.toNat
  · right
    have hplace : d.place = 2 ^ (63 : Nat) - 1 - d.magnitude :=
      if_pos ⟨decide_eq_true hnegative, h⟩
    unfold magnitude at hplace h
    omega
  · left
    have hplace : d.place = 2 ^ (63 : Nat) + d.magnitude :=
      if_neg fun hneg => hnegative (of_decide_eq_true hneg.1)
    unfold magnitude at hplace h
    omega

/-- The place of a double is the number that its ordered bits make. -/
theorem place_eq_toNat_orderedBits (d : Double) : d.place = d.orderedBits.toNat := by
  have hsign : ((1 : UInt64) <<< 63).toNat = 2 ^ (63 : Nat) := by decide
  unfold orderedBits
  by_cases hzero : d.magnitude = 0
  · have hbits : d.zeroedBits = 0 := if_pos (same_zero_iff.mpr hzero)
    rw [place_of_magnitude_eq_zero hzero, hbits]
    decide
  · have hbits : d.zeroedBits = d.bits := if_neg fun h => hzero (same_zero_iff.mp h)
    rw [hbits]
    rcases toNat_bits_cases hzero with ⟨hunsigned, -, hplace⟩ | ⟨hsigned, -, hplace⟩
    · have hclear : ¬d.bits >>> 63 = 1 := fun h =>
        Nat.not_le.mpr hunsigned (shiftRight_eq_one_iff.mp h)
      rw [if_neg hclear, UInt64.toNat_xor, hsign, xor_two_pow hunsigned, hplace]
    · have hnot : (~~~d.bits).toNat = 2 ^ (64 : Nat) - 1 - d.bits.toNat := UInt64.toNat_not d.bits
      rw [if_pos (shiftRight_eq_one_iff.mpr hsigned), hnot]
      omega

/-- Doubles share a place exactly if they are the same, or if both are zeros. -/
theorem place_eq_place_iff_zeros {a b : Double} :
    a.place = b.place ↔ a = b ∨ a.magnitude = 0 ∧ b.magnitude = 0 := by
  constructor
  · intro h
    by_cases ha : a.magnitude = 0
    · have hplace := place_of_magnitude_eq_zero ha
      by_cases hb : b.magnitude = 0
      · exact Or.inr ⟨ha, hb⟩
      · have := toNat_bits_cases hb
        omega
    · have hplace := toNat_bits_cases ha
      by_cases hb : b.magnitude = 0
      · have := place_of_magnitude_eq_zero hb
        omega
      · have hplace' := toNat_bits_cases hb
        have hbits : a.bits.toNat = b.bits.toNat := by omega
        obtain ⟨bits⟩ := a
        obtain ⟨bits'⟩ := b
        exact Or.inl (congrArg Double.mk (UInt64.toNat_inj.mp hbits))
  · rintro (rfl | ⟨ha, hb⟩)
    · rfl
    · rw [place_of_magnitude_eq_zero ha, place_of_magnitude_eq_zero hb]

end Double

namespace IndexKey

variable {a b : Double}

/-- Keys of doubles are in the order of the places. -/
theorem cmp_ofDouble_eq_lt_iff : cmp (ofDouble a) (ofDouble b) = .lt ↔ a.place < b.place := by
  rw [ofDouble, ofDouble, cmp, Nat.compare_eq_lt]

/-- Keys of doubles are the same exactly if the places are. -/
theorem ofDouble_eq_ofDouble_iff : ofDouble a = ofDouble b ↔ a.place = b.place := by
  rw [ofDouble, ofDouble, float.injEq]

/-- Keys keep the order of doubles. The key of a double is the number that its ordered bits make.
For doubles that are no NaNs, infinities and the least doubles among them, one key comes before
another one exactly if the one double denotes less than the other, and the keys are the same exactly
if the doubles denote the same. So the two zeros share a key, and no other doubles do. -/
theorem ofDouble_ordered (ha : a.isNaN = false) (hb : b.isNaN = false) :
    (∀ d, ofDouble d = float d.orderedBits.toNat) ∧
      (cmp (ofDouble a) (ofDouble b) = .lt ↔ a.value < b.value) ∧
      (ofDouble a = ofDouble b ↔ a.value = b.value) ∧
      (ofDouble a = ofDouble b ↔ a = b ∨ a.magnitude = 0 ∧ b.magnitude = 0) := by
  refine ⟨fun d => ?_, ?_, ?_, ?_⟩
  · rw [ofDouble, d.place_eq_toNat_orderedBits]
  · rw [cmp_ofDouble_eq_lt_iff, Double.place_lt_place_iff, Double.value_lt_value_iff ha hb]
  · rw [ofDouble_eq_ofDouble_iff, Double.place_eq_place_iff, Double.value_eq_value_iff ha hb]
  · rw [ofDouble_eq_ofDouble_iff, Double.place_eq_place_iff_zeros]

/-- Negative infinity has a key before that of the greatest negative double. -/
theorem ofDouble_ordered_negative :
    let least : Double := ⟨0xfff0000000000000⟩
    let greatest : Double := ⟨0x8000000000000001⟩
    least.isNaN = false ∧ greatest.isNaN = false ∧
      cmp (ofDouble least) (ofDouble greatest) = .lt ∧ least.value < greatest.value ∧
      ofDouble least ≠ ofDouble greatest ∧ least.value ≠ greatest.value := by
  intro least greatest
  have hleast : least.isNaN = false := by decide
  have hgreatest : greatest.isNaN = false := by decide
  obtain ⟨-, hlt, heq, -⟩ := ofDouble_ordered hleast hgreatest
  have hkeys : cmp (ofDouble least) (ofDouble greatest) = .lt := by decide
  have hne : ofDouble least ≠ ofDouble greatest := by decide
  exact ⟨hleast, hgreatest, hkeys, hlt.mp hkeys, hne, fun h => hne (heq.mpr h)⟩

end IndexKey

end TypedStore
