import TypedStore.Index.Key
import TypedStore.Proofs.Json.Double

/-!
# Keys and quantities

The places of doubles are ordered as the doubles are. The key of a number tells its quantity,
except that an integer beyond the signed ones of 64 bits counts as the nearest double. Numbers
that share a key are the same when they are read as doubles.
-/

namespace TypedStore

-- Powers are those of the numbers themselves, whatever other powers there are.
attribute [local instance(2000)] instPowNat

namespace Double

/-- The place of a double and its value go by the magnitude, upward from zero or downward. -/
theorem place_cases (d : Double) :
    d.place = 2 ^ (63 : Nat) + d.magnitude ∧ d.scaled = unitsOf d.magnitude ∨
      0 < d.magnitude ∧ d.place + d.magnitude + 1 = 2 ^ (63 : Nat) ∧
        d.scaled = -(unitsOf d.magnitude : Int) := by
  have hlt : d.magnitude < 2 ^ (63 : Nat) := Nat.mod_lt _ (by decide)
  unfold place scaled
  rw [scaledMagnitude_eq]
  by_cases hneg : d.isNegative = true
  · by_cases hzero : d.magnitude = 0
    · simp [hneg, hzero]
    · right
      rw [if_pos ⟨hneg, hzero⟩, if_pos hneg]
      omega
  · left
    rw [if_neg fun h => hneg h.1, if_neg hneg]
    exact ⟨rfl, rfl⟩

/-- The places of doubles are ordered by value. -/
theorem place_lt_place_iff {a b : Double} : a.place < b.place ↔ a.scaled < b.scaled := by
  have hab : unitsOf a.magnitude < unitsOf b.magnitude ↔ a.magnitude < b.magnitude := unitsOf_lt_iff
  have hba : unitsOf b.magnitude < unitsOf a.magnitude ↔ b.magnitude < a.magnitude := unitsOf_lt_iff
  have ha : 0 < unitsOf a.magnitude ↔ 0 < a.magnitude := unitsOf_pos_iff
  have hb : 0 < unitsOf b.magnitude ↔ 0 < b.magnitude := unitsOf_pos_iff
  rcases place_cases a with ⟨hplace, hscaled⟩ | ⟨hpos, hplace, hscaled⟩ <;>
    rcases place_cases b with ⟨hplace', hscaled'⟩ | ⟨hpos', hplace', hscaled'⟩ <;> omega

/-- Doubles share a place exactly if they are equal by value. -/
theorem place_eq_place_iff {a b : Double} : a.place = b.place ↔ a.scaled = b.scaled := by
  have hab := place_lt_place_iff (a := a) (b := b)
  have hba := place_lt_place_iff (a := b) (b := a)
  omega

end Double

namespace Number

/-- The quantity of a number, counted in units of 2⁻¹⁰⁷⁴. -/
def quantity : Number → Int
  | int i _ _ => i * (Double.perOne : Int)
  | double d _ => d.scaled

/-- A number is a signed integer of 64 bits. -/
def isSigned : Number → Bool
  | int i _ _ => i < 2 ^ (63 : Nat)
  | double _ _ => false

theorem isSigned_iff {n : Number} : n.isSigned = true ↔
    ∃ i lower upper, n = int i lower upper ∧ i < 2 ^ (63 : Nat) := by
  cases n with
  | int i lower upper =>
    constructor
    · exact fun h => ⟨i, lower, upper, rfl, of_decide_eq_true h⟩
    · rintro ⟨_, _, _, ⟨⟩, h⟩
      exact decide_eq_true h
  | double d finite => simp [isSigned]

/-- The quantity that a key tells: a signed integer counts itself, any other number counts as
the nearest double. -/
def keyed (n : Number) : Int :=
  if n.isSigned then n.quantity else n.toDouble.scaled

/-- A number keeps its quantity when it is read as a double. -/
def IsExact (n : Number) : Prop := n.toDouble.scaled = n.quantity

theorem isExact_double (d : Double) (finite : d.isFinite = true) : IsExact (double d finite) := rfl

/-- The integers that keep their quantity are those whose binary digits beyond the leading 53 are
zero. -/
theorem isExact_int_iff {i : Int} {lower : -2 ^ (63 : Nat) ≤ i} {upper : i < 2 ^ (64 : Nat)} :
    IsExact (int i lower upper) ↔ 2 ^ (i.natAbs.log2 - 52) ∣ i.natAbs :=
  ⟨Double.dvd_of_scaled_eq, Double.scaled_ofInt_of_dvd (by omega)⟩

/-- Integers up to 2⁵³ keep their quantity. -/
theorem isExact_int_of_le {i : Int} (lower : -2 ^ (63 : Nat) ≤ i) (upper : i < 2 ^ (64 : Nat))
    (h : i.natAbs ≤ 2 ^ (53 : Nat)) : IsExact (int i lower upper) := by
  rw [isExact_int_iff]
  rcases Nat.lt_or_eq_of_le h with hlt | heq
  · by_cases hzero : i.natAbs = 0
    · rw [hzero]
      exact Nat.dvd_zero _
    · have hlog : i.natAbs.log2 < 53 := (Nat.log2_lt hzero).mpr hlt
      rw [Nat.sub_eq_zero_of_le (by omega), Nat.pow_zero]
      exact Nat.one_dvd _
  · rw [heq, Nat.log2_two_pow]
    exact Nat.pow_dvd_pow 2 (by decide)

/-- Numbers of one quantity are the same when they are read as doubles. -/
theorem scaled_toDouble_of_quantity_eq {a b : Number} (h : a.quantity = b.quantity) :
    a.toDouble.scaled = b.toDouble.scaled := by
  have hexact {i : Int} (lower : -2 ^ (63 : Nat) ≤ i) (upper : i < 2 ^ (64 : Nat)) {d : Double}
      (h : d.scaled = i * (Double.perOne : Int)) : (Double.ofInt i).scaled = d.scaled := by
    have hkept : IsExact (int i lower upper) := isExact_int_iff.mpr (Double.dvd_of_scaled_eq h)
    exact hkept.trans h.symm
  cases a with
  | int i lower upper =>
    cases b with
    | int j lower' upper' =>
      obtain rfl : i = j := (Int.mul_eq_mul_right_iff Double.natCast_perOne_ne_zero).mp h
      rfl
    | double d finite => exact hexact lower upper h.symm
  | double d finite =>
    cases b with
    | int j lower' upper' => exact (hexact lower' upper' h).symm
    | double e finite' => exact h

/-- The key of a signed integer tells its quantity. -/
theorem keyed_of_isSigned {n : Number} (h : n.isSigned = true) :
    n.keyed = n.quantity ∧ n.quantity < 2 ^ (63 : Nat) * (Double.perOne : Int) := by
  refine ⟨if_pos h, ?_⟩
  obtain ⟨i, lower, upper, rfl, hi⟩ := isSigned_iff.mp h
  exact Int.mul_lt_mul_of_pos_right hi (Int.natCast_pos.mpr Double.perOne_pos)

/-- The key of any other number tells its quantity too, or both are beyond the signed integers. -/
theorem keyed_of_not_isSigned {n : Number} (h : ¬n.isSigned = true) :
    n.keyed = n.quantity ∨ 2 ^ (63 : Nat) * (Double.perOne : Int) ≤ n.keyed ∧
      2 ^ (63 : Nat) * (Double.perOne : Int) ≤ n.quantity := by
  rw [keyed, if_neg h]
  cases n with
  | int i lower upper =>
    have hi : 2 ^ (63 : Nat) ≤ i := by
      simpa [isSigned] using h
    exact Or.inr ⟨Double.le_scaled_ofInt hi upper,
      Int.mul_le_mul_of_nonneg_right hi (Int.natCast_nonneg _)⟩
  | double d finite => exact Or.inl rfl

/-- Where one of two numbers is a signed integer, their keys tell the same quantity exactly if
they have the same quantity. -/
theorem keyed_eq_keyed_iff_of_isSigned {a b : Number}
    (h : a.isSigned = true ∨ b.isSigned = true) : a.keyed = b.keyed ↔ a.quantity = b.quantity := by
  have hcases (n : Number) : n.isSigned = true ∨ ¬n.isSigned = true := Decidable.em _
  rcases hcases a with ha | ha <;> rcases hcases b with hb | hb
  · rw [(keyed_of_isSigned ha).1, (keyed_of_isSigned hb).1]
  · have := keyed_of_isSigned ha
    have := keyed_of_not_isSigned hb
    omega
  · have := keyed_of_not_isSigned ha
    have := keyed_of_isSigned hb
    omega
  · exact absurd h (not_or.mpr ⟨ha, hb⟩)

/-- Keys of two numbers tell the same quantity exactly if the numbers are the same when they are
read as doubles and reading them so has mixed up no signed integer with another quantity. -/
theorem keyed_eq_keyed_iff {a b : Number} : a.keyed = b.keyed ↔
    a.toDouble.scaled = b.toDouble.scaled ∧
      (a.quantity = b.quantity ∨ ¬a.isSigned = true ∧ ¬b.isSigned = true) := by
  by_cases h : a.isSigned = true ∨ b.isSigned = true
  · rw [keyed_eq_keyed_iff_of_isSigned h, ← not_or]
    constructor
    · exact fun hquantity => ⟨scaled_toDouble_of_quantity_eq hquantity, Or.inl hquantity⟩
    · exact fun ⟨_, hquantity⟩ => hquantity.resolve_right (not_not_intro h)
  · rw [not_or] at h
    simp only [keyed, if_neg h.1, if_neg h.2]
    exact ⟨fun hsame => ⟨hsame, Or.inr h⟩, And.left⟩

end Number

namespace IndexKey

/-- The key of a double is that of a signed integer of 64 bits, where it denotes one, and else
its place. -/
theorem ofQuantity_cases (d : Double) :
    (∃ i : Int, (-2 ^ (63 : Nat) ≤ i ∧ i < 2 ^ (63 : Nat)) ∧ d.scaled = i * (Double.perOne : Int) ∧
        ofNumber.ofQuantity d = int i) ∨
      (∀ i : Int, -2 ^ (63 : Nat) ≤ i ∧ i < 2 ^ (63 : Nat) → d.scaled ≠ i * (Double.perOne : Int)) ∧
        ofNumber.ofQuantity d = float d.place := by
  unfold ofNumber.ofQuantity
  split
  next i hi =>
    split
    next hrange => exact Or.inl ⟨i, hrange, Double.toInt?_eq_some_iff.mp hi, rfl⟩
    next hrange =>
      refine Or.inr ⟨fun j hj hscaled => hrange ?_, rfl⟩
      rw [← Double.toInt?_eq_some_iff, hi] at hscaled
      obtain rfl := Option.some.inj hscaled
      exact hj
  next hnone =>
    refine Or.inr ⟨fun j _ hscaled => ?_, rfl⟩
    rw [← Double.toInt?_eq_some_iff, hnone] at hscaled
    contradiction

/-- A number that is no signed integer of 64 bits has the key of the nearest double. -/
theorem ofNumber_of_not_isSigned {n : Number} (h : ¬n.isSigned = true) :
    ofNumber n = ofNumber.ofQuantity n.toDouble := by
  cases n with
  | int i lower upper => exact if_neg (by simpa [Number.isSigned] using h)
  | double d finite => rfl

/-- The key of a number is a signed integer of 64 bits, where the quantity that it tells is one,
and else the place of a double with this quantity. -/
theorem ofNumber_cases (n : Number) :
    (∃ i : Int, (-2 ^ (63 : Nat) ≤ i ∧ i < 2 ^ (63 : Nat)) ∧ n.keyed = i * (Double.perOne : Int) ∧
        ofNumber n = int i) ∨
      ∃ d : Double, (∀ i : Int, -2 ^ (63 : Nat) ≤ i ∧ i < 2 ^ (63 : Nat) →
        d.scaled ≠ i * (Double.perOne : Int)) ∧ n.keyed = d.scaled ∧
          ofNumber n = float d.place := by
  by_cases hsigned : n.isSigned = true
  · obtain ⟨i, lower, upper, rfl, hi⟩ := Number.isSigned_iff.mp hsigned
    exact Or.inl ⟨i, ⟨lower, hi⟩, if_pos hsigned, if_pos hi⟩
  · rw [ofNumber_of_not_isSigned hsigned, Number.keyed, if_neg hsigned]
    rcases ofQuantity_cases n.toDouble with h | ⟨hno, hkey⟩
    · exact Or.inl h
    · exact Or.inr ⟨n.toDouble, hno, rfl, hkey⟩

/-- Numbers share a key exactly if their keys tell the same quantity. -/
theorem ofNumber_eq_ofNumber_iff {a b : Number} : ofNumber a = ofNumber b ↔ a.keyed = b.keyed := by
  rcases ofNumber_cases a with ⟨i, hi, hkeyed, hkey⟩ | ⟨d, hd, hkeyed, hkey⟩ <;>
    rcases ofNumber_cases b with ⟨j, hj, hkeyed', hkey'⟩ | ⟨e, he, hkeyed', hkey'⟩ <;>
    rw [hkey, hkey', hkeyed, hkeyed']
  · rw [int.injEq, Int.mul_eq_mul_right_iff Double.natCast_perOne_ne_zero]
  · simpa using fun h => he i hi h.symm
  · simpa using hd j hj
  · rw [float.injEq, Double.place_eq_place_iff]

end IndexKey

end TypedStore
