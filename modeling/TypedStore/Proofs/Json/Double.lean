import TypedStore.Json.Double

/-!
# Integers among the doubles

The magnitude bits of a double count units of 2⁻¹⁰⁷⁴, and greater bits count for more. An integer
of 64 bits is rounded to its 53 leading binary digits: those that a double denotes are exactly
those that lose nothing, and no integer falls below its leading digit.
-/

namespace TypedStore.Double

-- Powers are those of the numbers themselves, whatever other powers there are.
attribute [local instance(2000)] instPowNat

/-- One is this power of two, counted in units. -/
@[irreducible] def exponentOfOne : Nat := 1074

/-- How many units make one. -/
def perOne : Nat := 2 ^ exponentOfOne

theorem exponentOfOne_eq : exponentOfOne = 1074 := by
  unfold exponentOfOne
  rfl

theorem perOne_pos : 0 < perOne := Nat.two_pow_pos _

theorem natCast_perOne_ne_zero : (perOne : Int) ≠ 0 :=
  Int.natCast_ne_zero.mpr (Nat.ne_of_gt perOne_pos)

theorem natCast_perOne : (perOne : Int) = 2 ^ exponentOfOne := Int.natCast_pow 2 exponentOfOne

/-- What magnitude bits count, in units of 2⁻¹⁰⁷⁴. -/
def unitsOf (magnitude : Nat) : Nat :=
  if magnitude / 2 ^ (52 : Nat) = 0 then magnitude % 2 ^ (52 : Nat)
  else (2 ^ (52 : Nat) + magnitude % 2 ^ (52 : Nat)) * 2 ^ (magnitude / 2 ^ (52 : Nat) - 1)

/-- The absolute value is what the magnitude bits count. -/
theorem scaledMagnitude_eq (d : Double) : d.scaledMagnitude = unitsOf d.magnitude := by
  rfl

/-- A significand fits an exponent: it has 53 binary digits, or fewer where the exponent is the
least one. It may also be the next power of two, which is carried over to the exponent. -/
structure Normal (exponent significand : Nat) : Prop where
  le : significand ≤ 2 ^ (53 : Nat)
  ge : exponent ≠ 0 → 2 ^ (52 : Nat) ≤ significand

/-- A significand with its exponent counts as often as the exponent says. -/
theorem unitsOf_of_normal {exponent significand : Nat} (h : Normal exponent significand) :
    unitsOf (exponent * 2 ^ (52 : Nat) + significand) = significand * 2 ^ exponent := by
  obtain ⟨hle, hge⟩ := h
  unfold unitsOf
  by_cases hsmall : significand < 2 ^ (52 : Nat)
  · have hexponent : exponent = 0 := by omega
    subst hexponent
    rw [if_pos (by omega)]
    omega
  · rcases Nat.lt_or_eq_of_le hle with hlt | rfl
    · have hdiv : (exponent * 2 ^ (52 : Nat) + significand) / 2 ^ (52 : Nat) = exponent + 1 := by
        omega
      have hmod : 2 ^ (52 : Nat) + (exponent * 2 ^ (52 : Nat) + significand) % 2 ^ (52 : Nat) =
          significand := by
        omega
      rw [hdiv, hmod, if_neg (by omega), Nat.add_sub_cancel]
    · have hdiv : (exponent * 2 ^ (52 : Nat) + 2 ^ (53 : Nat)) / 2 ^ (52 : Nat) = exponent + 2 := by
        omega
      have hmod : 2 ^ (52 : Nat) + (exponent * 2 ^ (52 : Nat) + 2 ^ (53 : Nat)) % 2 ^ (52 : Nat) =
          2 ^ (52 : Nat) := by
        omega
      have hcarry : exponent + 2 - 1 = 1 + exponent := by
        omega
      rw [hdiv, hmod, hcarry, if_neg (by omega), Nat.pow_add, ← Nat.mul_assoc]

/-- Magnitude bits are a significand with an exponent, and there is room for one more. -/
theorem exists_normal (magnitude : Nat) : ∃ exponent significand,
    magnitude = exponent * 2 ^ (52 : Nat) + significand ∧ significand < 2 ^ (53 : Nat) ∧
      Normal exponent significand := by
  by_cases h : magnitude < 2 ^ (52 : Nat)
  · exact ⟨0, magnitude, by omega, by omega, by omega, by omega⟩
  · exact ⟨magnitude / 2 ^ (52 : Nat) - 1, 2 ^ (52 : Nat) + magnitude % 2 ^ (52 : Nat), by omega,
      by omega, by omega, by omega⟩

/-- The next magnitude bits count for more. -/
theorem unitsOf_lt_succ (magnitude : Nat) : unitsOf magnitude < unitsOf (magnitude + 1) := by
  obtain ⟨exponent, significand, rfl, hlt, hnormal⟩ := exists_normal magnitude
  have hnext : Normal exponent (significand + 1) :=
    ⟨by omega, fun h => Nat.le_succ_of_le (hnormal.ge h)⟩
  rw [Nat.add_assoc, unitsOf_of_normal hnormal, unitsOf_of_normal hnext]
  exact Nat.mul_lt_mul_of_pos_right (Nat.lt_succ_self _) (Nat.two_pow_pos _)

/-- Greater magnitude bits count for more. -/
theorem unitsOf_lt_iff {a b : Nat} : unitsOf a < unitsOf b ↔ a < b := by
  have hmono {a b : Nat} (h : a < b) : unitsOf a < unitsOf b := by
    induction h with
    | refl => exact unitsOf_lt_succ a
    | step _ ih => exact Nat.lt_trans ih (unitsOf_lt_succ _)
  refine ⟨fun h => ?_, hmono⟩
  rcases Nat.lt_trichotomy a b with hlt | rfl | hgt
  · exact hlt
  · exact absurd h (Nat.lt_irrefl _)
  · exact absurd h (Nat.lt_asymm (hmono hgt))

@[simp] theorem unitsOf_zero : unitsOf 0 = 0 := by
  rfl

/-- Magnitude bits count for something unless they are zero. -/
theorem unitsOf_pos_iff {magnitude : Nat} : 0 < unitsOf magnitude ↔ 0 < magnitude :=
  unitsOf_lt_iff (a := 0)

/-- The value of a double that is put together from a sign and a magnitude. -/
theorem scaled_ofMagnitude (negative : Bool) {magnitude : Nat} (h : magnitude < 2 ^ (63 : Nat)) :
    (ofMagnitude negative magnitude).scaled =
      if negative then -(unitsOf magnitude : Int) else unitsOf magnitude := by
  cases negative with
  | false =>
    have hbits : (ofMagnitude false magnitude).bits.toNat = magnitude := by
      simp only [ofMagnitude, Bool.false_eq_true, if_false, UInt64.toNat_ofNat']
      omega
    simp only [scaled, isNegative, scaledMagnitude_eq, Double.magnitude, hbits]
    rw [Nat.mod_eq_of_lt h]
    simp [Nat.not_le.mpr h]
  | true =>
    have hbits : (ofMagnitude true magnitude).bits.toNat = 2 ^ (63 : Nat) + magnitude := by
      simp only [ofMagnitude, if_true, UInt64.toNat_ofNat']
      omega
    simp only [scaled, isNegative, scaledMagnitude_eq, Double.magnitude, hbits]
    rw [Nat.add_mod_left, Nat.mod_eq_of_lt h]
    simp

/-- A quotient that leaves no rest is not rounded. -/
theorem roundHalfEven_of_dvd {numerator denominator : Nat} (hpos : 0 < denominator)
    (h : denominator ∣ numerator) :
    roundHalfEven numerator denominator = numerator / denominator := by
  simp [roundHalfEven, Nat.mod_eq_zero_of_dvd h, hpos]

/-- Rounding takes a quotient or the next number. -/
theorem roundHalfEven_bounds (numerator denominator : Nat) :
    numerator / denominator ≤ roundHalfEven numerator denominator ∧
      roundHalfEven numerator denominator ≤ numerator / denominator + 1 := by
  simp only [roundHalfEven]
  split
  · omega
  · split <;> omega

/-- The 53 leading binary digits of a whole number, rounded. -/
def significand (n : Nat) : Nat :=
  if n.log2 ≤ 52 then n * 2 ^ (52 - n.log2) else roundHalfEven n (2 ^ (n.log2 - 52))

/-- The leading digit of a whole number is found at once. -/
theorem leadingExponent_one {n : Nat} (hn : n ≠ 0) : leadingExponent n 1 = n.log2 := by
  have hone : Nat.log2 1 = 0 := rfl
  simp [leadingExponent, overPowerOfTwo, hone, Nat.log2_self_le hn]

/-- The rounded digits are at least 53 digits, and at most the next power of two. -/
theorem normal_significand {n : Nat} (hn : n ≠ 0) (exponent : Nat) :
    Normal exponent (significand n) := by
  have hlo : 2 ^ n.log2 ≤ n := Nat.log2_self_le hn
  have hhi : n < 2 ^ (n.log2 + 1) := Nat.lt_log2_self
  suffices 2 ^ (52 : Nat) ≤ significand n ∧ significand n ≤ 2 ^ (53 : Nat) from
    ⟨this.2, fun _ => this.1⟩
  unfold significand
  split
  next h =>
    have hlo' := Nat.mul_le_mul_right (2 ^ (52 - n.log2)) hlo
    have hhi' := Nat.mul_le_mul_right (2 ^ (52 - n.log2)) (Nat.le_of_lt hhi)
    rw [← Nat.pow_add] at hlo' hhi'
    have h52 : n.log2 + (52 - n.log2) = 52 := by omega
    have h53 : n.log2 + 1 + (52 - n.log2) = 53 := by omega
    rw [h52] at hlo'
    rw [h53] at hhi'
    exact ⟨hlo', hhi'⟩
  next h =>
    obtain ⟨hge, hle⟩ := roundHalfEven_bounds n (2 ^ (n.log2 - 52))
    have h52 : n.log2 = 52 + (n.log2 - 52) := by omega
    have h53 : n.log2 + 1 = 53 + (n.log2 - 52) := by omega
    have hquotient : 2 ^ (52 : Nat) ≤ n / 2 ^ (n.log2 - 52) := by
      rw [Nat.le_div_iff_mul_le (Nat.two_pow_pos _), ← Nat.pow_add, ← h52]
      exact hlo
    have hquotient' : n / 2 ^ (n.log2 - 52) < 2 ^ (53 : Nat) := by
      rw [Nat.div_lt_iff_lt_mul (Nat.two_pow_pos _), ← Nat.pow_add, ← h53]
      exact hhi
    exact ⟨by omega, by omega⟩

/-- Rounding a whole number at the place of its 53rd digit gives its rounded digits. -/
theorem roundHalfEven_overPowerOfTwo (n : Nat) :
    roundHalfEven (overPowerOfTwo n 1 (n.log2 - 52)).1 (overPowerOfTwo n 1 (n.log2 - 52)).2 =
      significand n := by
  unfold overPowerOfTwo significand
  rcases Nat.lt_trichotomy n.log2 52 with hlt | heq | hgt
  · have hshift : (-((n.log2 : Int) - 52)).toNat = 52 - n.log2 := by
      omega
    rw [if_neg (by omega), if_pos (by omega), hshift, roundHalfEven_one]
  · simp [heq, roundHalfEven_one]
  · have hshift : ((n.log2 : Int) - 52).toNat = n.log2 - 52 := by
      omega
    rw [if_pos (by omega), if_neg (by omega), hshift, Nat.one_mul]

/-- The double nearest to a whole number of 64 bits has its rounded digits. -/
theorem nearestMagnitude_one {n : Nat} (hn : n ≠ 0) (h : n < 2 ^ (64 : Nat)) :
    nearestMagnitude n 1 = (n.log2 + 1022) * 2 ^ (52 : Nat) + significand n := by
  have hlog : n.log2 < 64 := (Nat.log2_lt hn).mpr h
  have hfinite : (n.log2 + 1022) * 2 ^ (52 : Nat) + significand n ≤ infinityMagnitude := by
    have := (normal_significand hn 0).le
    unfold infinityMagnitude
    omega
  have hpower : max (-1074) ((n.log2 : Int) - 52) = n.log2 - 52 := by
    omega
  have hexponent : ((n.log2 : Int) - 52 + 1074).toNat = n.log2 + 1022 := by
    omega
  simp only [nearestMagnitude, if_neg hn, leadingExponent_one hn, hpower, hexponent,
    roundHalfEven_overPowerOfTwo]
  exact Nat.min_eq_right hfinite

/-- What the double nearest to a whole number of 64 bits counts. -/
theorem unitsOf_nearestMagnitude {n : Nat} (hn : n ≠ 0) (h : n < 2 ^ (64 : Nat)) :
    unitsOf (nearestMagnitude n 1) = significand n * 2 ^ (n.log2 + 1022) := by
  rw [nearestMagnitude_one hn h, unitsOf_of_normal (normal_significand hn _)]

/-- A whole number whose digits beyond the leading 53 are zero is not rounded. -/
theorem unitsOf_nearestMagnitude_of_dvd {n : Nat} (h : n < 2 ^ (64 : Nat))
    (hdvd : 2 ^ (n.log2 - 52) ∣ n) : unitsOf (nearestMagnitude n 1) = n * perOne := by
  by_cases hn : n = 0
  · simp [hn, nearestMagnitude]
  rw [unitsOf_nearestMagnitude hn h]
  unfold significand perOne
  split
  next hle =>
    have hexponent : 52 - n.log2 + (n.log2 + 1022) = exponentOfOne := by
      rw [exponentOfOne_eq]
      omega
    rw [Nat.mul_assoc, ← Nat.pow_add, hexponent]
  next hgt =>
    have hexponent : n.log2 + 1022 = n.log2 - 52 + exponentOfOne := by
      rw [exponentOfOne_eq]
      omega
    rw [roundHalfEven_of_dvd (Nat.two_pow_pos _) hdvd, hexponent, Nat.pow_add, ← Nat.mul_assoc,
      Nat.div_mul_cancel hdvd]

/-- A whole number that magnitude bits count has no digits beyond the leading 53. -/
theorem dvd_of_unitsOf_eq {magnitude n shift : Nat} (h : unitsOf magnitude = n * 2 ^ shift) :
    2 ^ (n.log2 - 52) ∣ n := by
  by_cases hsmall : n.log2 ≤ 52
  · rw [Nat.sub_eq_zero_of_le hsmall, Nat.pow_zero]
    exact Nat.one_dvd n
  have hn : n ≠ 0 := by
    rintro rfl
    exact hsmall (by simp)
  obtain ⟨exponent, significand, rfl, hlt, hnormal⟩ := exists_normal magnitude
  rw [unitsOf_of_normal hnormal] at h
  -- A significand of 53 digits reaches the leading digit only with an exponent that covers the
  -- rest.
  have hexponent : n.log2 - 52 + shift ≤ exponent := by
    have hlo : 2 ^ n.log2 * 2 ^ shift ≤ n * 2 ^ shift :=
      Nat.mul_le_mul_right _ (Nat.log2_self_le hn)
    have hhi : significand * 2 ^ exponent < 2 ^ (53 : Nat) * 2 ^ exponent :=
      Nat.mul_lt_mul_of_pos_right hlt (Nat.two_pow_pos _)
    have hpow : 2 ^ (n.log2 + shift) < 2 ^ (53 + exponent) := by
      rw [Nat.pow_add, Nat.pow_add]
      omega
    have := (Nat.pow_lt_pow_iff_right (by decide)).mp hpow
    omega
  refine Nat.dvd_of_mul_dvd_mul_right (Nat.two_pow_pos shift) ?_
  rw [← h, ← Nat.pow_add]
  exact Nat.dvd_mul_left_of_dvd (Nat.pow_dvd_pow 2 hexponent) significand

/-- Rounding to a double does not go below the leading digit. -/
theorem le_unitsOf_nearestMagnitude {n : Nat} (hn : n ≠ 0) (h : n < 2 ^ (64 : Nat)) :
    2 ^ n.log2 * perOne ≤ unitsOf (nearestMagnitude n 1) := by
  have hexponent : n.log2 + exponentOfOne = 52 + (n.log2 + 1022) := by
    rw [exponentOfOne_eq]
    omega
  rw [unitsOf_nearestMagnitude hn h, perOne, ← Nat.pow_add, hexponent, Nat.pow_add]
  exact Nat.mul_le_mul_right _ ((normal_significand hn 1).ge (by decide))

/-- The absolute value of a double is what its magnitude bits count. -/
theorem natAbs_scaled (d : Double) : d.scaled.natAbs = unitsOf d.magnitude := by
  unfold scaled
  split
  · rw [Int.natAbs_neg, Int.natAbs_natCast, scaledMagnitude_eq]
  · rw [Int.natAbs_natCast, scaledMagnitude_eq]

/-- Rounding goes no further than infinity. -/
theorem nearestMagnitude_le (numerator denominator : Nat) :
    nearestMagnitude numerator denominator ≤ infinityMagnitude := by
  simp only [nearestMagnitude]
  split
  · exact Nat.zero_le _
  · exact Nat.min_le_left _ _

/-- Rounding stays below the bits of a sign. -/
theorem nearestMagnitude_lt (numerator denominator : Nat) :
    nearestMagnitude numerator denominator < 2 ^ (63 : Nat) :=
  Nat.lt_of_le_of_lt (nearestMagnitude_le _ _) (by decide)

/-- The double nearest to an integer has its sign. -/
theorem scaled_ofInt (i : Int) :
    (ofInt i).scaled = i.sign * (unitsOf (nearestMagnitude i.natAbs 1) : Int) := by
  rw [ofInt, scaled_ofMagnitude _ (nearestMagnitude_lt _ _)]
  rcases Int.lt_trichotomy i 0 with hneg | rfl | hpos
  · simp [hneg, Int.sign_eq_neg_one_of_neg hneg]
  · rfl
  · simp [Int.not_lt.mpr (Int.le_of_lt hpos), Int.sign_eq_one_of_pos hpos]

/-- An integer whose digits beyond the leading 53 are zero is not rounded. -/
theorem scaled_ofInt_of_dvd {i : Int} (hlt : i.natAbs < 2 ^ (64 : Nat))
    (hdvd : 2 ^ (i.natAbs.log2 - 52) ∣ i.natAbs) : (ofInt i).scaled = i * (perOne : Int) := by
  rw [scaled_ofInt, unitsOf_nearestMagnitude_of_dvd hlt hdvd, Int.natCast_mul, ← Int.mul_assoc,
    Int.sign_mul_natAbs]

/-- An integer that a double denotes has no digits beyond the leading 53. -/
theorem dvd_of_scaled_eq {d : Double} {i : Int} (h : d.scaled = i * (perOne : Int)) :
    2 ^ (i.natAbs.log2 - 52) ∣ i.natAbs := by
  have hunits : unitsOf d.magnitude = i.natAbs * perOne := by
    rw [← natAbs_scaled, h, Int.natAbs_mul, Int.natAbs_natCast]
  exact dvd_of_unitsOf_eq hunits

/-- An integer of at least 64 digits is not rounded below them. -/
theorem le_scaled_ofInt {i : Int} (hle : 2 ^ (63 : Nat) ≤ i) (hlt : i < 2 ^ (64 : Nat)) :
    2 ^ (63 : Nat) * (perOne : Int) ≤ (ofInt i).scaled := by
  have hn : i.natAbs ≠ 0 := by
    omega
  have hlog : i.natAbs.log2 = 63 := by
    rw [Nat.log2_eq_iff hn]
    omega
  have hunits := le_unitsOf_nearestMagnitude hn (by omega)
  rw [hlog] at hunits
  rw [scaled_ofInt, Int.sign_eq_one_of_pos (by omega), Int.one_mul]
  exact_mod_cast hunits

/-- A double denotes an integer exactly if its units make that many ones. -/
theorem toInt?_eq_some_iff {d : Double} {i : Int} :
    d.toInt? = some i ↔ d.scaled = i * (perOne : Int) := by
  unfold toInt?
  rw [← exponentOfOne_eq, ← natCast_perOne]
  split
  next h =>
    rw [Option.some_inj]
    constructor
    · rintro rfl
      exact (Int.ediv_mul_cancel (Int.dvd_of_emod_eq_zero h)).symm
    · intro heq
      rw [heq]
      exact Int.mul_ediv_cancel _ natCast_perOne_ne_zero
  next h =>
    refine ⟨fun hsome => by contradiction, fun heq => absurd ?_ h⟩
    rw [heq]
    exact Int.mul_emod_left _ _

end TypedStore.Double
