/-
This file says how far a whole number can move when it goes to the nearest binary64 number. A number
of at most 53 binary digits, with any number of zeros after them, does not move at all; any other
one goes to a multiple of its step, and since the power of two just below it is such a multiple, it
never falls below that power. This is all that the rounding of scores needs: below the bound of a
score sums are exact, and beyond it they stay beyond.
-/

import Mathlib.Tactic.Ring
import MoveAudit.Risk.Finding

namespace MoveAudit.Double

/-! ### The nearest number of units -/

/-- The distance of neighbouring numbers of the size of a count of units. -/
def step (units : Nat) : Nat :=
  2 ^ (units.log2 + 1 - 53)

/-- The number of units nearest to a count of units, no matter how great it is. -/
def nearest (units : Nat) : Nat :=
  roundDiv units (step units) * step units

theorem ofUnitRatio_one (negative : Bool) (units : Nat) :
    ofUnitRatio negative units 1 =
      if nearest units < overflow then .finite negative (nearest units)
      else .infinite negative := by
  unfold ofUnitRatio
  simp only [Nat.div_one, Nat.one_mul]
  rfl

theorem step_pos (units : Nat) : 0 < step units :=
  Nat.pow_pos (by decide)

theorem div_le_roundDiv (numerator denominator : Nat) :
    numerator / denominator ≤ roundDiv numerator denominator := by
  unfold roundDiv
  dsimp only
  split
  · exact Nat.le_refl _
  · exact Nat.le_succ _

theorem roundDiv_of_dvd {numerator denominator : Nat} (positive : 0 < denominator)
    (divides : denominator ∣ numerator) :
    roundDiv numerator denominator = numerator / denominator := by
  unfold roundDiv
  rw [Nat.mod_eq_zero_of_dvd divides]
  simp [positive]

theorem mul_pow_lt {digits : Nat} (short : digits < 2 ^ 53) (zeros : Nat) :
    digits * 2 ^ zeros < 2 ^ (53 + zeros) := by
  rw [Nat.pow_add]
  exact Nat.mul_lt_mul_of_pos_right short (Nat.pow_pos (by decide))

/-- A number of at most 53 binary digits, followed by zeros, stays where it is. -/
theorem nearest_mul_pow {digits : Nat} (short : digits < 2 ^ 53) (zeros : Nat) :
    nearest (digits * 2 ^ zeros) = digits * 2 ^ zeros := by
  have divides : step (digits * 2 ^ zeros) ∣ digits * 2 ^ zeros := by
    by_cases isZero : digits * 2 ^ zeros = 0
    · rw [isZero]
      exact Nat.dvd_zero _
    have below := (Nat.log2_lt isZero).mpr (mul_pow_lt short zeros)
    have stepDivides : step (digits * 2 ^ zeros) ∣ 2 ^ zeros := Nat.pow_dvd_pow 2 (by omega)
    exact Nat.dvd_mul_left_of_dvd stepDivides digits
  unfold nearest
  rw [roundDiv_of_dvd (step_pos _) divides, Nat.div_mul_cancel divides]

/-- A number goes no lower than a power of two that it reaches. -/
theorem pow_le_nearest {units exponent : Nat} (reaches : 2 ^ exponent ≤ units) :
    2 ^ exponent ≤ nearest units := by
  have notZero : units ≠ 0 := by
    rintro rfl
    exact absurd reaches (Nat.not_le.mpr (Nat.pow_pos (by decide)))
  have isBelow : exponent ≤ units.log2 := (Nat.le_log2 notZero).mpr reaches
  have divides : step units ∣ 2 ^ units.log2 := Nat.pow_dvd_pow 2 (by omega)
  calc 2 ^ exponent
      ≤ 2 ^ units.log2 := Nat.pow_le_pow_right (by decide) isBelow
    _ = 2 ^ units.log2 / step units * step units := (Nat.div_mul_cancel divides).symm
    _ ≤ units / step units * step units :=
        Nat.mul_le_mul_right _ (Nat.div_le_div_right (Nat.log2_self_le notZero))
    _ ≤ nearest units := Nat.mul_le_mul_right _ (div_le_roundDiv units (step units))

/-! ### Whole numbers -/

/-- One is twice a half, both are powers of two, and the bound of finite numbers is far above. -/
theorem exists_half_eq :
    ∃ zeros, one = 2 * 2 ^ zeros ∧ half = .finite false (2 ^ zeros) ∧ 2 ^ (54 + zeros) ≤ overflow :=
  ⟨1073, by decide +kernel, by decide +kernel, by decide +kernel⟩

theorem one_pos : 0 < one := by
  obtain ⟨zeros, isDouble, _⟩ := exists_half_eq
  rw [isDouble]
  exact Nat.mul_pos (by decide) (Nat.pow_pos (by decide))

theorem ofInt_eq (whole : Int) :
    ofInt whole =
      if nearest (whole.natAbs * one) < overflow then
        .finite (whole < 0) (nearest (whole.natAbs * one))
      else .infinite (whole < 0) := by
  unfold ofInt ofRatio
  rw [ofUnitRatio_one]

/-- A whole number of at most 53 binary digits is a binary64 number. -/
theorem ofInt_of_short {whole : Int} (short : whole.natAbs < 2 ^ 53) :
    ofInt whole = .finite (whole < 0) (whole.natAbs * one) := by
  obtain ⟨zeros, isDouble, _, below⟩ := exists_half_eq
  have isPower : one = 2 ^ (zeros + 1) := by rw [isDouble, Nat.pow_succ, Nat.mul_comm]
  have fits : whole.natAbs * one < overflow := by
    have exponent : 53 + (zeros + 1) = 54 + zeros := by omega
    rw [isPower]
    refine Nat.lt_of_lt_of_le (mul_pow_lt short (zeros + 1)) ?_
    rw [exponent]
    exact below
  have stays : nearest (whole.natAbs * one) = whole.natAbs * one := by
    rw [isPower]
    exact nearest_mul_pow short (zeros + 1)
  rw [ofInt_eq, stays, if_pos fits]

/-- A whole number goes no lower than a power of two that it reaches. -/
theorem ofInt_zero : ofInt 0 = .finite false 0 := by
  rw [ofInt_of_short (by decide)]
  simp

theorem pow_mul_one_le_nearest {units exponent : Nat} (reaches : 2 ^ exponent * one ≤ units) :
    2 ^ exponent * one ≤ nearest units := by
  obtain ⟨zeros, isDouble, _⟩ := exists_half_eq
  have isPower : 2 ^ exponent * one = 2 ^ (exponent + (zeros + 1)) := by
    rw [isDouble, Nat.pow_add, Nat.pow_succ 2 zeros, Nat.mul_comm 2]
  rw [isPower] at reaches ⊢
  exact pow_le_nearest reaches

/-- A whole number that reaches a power of two beyond the finite numbers is taken for infinite. -/
theorem isFinite_ofInt_of_reach {whole exponent : Nat} (reaches : 2 ^ exponent ≤ whole)
    (isBeyond : overflow ≤ 2 ^ exponent * one) : (ofInt whole).isFinite = false := by
  have reachesUnits : 2 ^ exponent * one ≤ nearest (whole * one) :=
    pow_mul_one_le_nearest (Nat.mul_le_mul_right one reaches)
  rw [ofInt_eq, Int.natAbs_natCast, if_neg (Nat.not_lt.mpr (Nat.le_trans isBeyond reachesUnits))]
  rfl

theorem exists_pow_beyond : ∃ zeros exponent, zeros = 309 ∧ 2 ^ exponent ≤ Nat.pow 10 zeros ∧
    overflow ≤ 2 ^ exponent * one :=
  ⟨309, 1024, rfl, by decide +kernel, by decide +kernel⟩

/-! ### Rounding to whole numbers -/

theorem floor?_ofUnits_pos {units : Nat} (positive : 0 < units) (zeroNegative : Bool) :
    (ofUnits zeroNegative units).floor? =
      if nearest units < overflow then some ((nearest units / one : Nat) : Int) else none := by
  have notZero : (units : Int) ≠ 0 := by omega
  have notNegative : decide ((units : Int) < 0) = false := by simp
  unfold ofUnits
  rw [if_neg notZero, notNegative, Int.natAbs_natCast, ofUnitRatio_one]
  split
  · rw [Int.natCast_ediv, ← Int.fdiv_eq_ediv_of_nonneg _ (Int.natCast_nonneg one)]
    rfl
  · rfl

theorem floor?_ofUnits_neg {units : Int} (negative : units < 0) {zeroNegative : Bool}
    {floor : Int} (isFloor : (ofUnits zeroNegative units).floor? = some floor) : floor ≤ 0 := by
  have notZero : units ≠ 0 := by omega
  have isNegative : decide (units < 0) = true := decide_eq_true negative
  unfold ofUnits at isFloor
  rw [if_neg notZero, isNegative, ofUnitRatio_one] at isFloor
  split at isFloor
  · cases isFloor
    show Int.fdiv (-(nearest units.natAbs : Int)) one ≤ 0
    rw [Int.fdiv_eq_ediv_of_nonneg _ (Int.natCast_nonneg one)]
    have below : -(nearest units.natAbs : Int) ≤ 0 := by omega
    exact Int.ediv_nonpos_of_nonpos_of_neg below (Int.natCast_pos.mpr one_pos)
  · cases isFloor

/-- The half is added before the whole part is taken. -/
theorem roundHalfUp?_finite (negative : Bool) (units : Nat) {halfUnits : Nat}
    (isHalf : half = .finite false halfUnits) :
    (finite negative units).roundHalfUp? =
      (ofUnits false ((if negative then -(units : Int) else units) + halfUnits)).floor? := by
  unfold roundHalfUp?
  rw [isHalf]
  cases negative <;> rfl

theorem roundHalfUp?_infinite (negative : Bool) : (infinite negative).roundHalfUp? = none := by
  obtain ⟨zeros, _, isHalf, _⟩ := exists_half_eq
  unfold roundHalfUp?
  rw [isHalf]
  rfl

/-- A whole number below the size at which halves are lost is rounded to itself. -/
theorem roundHalfUp?_ofInt_of_short {whole : Nat} (short : whole < 2 ^ 52) :
    (ofInt whole).roundHalfUp? = some (whole : Int) := by
  obtain ⟨zeros, isDouble, isHalf, below⟩ := exists_half_eq
  -- Counted in halves the sum is odd and has one digit more, so it is exact as well.
  have sum : whole * one + 2 ^ zeros = (2 * whole + 1) * 2 ^ zeros := by
    rw [isDouble]
    ring
  have shortSum : 2 * whole + 1 < 2 ^ 53 := by omega
  have fits : (2 * whole + 1) * 2 ^ zeros < overflow := by
    refine Nat.lt_of_lt_of_le (mul_pow_lt shortSum zeros) (Nat.le_trans ?_ below)
    exact Nat.pow_le_pow_right (by decide) (by omega)
  have quotient : (2 * whole + 1) * 2 ^ zeros / one = whole := by
    rw [isDouble, Nat.mul_div_mul_right _ _ (Nat.pow_pos (by decide))]
    omega
  have positive : 0 < (2 * whole + 1) * 2 ^ zeros :=
    Nat.mul_pos (by omega) (Nat.pow_pos (by decide))
  have notNegative : decide ((whole : Int) < 0) = false := by simp
  rw [ofInt_of_short (by omega), roundHalfUp?_finite _ _ isHalf, notNegative,
    if_neg Bool.false_ne_true, Int.natAbs_natCast, ← Int.natCast_add, sum,
    floor?_ofUnits_pos positive, nearest_mul_pow shortSum, if_pos fits, quotient]

/-- Rounding brings a whole number no lower than a power of two that it reaches. -/
theorem pow_le_roundHalfUp? {whole : Nat} {exponent : Nat} (reaches : 2 ^ exponent ≤ whole)
    {rounded : Int} (isRounded : (ofInt whole).roundHalfUp? = some rounded) :
    2 ^ exponent ≤ rounded := by
  obtain ⟨zeros, _, isHalf, _⟩ := exists_half_eq
  have reachesUnits : 2 ^ exponent * one ≤ nearest (whole * one) :=
    pow_mul_one_le_nearest (Nat.mul_le_mul_right one reaches)
  have notNegative : decide ((whole : Int) < 0) = false := by simp
  rw [ofInt_eq, notNegative, Int.natAbs_natCast] at isRounded
  split at isRounded
  · have positive : 0 < nearest (whole * one) + 2 ^ zeros :=
      Nat.add_pos_right _ (Nat.pow_pos (by decide))
    rw [roundHalfUp?_finite _ _ isHalf, if_neg Bool.false_ne_true, ← Int.natCast_add,
      floor?_ofUnits_pos positive] at isRounded
    split at isRounded
    · have reachesSum : 2 ^ exponent * one ≤ nearest (nearest (whole * one) + 2 ^ zeros) :=
        pow_mul_one_le_nearest (Nat.le_add_right_of_le reachesUnits)
      have quotient := (Nat.le_div_iff_mul_le one_pos).mpr reachesSum
      cases isRounded
      exact_mod_cast quotient
    · cases isRounded
  · rw [roundHalfUp?_infinite] at isRounded
    cases isRounded

/-- Rounding makes no negative number positive. -/
theorem roundHalfUp?_nonpos {whole : Int} (negative : whole < 0) {rounded : Int}
    (isRounded : (ofInt whole).roundHalfUp? = some rounded) : rounded ≤ 0 := by
  obtain ⟨zeros, isDouble, isHalf, _⟩ := exists_half_eq
  have isNegative : decide (whole < 0) = true := decide_eq_true negative
  have reaches : 2 ^ 0 * one ≤ nearest (whole.natAbs * one) :=
    pow_mul_one_le_nearest (Nat.mul_le_mul_right one (by omega))
  rw [ofInt_eq, isNegative] at isRounded
  split at isRounded
  · rw [roundHalfUp?_finite _ _ isHalf, if_pos rfl] at isRounded
    have halfPositive : 0 < 2 ^ zeros := Nat.pow_pos (by decide)
    have stays : -(nearest (whole.natAbs * one) : Int) + (2 ^ zeros : Nat) < 0 := by omega
    exact floor?_ofUnits_neg stays isRounded
  · rw [roundHalfUp?_infinite] at isRounded
    cases isRounded

end MoveAudit.Double
