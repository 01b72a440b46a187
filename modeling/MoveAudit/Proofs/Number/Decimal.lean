/-
This file shows that a binary64 number is read back from its shortest decimal. What a decimal stands
for depends on its digits and its exponent together, so zeros may go from the digits into the
exponent; and since every finite number is a whole number of units of `10 ^ -1074`, the search for
the shortest decimal has one to fall back on that is exact. A decimal that is laid out as digits
before the point, digits after it and an exponent keeps its worth wherever the point stands.
-/

import MoveAudit.Number.Decimal
import MoveAudit.Proofs.Number.Rounding

namespace MoveAudit.Double

/-- The number is one that binary64 has. -/
def IsBinary64 : Double → Prop
  | .finite _ units => nearest units = units ∧ units < overflow
  | _ => True

/-! ### Scaling -/

theorem roundDiv_mul_mul (numerator denominator : Nat) {factor : Nat} (positive : 0 < factor) :
    roundDiv (numerator * factor) (denominator * factor) = roundDiv numerator denominator := by
  have less : 2 * (numerator % denominator * factor) < denominator * factor ↔
      2 * (numerator % denominator) < denominator := by
    rw [← Nat.mul_assoc]
    exact Nat.mul_lt_mul_right positive
  have same : 2 * (numerator % denominator * factor) = denominator * factor ↔
      2 * (numerator % denominator) = denominator := by
    rw [← Nat.mul_assoc]
    exact Nat.mul_left_inj (Nat.ne_of_gt positive)
  unfold roundDiv
  simp only [Nat.mul_div_mul_right _ _ positive, Nat.mul_mod_mul_right, less, same, beq_eq_decide]

theorem ofUnitRatio_mul_mul (negative : Bool) (numerator denominator : Nat) {factor : Nat}
    (positive : 0 < factor) :
    ofUnitRatio negative (numerator * factor) (denominator * factor) =
      ofUnitRatio negative numerator denominator := by
  unfold ofUnitRatio
  simp only [Nat.mul_div_mul_right _ _ positive, Nat.mul_right_comm denominator factor,
    roundDiv_mul_mul _ _ positive]

theorem ofRatio_mul_mul (negative : Bool) (numerator denominator : Nat) {factor : Nat}
    (positive : 0 < factor) :
    ofRatio negative (numerator * factor) (denominator * factor) =
      ofRatio negative numerator denominator := by
  unfold ofRatio
  rw [Nat.mul_right_comm, ofUnitRatio_mul_mul _ _ _ positive]

theorem toDigits_mul_pow {number : Nat} (positive : 0 < number) (zeros : Nat) :
    Nat.toDigits 10 (number * 10 ^ zeros) =
      Nat.toDigits 10 number ++ List.replicate zeros '0' := by
  induction zeros with
  | zero => rw [Nat.pow_zero, Nat.mul_one, List.replicate_zero, List.append_nil]
  | succ zeros inductionHypothesis =>
    have more : 0 < number * 10 ^ zeros := Nat.mul_pos positive (Nat.pow_pos (by decide))
    have shifted : number * 10 ^ (zeros + 1) = 10 * (number * 10 ^ zeros) + 0 := by
      rw [Nat.pow_succ]
      ring
    rw [shifted, ← Nat.toDigits_append_toDigits (by decide) more (by decide), inductionHypothesis,
      Nat.toDigits_zero, List.append_assoc, ← List.replicate_succ']

/-- Zeros at the end of the digits may stand in the exponent. -/
theorem ofDecimal_mul_pow (negative : Bool) (digits zeros : Nat) (exponent : Int) :
    ofDecimal negative (digits * 10 ^ zeros) exponent =
      ofDecimal negative digits (exponent + zeros) := by
  by_cases isZero : digits = 0
  · rw [isZero, Nat.zero_mul]
    rfl
  have positive := Nat.pos_of_ne_zero isZero
  have notZero : digits * 10 ^ zeros ≠ 0 :=
    Nat.ne_of_gt (Nat.mul_pos positive (Nat.pow_pos (by decide)))
  have reach : ((Nat.toDigits 10 (digits * 10 ^ zeros)).length : Int) + exponent =
      (Nat.toDigits 10 digits).length + (exponent + zeros) := by
    rw [toDigits_mul_pow positive, List.length_append, List.length_replicate]
    omega
  unfold ofDecimal
  simp only [reach, notZero, isZero, decide_false, Bool.false_or, Nat.pow_eq]
  split
  · rfl
  split
  · rfl
  by_cases isWhole : 0 ≤ exponent
  · have sum : (exponent + zeros).toNat = zeros + exponent.toNat := by omega
    rw [if_pos isWhole, if_pos (by omega), sum, Nat.pow_add, Nat.mul_assoc]
  rw [if_neg isWhole]
  by_cases reaches : 0 ≤ exponent + zeros
  · have parts : zeros = (exponent + zeros).toNat + (-exponent).toNat := by omega
    have positive : 0 < 10 ^ (-exponent).toNat := Nat.pow_pos (by decide)
    rw [if_pos reaches, ← ofRatio_mul_mul negative _ 1 positive]
    rw [Nat.one_mul, Nat.mul_assoc, ← Nat.pow_add, ← parts]
  · have parts : (-exponent).toNat = (-(exponent + zeros)).toNat + zeros := by omega
    rw [if_neg reaches, parts, Nat.pow_add]
    exact ofRatio_mul_mul _ _ _ (Nat.pow_pos (by decide))

theorem ofUnitRatio_sign {negative : Bool} {numerator denominator units : Nat}
    (isSo : ofUnitRatio false numerator denominator = .finite false units) :
    ofUnitRatio negative numerator denominator = .finite negative units := by
  unfold ofUnitRatio at isSo ⊢
  dsimp only at isSo ⊢
  split at isSo
  · rename_i fits
    rw [if_pos fits]
    cases isSo
    rfl
  · cases isSo

/-- A sign is carried over. -/
theorem ofDecimal_sign {negative : Bool} {digits units : Nat} {exponent : Int}
    (isSo : ofDecimal false digits exponent = .finite false units) :
    ofDecimal negative digits exponent = .finite negative units := by
  unfold ofDecimal at isSo ⊢
  dsimp only at isSo ⊢
  split at isSo
  · rename_i isSmall
    rw [if_pos isSmall]
    cases isSo
    rfl
  rename_i isSmall
  rw [if_neg isSmall]
  split at isSo
  · cases isSo
  rename_i isGreat
  rw [if_neg isGreat]
  split at isSo
  · rename_i isWhole
    rw [if_pos isWhole]
    exact ofUnitRatio_sign isSo
  · rename_i isWhole
    rw [if_neg isWhole]
    exact ofUnitRatio_sign isSo

/-! ### The shortest decimal -/

/-- Two divides ten, so a number of units is a whole number of decimal units. -/
theorem ofUnitRatio_exact (negative : Bool) (units places : Nat) :
    ofUnitRatio negative (units * 5 ^ places * 2 ^ places) (10 ^ places) =
      ofUnitRatio negative units 1 := by
  have tens : (10 : Nat) ^ places = 5 ^ places * 2 ^ places := by rw [← Nat.mul_pow]
  rw [Nat.mul_assoc, ← tens]
  have positive : 0 < 10 ^ places := Nat.pow_pos (by decide)
  have scaled := ofUnitRatio_mul_mul negative units 1 positive
  rw [Nat.one_mul] at scaled
  exact scaled

/-- The places of decimal units, and bounds on the digits that a finite number of them has. -/
theorem exists_places : ∃ places fewest most : Nat,
    (∀ units, decimalUnits units = units * 5 ^ places) ∧ one = 2 ^ places ∧
      (-1074 : Int) = -(places : Int) ∧ 10 ^ fewest ≤ 5 ^ places ∧
      overflow * 5 ^ places < 10 ^ most ∧ 0 < fewest ∧ places ≤ fewest + 331 ∧
      0 < most ∧ most ≤ places + 310 := by
  refine ⟨1074, 743, 1384, fun units => ?_, by decide +kernel, rfl, by decide +kernel,
    by decide +kernel, by decide, by decide, by decide, by decide⟩
  unfold decimalUnits
  generalize (1074 : Nat) = places
  rw [Nat.pow_eq]

theorem ofDecimal_of_reach {digits places : Nat} (positive : 0 < digits) (isFraction : 0 < places)
    (low : -330 ≤ ((Nat.toDigits 10 digits).length : Int) + -(places : Int))
    (high : ((Nat.toDigits 10 digits).length : Int) + -(places : Int) ≤ 310) (negative : Bool) :
    ofDecimal negative digits (-(places : Int)) = ofRatio negative digits (10 ^ places) := by
  have isSmall : (decide (digits = 0) ||
      decide (((Nat.toDigits 10 digits).length : Int) + -(places : Int) < -330)) = false := by
    rw [decide_eq_false (Nat.ne_of_gt positive), decide_eq_false (Int.not_lt.mpr low)]
    rfl
  have back : (- -(places : Int)).toNat = places := by omega
  unfold ofDecimal
  dsimp only
  rw [isSmall, if_neg Bool.false_ne_true, if_neg (Int.not_lt.mpr high), if_neg (by omega), back,
    Nat.pow_eq]

theorem ofDecimal_decimalUnits {units : Nat} (positive : 0 < units)
    (isNumber : IsBinary64 (.finite false units)) :
    ofDecimal false (decimalUnits units) (-1074) = .finite false units := by
  obtain ⟨stays, below⟩ := isNumber
  obtain ⟨places, fewest, most, decimal, isPower, exponent, least, greatest, someLeast, low,
    someMost, high⟩ := exists_places
  have many : fewest < (Nat.toDigits 10 (units * 5 ^ places)).length := by
    refine Nat.lt_of_not_le fun few => ?_
    have isBelow := (Nat.length_toDigits_le_iff (by decide) someLeast).mp few
    have reaches : 5 ^ places ≤ units * 5 ^ places := Nat.le_mul_of_pos_left _ positive
    exact absurd (Nat.le_trans least reaches) (Nat.not_le.mpr isBelow)
  have few : (Nat.toDigits 10 (units * 5 ^ places)).length ≤ most := by
    refine (Nat.length_toDigits_le_iff (by decide) someMost).mpr ?_
    exact Nat.lt_of_le_of_lt (Nat.mul_le_mul_right _ (Nat.le_of_lt below)) greatest
  have isPositive : 0 < units * 5 ^ places := Nat.mul_pos positive (Nat.pow_pos (by decide))
  rw [exponent, decimal, ofDecimal_of_reach isPositive (by omega) (by omega) (by omega)]
  unfold ofRatio
  rw [isPower, ofUnitRatio_exact, ofUnitRatio_one, stays, if_pos below]

/-- Whatever the search comes to stands for the number, since its last resort does. -/
theorem ofDecimal_shortestFrom {units decimal : Nat} (length : Nat)
    (exact : ofDecimal false decimal (-1074) = .finite false units) (fuel size : Nat) :
    ofDecimal false (shortestFrom units decimal length fuel size).1
      (shortestFrom units decimal length fuel size).2 = .finite false units := by
  induction fuel generalizing size with
  | zero => exact exact
  | succ fuel inductionHypothesis =>
    unfold shortestFrom
    dsimp only
    split
    · rename_i digits found
      have isSo := List.find?_some found
      exact of_decide_eq_true isSo
    · exact inductionHypothesis (size + 1)

theorem ofDecimal_shortest {units : Nat} (positive : 0 < units)
    (isNumber : IsBinary64 (.finite false units)) :
    ofDecimal false (shortest units).1 (shortest units).2 = .finite false units :=
  ofDecimal_shortestFrom _ (ofDecimal_decimalUnits positive isNumber) _ _

end MoveAudit.Double
