/-
This file says how a number is laid out in text: digits before the point, digits after it and an
exponent, of which the last two may be missing. The worth of a layout depends on its digits taken
together and on how far the exponent moves the point. The text of a binary64 number is such a layout
in each of its three forms, and is worth that number.
-/

import Mathlib.Data.List.DropRight
import MoveAudit.Number.Numeral
import MoveAudit.Proofs.Number.Decimal

namespace MoveAudit

/-- A number as it is laid out in text; the exponent has a sign and digits. -/
structure Layout where
  whole : List Char
  fraction : List Char := []
  exponent : Option (Bool × List Char) := none

namespace Layout

/-- A point before digits, if there are any. -/
def fractionText : List Char → List Char
  | [] => []
  | row => '.' :: row

/-- The letter and the sign before the digits of an exponent. -/
def exponentText : Option (Bool × List Char) → List Char
  | none => []
  | some (negative, row) => 'e' :: (if negative then '-' else '+') :: row

/-- The text of the layout. -/
def text (layout : Layout) : List Char :=
  layout.whole ++ (fractionText layout.fraction ++ exponentText layout.exponent)

/-- How far an exponent moves the point. -/
def shift : Option (Bool × List Char) → Int
  | none => 0
  | some (negative, row) =>
    if negative then -(Nat.ofDigitChars 10 row 0 : Int) else Nat.ofDigitChars 10 row 0

/-- The number that the layout is worth, with a sign. -/
def worth (layout : Layout) (negative : Bool) : Double :=
  .ofDecimal negative (Nat.ofDigitChars 10 (layout.whole ++ layout.fraction) 0)
    (shift layout.exponent - layout.fraction.length)

/-- A row consists of digits alone. -/
def IsRow (row : List Char) : Prop :=
  ∀ c ∈ row, c.isDigit = true

/-- The digits before the point begin with no needless zero, and an exponent has digits. -/
structure IsOrderly (layout : Layout) : Prop where
  whole : IsRow layout.whole
  starts : layout.whole = ['0'] ∨ ∃ first rest, layout.whole = first :: rest ∧ first ≠ '0'
  fraction : IsRow layout.fraction
  exponent : ∀ negative row, layout.exponent = some (negative, row) → row ≠ [] ∧ IsRow row

/-! ### Rows of digits -/

theorem IsRow.append {first second : List Char} (isRow : IsRow first) (isRowToo : IsRow second) :
    IsRow (first ++ second) := by
  intro c member
  rcases List.mem_append.mp member with isFirst | isSecond
  · exact isRow c isFirst
  · exact isRowToo c isSecond

theorem isRow_zeros (count : Nat) : IsRow (List.replicate count '0') := by
  intro c member
  rw [List.eq_of_mem_replicate member]
  rfl

theorem isRow_toDigits (number : Nat) : IsRow (Nat.toDigits 10 number) :=
  fun _ member => Nat.isDigit_of_mem_toDigits (by decide) (by decide) member

theorem ofDigitChars_zeros_append (zeros : Nat) (row : List Char) :
    Nat.ofDigitChars 10 (List.replicate zeros '0' ++ row) 0 = Nat.ofDigitChars 10 row 0 := by
  rw [Nat.ofDigitChars_append, Nat.ofDigitChars_replicate_zero, Nat.mul_zero]

theorem ofDigitChars_append_zeros (row : List Char) (zeros : Nat) :
    Nat.ofDigitChars 10 (row ++ List.replicate zeros '0') 0 =
      Nat.ofDigitChars 10 row 0 * 10 ^ zeros := by
  rw [Nat.ofDigitChars_append, Nat.ofDigitChars_replicate_zero, Nat.mul_comm]

theorem toDigits_starts {number : Nat} (positive : 0 < number) :
    ∃ first rest, Nat.toDigits 10 number = first :: rest ∧ first ≠ '0' := by
  induction number using Nat.strongRecOn with
  | ind number inductionHypothesis =>
    rw [Nat.toDigits_eq_if (by decide)]
    split
    · exact ⟨_, [], rfl, by simpa using Nat.ne_of_gt positive⟩
    · obtain ⟨first, rest, digits, notZero⟩ :=
        inductionHypothesis (number / 10) (by omega) (by omega)
      exact ⟨first, rest ++ [_], by rw [digits]; rfl, notZero⟩

theorem stripZeros_append (row : List Char) :
    (Double.stripZeros row).1 ++ List.replicate (Double.stripZeros row).2 '0' = row := by
  have whole := @List.rdropWhile_append_rtakeWhile _ (· == '0') row
  have zeros : row.rtakeWhile (· == '0') =
      List.replicate (row.length - (row.rdropWhile (· == '0')).length) '0' := by
    refine List.eq_replicate_iff.mpr ⟨?_, fun c member => ?_⟩
    · have length := congrArg List.length whole
      rw [List.length_append] at length
      omega
    · have isZero := List.mem_rtakeWhile_imp member
      exact eq_of_beq isZero
  rw [zeros] at whole
  exact whole

/-! ### Layouts of numbers -/

/-- A whole number is laid out as its digits. -/
theorem isOrderly_toDigits (number : Nat) : IsOrderly ⟨Nat.toDigits 10 number, [], none⟩ where
  whole := isRow_toDigits number
  starts := by
    by_cases isZero : number = 0
    · rw [isZero]
      exact .inl (Nat.toDigits_zero 10)
    · exact .inr (toDigits_starts (Nat.pos_of_ne_zero isZero))
  fraction := nofun
  exponent := nofun

theorem fractionText_of_ne_nil {row : List Char} (filled : row ≠ []) :
    fractionText row = '.' :: row := by
  cases row with
  | nil => exact absurd rfl filled
  | cons c rest => rfl

/-- The digits that a magnitude is laid out with, and where its point stands: their worth is the
number. -/
theorem exists_kept {units : Nat} (positive : 0 < units)
    (isNumber : Double.IsBinary64 (.finite false units)) {kept : List Char} {zeros : Nat}
    (strips : Double.stripZeros (Nat.toDigits 10 (Double.shortest units).1) = (kept, zeros)) :
    IsRow kept ∧ (∃ first rest, kept = first :: rest ∧ first ≠ '0') ∧
      Double.ofDecimal false (Nat.ofDigitChars 10 kept 0) ((Double.shortest units).2 + zeros) =
        .finite false units := by
  have whole := stripZeros_append (Nat.toDigits 10 (Double.shortest units).1)
  rw [strips] at whole
  have isSo := Double.ofDecimal_shortest positive isNumber
  have notZero : 0 < (Double.shortest units).1 := by
    refine Nat.pos_of_ne_zero fun isZero => ?_
    rw [isZero] at isSo
    cases isSo
    exact absurd positive (Nat.lt_irrefl 0)
  obtain ⟨first, rest, digits, isFirst⟩ := toDigits_starts notZero
  refine ⟨?_, ?_, ?_⟩
  · intro c member
    have isDigits := isRow_toDigits (Double.shortest units).1
    rw [← whole] at isDigits
    exact isDigits c (List.mem_append_left _ member)
  · rw [← whole] at digits
    cases kept with
    | nil =>
      have member : first ∈ List.replicate zeros '0' := by
        rw [← List.nil_append (List.replicate zeros '0'), digits]
        exact List.mem_cons_self
      exact absurd (List.eq_of_mem_replicate member) isFirst
    | cons c others =>
      obtain ⟨rfl, _⟩ := List.cons.inj digits
      exact ⟨_, others, rfl, isFirst⟩
  · rw [← Double.ofDecimal_mul_pow, ← ofDigitChars_append_zeros, whole,
      Nat.ofDigitChars_ten_toDigits]
    exact isSo

/-- A layout is worth a magnitude, and is not that of a whole number. -/
structure Shows (layout : Layout) (magnitude : Double) : Prop extends IsOrderly layout where
  isFraction : layout.fraction ≠ [] ∨ layout.exponent ≠ none
  few : layout.whole.length ≤ 16
  worth : layout.worth false = magnitude

theorem shift_none : shift none = 0 := rfl

theorem shift_toDigits (power : Int) (zeros : Nat) :
    shift (some (decide (power < 0), List.replicate zeros '0' ++ Nat.toDigits 10 power.natAbs)) =
      power := by
  unfold shift
  dsimp only
  rw [ofDigitChars_zeros_append, Nat.ofDigitChars_ten_toDigits]
  split
  · rename_i negative
    have isBelow := of_decide_eq_true negative
    omega
  · rename_i notNegative
    have isNotBelow := of_decide_eq_false (eq_false_of_ne_true notNegative)
    omega

theorem worth_mk (whole fraction : List Char) (exponent : Option (Bool × List Char))
    (negative : Bool) :
    worth ⟨whole, fraction, exponent⟩ negative =
      .ofDecimal negative (Nat.ofDigitChars 10 (whole ++ fraction) 0)
        (shift exponent - fraction.length) := rfl

theorem shows_zero : Shows ⟨['0'], ['0'], none⟩ (.finite false 0) where
  whole := isRow_zeros 1
  starts := .inl rfl
  fraction := isRow_zeros 1
  exponent := nofun
  isFraction := .inl (by decide)
  few := by decide
  worth := by
    unfold worth Double.ofDecimal
    rfl

section Kept

variable {kept : List Char} {point : Int} {magnitude : Double}

/-- Digits that all stand after the point. -/
theorem shows_below (isRow : IsRow kept) (filled : kept ≠ []) (isBelow : point ≤ 0)
    (worth : Double.ofDecimal false (Nat.ofDigitChars 10 kept 0) (point - kept.length) = magnitude) :
    Shows ⟨['0'], List.replicate (-point).toNat '0' ++ kept, none⟩ magnitude where
  whole := isRow_zeros 1
  starts := .inl rfl
  fraction := (isRow_zeros _).append isRow
  exponent := nofun
  isFraction := .inl (by simp [filled])
  few := Nat.le_add_left 1 15
  worth := by
    have digits := ofDigitChars_zeros_append ((-point).toNat + 1) kept
    rw [List.replicate_succ, List.cons_append] at digits
    rw [worth_mk, List.singleton_append, digits, shift_none, ← worth, List.length_append,
      List.length_replicate]
    congr 1
    omega

/-- Digits of which none stands after the point. -/
theorem shows_above (isRow : IsRow kept) {first : Char} {rest : List Char}
    (starts : kept = first :: rest) (notZero : first ≠ '0') (isAbove : (kept.length : Int) ≤ point)
    (isShort : point ≤ 16)
    (worth : Double.ofDecimal false (Nat.ofDigitChars 10 kept 0) (point - kept.length) = magnitude) :
    Shows ⟨kept ++ List.replicate (point.toNat - kept.length) '0', ['0'], none⟩ magnitude where
  whole := isRow.append (isRow_zeros _)
  starts := .inr ⟨first, _, by rw [starts]; rfl, notZero⟩
  fraction := isRow_zeros 1
  exponent := nofun
  isFraction := .inl (List.cons_ne_nil _ _)
  few := by
    show (kept ++ List.replicate _ '0').length ≤ 16
    rw [List.length_append, List.length_replicate]
    omega
  worth := by
    rw [worth_mk, List.append_assoc, ← List.replicate_succ', ofDigitChars_append_zeros,
      Double.ofDecimal_mul_pow, shift_none, ← worth]
    congr 1
    show 0 - (1 : Int) + _ = _
    omega

/-- Digits around the point. -/
theorem shows_across (isRow : IsRow kept) {first : Char} {rest : List Char}
    (starts : kept = first :: rest) (notZero : first ≠ '0') (isPositive : 0 < point)
    (isWithin : point < kept.length) (isShort : point ≤ 16)
    (worth : Double.ofDecimal false (Nat.ofDigitChars 10 kept 0) (point - kept.length) = magnitude) :
    Shows ⟨kept.take point.toNat, kept.drop point.toNat, none⟩ magnitude where
  whole := fun c member => isRow c (List.mem_of_mem_take member)
  starts := by
    obtain ⟨places, isSo⟩ := Nat.exists_eq_succ_of_ne_zero (n := point.toNat) (by omega)
    exact .inr ⟨first, rest.take places, by rw [starts, isSo, List.take_succ_cons], notZero⟩
  fraction := fun c member => isRow c (List.mem_of_mem_drop member)
  exponent := nofun
  isFraction := .inl (by
    show kept.drop _ ≠ []
    rw [Ne, List.drop_eq_nil_iff]
    omega)
  few := by
    show (kept.take _).length ≤ 16
    rw [List.length_take]
    omega
  worth := by
    rw [worth_mk, List.take_append_drop, shift_none, ← worth, List.length_drop]
    congr 1
    omega

/-- Digits of which one stands before the point, with the power of ten that makes up for it. -/
theorem shows_power (isRow : IsRow kept) {first : Char} {rest : List Char}
    (starts : kept = first :: rest) (notZero : first ≠ '0') (zeros : Nat)
    (worth : Double.ofDecimal false (Nat.ofDigitChars 10 kept 0) (point - kept.length) = magnitude) :
    Shows ⟨[first], rest, some (decide (point - 1 < 0),
      List.replicate zeros '0' ++ Nat.toDigits 10 (point - 1).natAbs)⟩ magnitude where
  whole := fun c member => isRow c (by
    rw [starts, List.mem_singleton.mp member]
    exact List.mem_cons_self)
  starts := .inr ⟨first, [], rfl, notZero⟩
  fraction := fun c member => isRow c (by rw [starts]; exact List.mem_cons_of_mem _ member)
  exponent := by
    rintro negative row same
    cases same
    exact ⟨by simp, (isRow_zeros zeros).append (isRow_toDigits _)⟩
  isFraction := .inr nofun
  few := Nat.le_add_left 1 15
  worth := by
    rw [worth_mk, shift_toDigits, List.singleton_append, ← starts, ← worth]
    congr 1
    rw [starts, List.length_cons]
    omega

end Kept

/-- The text of a magnitude is a layout that is worth it, and is not that of a whole number. -/
theorem exists_layout {units : Nat} (isNumber : Double.IsBinary64 (.finite false units)) :
    ∃ layout : Layout, Double.magnitudeText units = layout.text ∧
      layout.Shows (.finite false units) := by
  unfold Double.magnitudeText
  by_cases isZero : units = 0
  · rw [if_pos isZero, isZero]
    exact ⟨_, rfl, shows_zero⟩
  rw [if_neg isZero]
  cases strips : Double.stripZeros (Nat.toDigits 10 (Double.shortest units).1) with
  | mk kept zeros =>
    obtain ⟨isRow, ⟨first, rest, starts, notZero⟩, worth⟩ :=
      exists_kept (Nat.pos_of_ne_zero isZero) isNumber strips
    revert strips worth
    generalize Double.shortest units = decimal
    intro strips worth
    obtain ⟨number, exponent⟩ := decimal
    dsimp only at strips worth ⊢
    rw [strips]
    dsimp only
    generalize isPoint : (kept.length : Int) + zeros + exponent = point
    have moved : exponent + zeros = point - kept.length := by omega
    rw [moved] at worth
    have filled : kept ≠ [] := by
      rw [starts]
      exact List.cons_ne_nil _ _
    by_cases isPlain : (decide (-4 < point) && decide (point ≤ 16)) = true
    · have isShort : point ≤ 16 := of_decide_eq_true (Bool.and_eq_true_iff.mp isPlain).2
      rw [if_pos isPlain]
      by_cases isBelow : point ≤ 0
      · refine ⟨_, ?_, shows_below isRow filled isBelow worth⟩
        rw [if_pos isBelow, text, fractionText_of_ne_nil (by simp [filled]), exponentText,
          List.append_nil]
        rfl
      rw [if_neg isBelow]
      by_cases isWithin : point < kept.length
      · refine ⟨_, ?_, shows_across isRow starts notZero (by omega) isWithin isShort worth⟩
        have isRest : kept.drop point.toNat ≠ [] := by
          rw [Ne, List.drop_eq_nil_iff]
          omega
        have full : point.toNat - (kept.take point.toNat).length = 0 := by
          rw [List.length_take]
          omega
        rw [text, fractionText_of_ne_nil isRest, exponentText, List.append_nil, full,
          List.replicate_zero, List.append_nil, if_neg (by simpa using isRest)]
      · refine ⟨_, ?_, shows_above isRow starts notZero (by omega) isShort worth⟩
        rw [List.take_of_length_le (by omega), List.drop_of_length_le (by omega)]
        rfl
    · refine ⟨_, ?_, shows_power isRow starts notZero
        (2 - (Nat.toDigits 10 (point - 1).natAbs).length) worth⟩
      rw [if_neg isPlain, starts]
      cases rest with
      | nil => simp [text, fractionText, exponentText]
      | cons second others => simp [text, fractionText, exponentText]

end Layout

end MoveAudit
