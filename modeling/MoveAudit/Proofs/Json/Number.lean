/-
This file shows that the reader takes a number as it is laid out. It takes the digits before the
point, the digits after it and the exponent one after the other and as far as they go, so a layout
is taken whole whenever what follows could not belong to a number. Of a layout that is cut short the
reader may still make a number, but what it leaves then can neither close nor go on with anything.
-/

import MoveAudit.Proofs.Json.Strings
import MoveAudit.Proofs.Number.Layout

namespace MoveAudit.Json

open Layout

/-- What follows a number does not belong to it. -/
def EndsNumber (rest : List Char) : Prop :=
  ∀ c ∈ rest.head?, c.isDigit = false ∧ c ≠ '.' ∧ c ≠ 'e' ∧ c ≠ 'E'

theorem endsNumber_nil : EndsNumber [] := nofun

/-- A character that stands after a part of an array or an object. -/
def IsDelimiter (c : Char) : Prop :=
  c = ',' ∨ c = ']' ∨ c = '\x7d'

theorem endsNumber_delimiter {c : Char} (isDelimiter : IsDelimiter c) (rest : List Char) :
    EndsNumber (c :: rest) := by
  rintro _ ⟨⟩
  rcases isDelimiter with rfl | rfl | rfl
  · decide
  · decide
  · decide

/-! ### The parts of a number -/

/-- Digits are taken as far as they go. -/
theorem digits_append {row rest : List Char} (isRow : IsRow row)
    (ends : ∀ c ∈ rest.head?, c.isDigit = false) : digits (row ++ rest) = (row, rest) := by
  have none : rest.takeWhile Char.isDigit = [] ∧ rest.dropWhile Char.isDigit = rest := by
    cases rest with
    | nil => exact ⟨rfl, rfl⟩
    | cons c others =>
      have isOther := ne_true_of_eq_false (ends c rfl)
      exact ⟨List.takeWhile_cons_of_neg isOther, List.dropWhile_cons_of_neg isOther⟩
  unfold digits
  rw [List.takeWhile_append_of_pos isRow, List.dropWhile_append_of_pos isRow, none.1, none.2,
    List.append_nil]

theorem wholePart?_append {layout : Layout} (isOrderly : layout.IsOrderly) {rest : List Char}
    (ends : ∀ c ∈ rest.head?, c.isDigit = false) :
    wholePart? (layout.whole ++ rest) = some (layout.whole, rest) := by
  rcases isOrderly.starts with isZero | ⟨first, others, starts, notZero⟩
  · rw [isZero]
    rfl
  · have isDigit : first.isDigit = true :=
      isOrderly.whole first (by rw [starts]; exact List.mem_cons_self)
    have taken := digits_append isOrderly.whole ends
    rw [starts, List.cons_append] at taken ⊢
    rw [wholePart?, if_neg notZero, if_pos isDigit, taken]

theorem fractionPart_append {row rest : List Char} (isRow : IsRow row)
    (ends : ∀ c ∈ rest.head?, c.isDigit = false ∧ c ≠ '.') :
    fractionPart (fractionText row ++ rest) = (row, rest) := by
  cases row with
  | nil =>
    show fractionPart rest = _
    unfold fractionPart
    split
    · exact absurd rfl (ends _ rfl).2
    · rfl
  | cons first others =>
    have taken := digits_append isRow fun c member => (ends c member).1
    show fractionPart ('.' :: (first :: others ++ rest)) = _
    simp only [fractionPart, taken]

theorem exponentPart_append {exponent : Option (Bool × List Char)}
    (isOrderly : ∀ negative row, exponent = some (negative, row) → row ≠ [] ∧ IsRow row)
    {rest : List Char} (ends : EndsNumber rest) :
    exponentPart (exponentText exponent ++ rest) =
      (exponent.map fun part => shift (some part), rest) := by
  cases exponent with
  | none =>
    show exponentPart rest = (none, rest)
    cases rest with
    | nil => rfl
    | cons c others =>
      obtain ⟨_, _, noSmall, noGreat⟩ := ends c rfl
      unfold exponentPart
      simp [noSmall, noGreat]
  | some part =>
    obtain ⟨negative, row⟩ := part
    obtain ⟨filled, isRow⟩ := isOrderly negative row rfl
    have taken := digits_append isRow fun c member => (ends c member).1
    have signed : Numeral.signed ((if negative then '-' else '+') :: (row ++ rest)) =
        (negative, row ++ rest) := by
      cases negative <;> rfl
    show exponentPart ('e' :: (if negative then '-' else '+') :: (row ++ rest)) = _
    unfold exponentPart
    simp only [decide_true, Bool.true_or, signed, taken]
    cases row with
    | nil => exact absurd rfl filled
    | cons first others => rfl

/-! ### Whole layouts -/

/-- The sign before a number. -/
def signText (negative : Bool) : List Char :=
  if negative then ['-'] else []

section Layouts

variable {layout : Layout} {rest : List Char}

theorem endsWhole (ends : EndsNumber rest) :
    ∀ c ∈ (fractionText layout.fraction ++ (exponentText layout.exponent ++ rest)).head?,
      c.isDigit = false := by
  cases layout.fraction with
  | cons first others => rintro _ ⟨⟩; rfl
  | nil =>
    cases layout.exponent with
    | some part => rintro _ ⟨⟩; rfl
    | none => exact fun c member => (ends c member).1

theorem endsFraction (ends : EndsNumber rest) :
    ∀ c ∈ (exponentText layout.exponent ++ rest).head?, c.isDigit = false ∧ c ≠ '.' := by
  cases layout.exponent with
  | some part => rintro _ ⟨⟩; exact ⟨rfl, by decide⟩
  | none => exact fun c member => ⟨(ends c member).1, (ends c member).2.1⟩

theorem head_whole (isOrderly : layout.IsOrderly) :
    ∃ first others, layout.whole = first :: others ∧ first.isDigit = true := by
  have isRow := isOrderly.whole
  rcases isOrderly.starts with isZero | ⟨first, others, starts, _⟩
  · exact ⟨'0', [], isZero, rfl⟩
  · rw [starts] at isRow
    exact ⟨first, others, starts, isRow first List.mem_cons_self⟩

theorem head_text (isOrderly : layout.IsOrderly) :
    ∃ first others, layout.text = first :: others ∧ first.isDigit = true := by
  obtain ⟨first, others, starts, isDigit⟩ := head_whole isOrderly
  exact ⟨first, others ++ (fractionText layout.fraction ++ exponentText layout.exponent),
    by rw [Layout.text, starts]; rfl, isDigit⟩

theorem minus_signText {first : Char} (isDigit : first.isDigit = true) (negative : Bool)
    (others : List Char) :
    minus (signText negative ++ first :: others) = (negative, first :: others) := by
  cases negative with
  | true => rfl
  | false =>
    show minus (first :: others) = _
    unfold minus
    split
    · rename_i same
      cases same
      cases isDigit
    · rfl

/-- A layout is read as what it is worth. -/
theorem readNumber_layout (isOrderly : layout.IsOrderly) (negative : Bool)
    (isFraction : layout.fraction ≠ [] ∨ layout.exponent ≠ none) (ends : EndsNumber rest) :
    readNumber (signText negative ++ (layout.text ++ rest)) =
      .ok (.float (layout.worth negative), rest) := by
  obtain ⟨first, others, starts, isDigit⟩ := head_whole isOrderly
  have text : layout.text ++ rest =
      layout.whole ++ (fractionText layout.fraction ++ (exponentText layout.exponent ++ rest)) := by
    rw [Layout.text, List.append_assoc, List.append_assoc]
  have takesWhole := wholePart?_append isOrderly (@endsWhole layout rest ends)
  have notWhole : (layout.fraction.isEmpty && (layout.exponent.map fun part =>
      shift (some part)).isNone) = false := by
    rcases isFraction with filled | filled
    · simp [filled]
    · cases exponent : layout.exponent with
      | none => exact absurd exponent filled
      | some part => simp
  unfold readNumber
  rw [text]
  rw [starts, List.cons_append] at takesWhole ⊢
  rw [minus_signText isDigit]
  dsimp only
  rw [takesWhole]
  dsimp only
  rw [fractionPart_append isOrderly.fraction (@endsFraction layout rest ends),
    exponentPart_append isOrderly.exponent ends]
  dsimp only
  rw [notWhole, if_neg Bool.false_ne_true]
  cases exponent : layout.exponent with
  | none =>
    unfold Layout.worth
    rw [starts, exponent]
    rfl
  | some part =>
    unfold Layout.worth
    rw [starts, exponent]
    rfl

/-- The digits of a whole number are read as that number, up to the limit. -/
theorem readNumber_whole {number : Nat} (few : number < 10 ^ Numeral.digitLimit) (negative : Bool)
    (ends : EndsNumber rest) :
    readNumber (signText negative ++ (Nat.toDigits 10 number ++ rest)) =
      .ok (.int (if negative then -(number : Int) else number), rest) := by
  have isOrderly := isOrderly_toDigits number
  obtain ⟨first, others, starts, isDigit⟩ := head_whole isOrderly
  have takesWhole := wholePart?_append isOrderly fun c member => (ends c member).1
  have isShort : ¬ Numeral.digitLimit < (first :: others).length := by
    rw [← starts, Nat.not_lt]
    exact (Nat.length_toDigits_le_iff (by decide) (by decide)).mpr few
  have noFraction : fractionPart rest = ([], rest) := @fractionPart_append [] rest nofun
    fun c member => ⟨(ends c member).1, (ends c member).2.1⟩
  have noExponent : exponentPart rest = (none, rest) := @exponentPart_append none nofun rest ends
  have value : digitsValue (first :: others) = number := by
    rw [← starts]
    exact Nat.ofDigitChars_ten_toDigits
  unfold readNumber
  dsimp only at starts takesWhole
  rw [starts, List.cons_append] at takesWhole ⊢
  rw [minus_signText isDigit]
  dsimp only
  rw [takesWhole]
  dsimp only
  rw [noFraction]
  dsimp only
  rw [noExponent]
  show (if Numeral.digitLimit < (first :: others).length then _ else _) = _
  rw [if_neg isShort, value]

end Layouts

/-! ### Layouts that are cut short -/

/-- A character that stands in numbers. -/
def IsNumberChar (c : Char) : Prop :=
  c.isDigit = true ∨ c ∈ ['-', '+', '.', 'e', 'E']

/-- Reading was cut short: it stopped at a fault, or it made a number and left part of one. -/
def IsCutShort (outcome : Except Stop (Value × List Char)) : Prop :=
  Faults outcome ∨ ∃ value left, outcome = .ok (value, left) ∧ ∀ c ∈ left, IsNumberChar c

theorem minus_suffix (text : List Char) : (minus text).2 <:+ text := by
  unfold minus
  split
  · exact List.suffix_cons _ _
  · exact List.suffix_refl _

theorem wholePart?_suffix {text whole rest : List Char}
    (taken : wholePart? text = some (whole, rest)) : rest <:+ text := by
  unfold wholePart? at taken
  split at taken
  · cases taken
  split at taken
  · cases taken
    exact List.suffix_cons _ _
  split at taken
  · cases taken
    exact List.dropWhile_suffix _
  · cases taken

theorem fractionPart_suffix (text : List Char) : (fractionPart text).2 <:+ text := by
  unfold fractionPart
  split
  · split
    · exact List.suffix_refl _
    · exact (List.dropWhile_suffix _).trans (List.suffix_cons _ _)
  · exact List.suffix_refl _

theorem signed_suffix (text : List Char) : (Numeral.signed text).2 <:+ text := by
  unfold Numeral.signed
  split
  · exact List.suffix_cons _ _
  · exact List.suffix_cons _ _
  · exact List.suffix_refl _

theorem exponentPart_suffix (text : List Char) : (exponentPart text).2 <:+ text := by
  unfold exponentPart
  split
  · split
    · rename_i c rest _
      dsimp only
      cases came : digits (Numeral.signed rest).2 with
      | mk row left =>
        cases row with
        | nil => exact List.suffix_refl _
        | cons first others =>
          have isLeft : left <:+ (Numeral.signed rest).2 := by
            have dropped : (Numeral.signed rest).2.dropWhile Char.isDigit = left :=
              congrArg Prod.snd came
            rw [← dropped]
            exact List.dropWhile_suffix _
          exact (isLeft.trans (signed_suffix rest)).trans (List.suffix_cons _ _)
    · exact List.suffix_refl _
  · exact List.suffix_refl _

/-- Reading a number stops at a fault, leaves a part of the text or meets too many digits. -/
theorem readNumber_cases (text : List Char) :
    Faults (readNumber text) ∨
      (∃ value left, readNumber text = .ok (value, left) ∧ left <:+ text) ∨
      ∃ whole rest, wholePart? (minus text).2 = some (whole, rest) ∧
        Numeral.digitLimit < whole.length := by
  unfold readNumber
  dsimp only
  split
  · exact .inl ⟨_, _, rfl⟩
  · rename_i whole rest taken
    have isLeft : (exponentPart (fractionPart rest).2).2 <:+ text :=
      ((exponentPart_suffix _).trans (fractionPart_suffix _)).trans
        ((wholePart?_suffix taken).trans (minus_suffix text))
    split
    · split
      · rename_i many
        exact .inr (.inr ⟨whole, rest, taken, many⟩)
      · exact .inr (.inl ⟨_, _, rfl, isLeft⟩)
    · exact .inr (.inl ⟨_, _, rfl, isLeft⟩)

theorem isNumberChar_of_mem_text {layout : Layout} (isOrderly : layout.IsOrderly) (negative : Bool) :
    ∀ c ∈ signText negative ++ layout.text, IsNumberChar c := by
  intro c member
  rcases List.mem_append.mp member with isSign | isText
  · cases negative with
    | true => exact .inr (by rw [List.mem_singleton.mp isSign]; decide)
    | false => cases isSign
  rcases List.mem_append.mp isText with isWhole | isRest
  · exact .inl (isOrderly.whole c isWhole)
  rcases List.mem_append.mp isRest with inFraction | inExponent
  · cases fraction : layout.fraction with
    | nil =>
      rw [fraction] at inFraction
      cases inFraction
    | cons first others =>
      rw [fraction] at inFraction
      rcases List.mem_cons.mp inFraction with rfl | isDigit
      · exact .inr (by decide)
      · exact .inl (isOrderly.fraction c (by rw [fraction]; exact isDigit))
  · cases exponent : layout.exponent with
    | none =>
      rw [exponent] at inExponent
      cases inExponent
    | some part =>
      obtain ⟨negative, row⟩ := part
      rw [exponent] at inExponent
      rcases List.mem_cons.mp inExponent with rfl | isMore
      · exact .inr (by decide)
      rcases List.mem_cons.mp isMore with rfl | isDigit
      · exact .inr (by cases negative <;> decide)
      · exact .inl ((isOrderly.exponent negative row exponent).2 c isDigit)

theorem takeWhile_text {layout : Layout} (isOrderly : layout.IsOrderly) :
    layout.text.takeWhile Char.isDigit = layout.whole := by
  have taken := digits_append isOrderly.whole (@endsWhole layout [] endsNumber_nil)
  rw [List.append_nil] at taken
  exact congrArg Prod.fst taken

/-- No more digits are taken before the point than a layout has there, even if it is cut short. -/
theorem length_wholePart?_le {layout : Layout} (isOrderly : layout.IsOrderly)
    {part whole rest : List Char} (isPart : part <+: layout.text)
    (taken : wholePart? part = some (whole, rest)) : whole.length ≤ layout.whole.length := by
  obtain ⟨more, text⟩ := isPart
  unfold wholePart? at taken
  split at taken
  · cases taken
  split at taken
  · cases taken
    obtain ⟨first, others, starts, _⟩ := head_whole isOrderly
    rw [starts]
    exact Nat.le_add_left 1 others.length
  split at taken
  · cases taken
    rw [← takeWhile_text isOrderly, ← text, List.takeWhile_append]
    split
    · rename_i isAll
      rw [List.length_append, isAll]
      exact Nat.le_add_right _ _
    · exact Nat.le_refl _
  · cases taken

theorem minus_cut {layout : Layout} (isOrderly : layout.IsOrderly) {negative : Bool}
    {part : List Char} (isPart : part <+: signText negative ++ layout.text) :
    (minus part).2 <+: layout.text := by
  obtain ⟨first, others, starts, isDigit⟩ := head_text isOrderly
  cases part with
  | nil => exact List.nil_prefix
  | cons c rest =>
    cases negative with
    | true =>
      obtain ⟨rfl, isRest⟩ := List.cons_prefix_cons.mp isPart
      exact isRest
    | false =>
      have same : c = first := by
        have heads : c :: rest <+: first :: others := starts ▸ isPart
        exact (List.cons_prefix_cons.mp heads).1
      rw [same] at isPart ⊢
      rw [show minus (first :: rest) = (false, first :: rest) from minus_signText isDigit false rest]
      exact isPart

/-- A layout that is cut short is not read to an end. -/
theorem readNumber_cut {layout : Layout} (isOrderly : layout.IsOrderly)
    (few : layout.whole.length ≤ Numeral.digitLimit) {negative : Bool} {part : List Char}
    (isPart : part <+: signText negative ++ layout.text) : IsCutShort (readNumber part) := by
  rcases readNumber_cases part with fails | ⟨value, left, reads, isLeft⟩ | ⟨whole, rest, taken, many⟩
  · exact .inl fails
  · exact .inr ⟨value, left, reads, fun c member =>
      isNumberChar_of_mem_text isOrderly negative c (isPart.subset (isLeft.subset member))⟩
  · have isLess := length_wholePart?_le isOrderly (minus_cut isOrderly isPart) taken
    omega

end MoveAudit.Json
