/-
This file proves that a text in capital letters stays as it is when it is put into capital letters
again, and that no blank comes in at its ends. A capital form has no other capital form itself. This
is a fact about the table: each of its rows leads past every row, so it is settled row by row and
not letter by letter.
-/

import MoveAudit.Proofs.Text.Blank
import MoveAudit.Proofs.Text.Case

namespace MoveAudit.Text

/-! ### The table -/

/-- A row of a table of letters: the first one, the last one, the step between neighbours, and the
distance to their other case. -/
abbrev Row := Nat × Nat × Nat × Int

/-- A row covers a code point. -/
def covers : Row → Nat → Bool
  | (first, last, step, _), point =>
    first ≤ point && point ≤ last && (point - first) % step == 0

/-- The letters from `low` to `high` stand before a row or after it, or they are every second one
(`inSteps`) and stand in its gaps. -/
def standsApart (low high : Nat) (inSteps : Bool) (other : Row) : Bool :=
  !(Nat.ble other.1 high && Nat.ble low other.2.1) ||
    (inSteps && other.2.2.1 == 2 && (low + other.1) % 2 == 1)

/-- A row leads past another one: no letter that it leads to is covered by the other. -/
def leadsPast : Row → Row → Bool
  | (first, last, step, shift) =>
    standsApart (first + shift).toNat (last + shift).toNat (step == 2 || first == last)

/-- The row of all code points from one to another. -/
def solid (first last : Nat) : Row := (first, last, 1, 0)

/-- What a capital form is not: a letter with another capital form, or a blank. -/
def avoided : List Row :=
  upperRows ++ upperMany.map (fun (point, _) => solid point point) ++
    solid 97 122 :: solid 0 32 :: blankRanges.map fun (first, last) => solid first last

/-- The rows of all blanks. -/
def blankRows : List Row :=
  solid 0 32 :: blankRanges.map fun (first, last) => solid first last

theorem solid_mem_avoided {entry : Nat × List Nat} (isEntry : entry ∈ upperMany) :
    solid entry.1 entry.1 ∈ avoided :=
  List.mem_append_left _ (List.mem_append_right _ (List.mem_map.mpr ⟨entry, isEntry, rfl⟩))

theorem blankRows_subset_avoided : blankRows ⊆ avoided :=
  List.subset_append_of_subset_right _ (List.subset_cons_of_subset _ (List.Subset.refl _))

theorem leadsPast_avoided : (upperRows.all fun row => avoided.all (leadsPast row)) = true := by
  decide +kernel

theorem bounds_of_mem_upperRows : ∀ row ∈ upperRows, 0 ≤ (row.1 : Int) + row.2.2.2 ∧
    ((row.2.1 : Int) + row.2.2.2 < 0xD800 ∨
      0xDFFF < (row.1 : Int) + row.2.2.2 ∧ (row.2.1 : Int) + row.2.2.2 < 0x110000) := by
  decide +kernel

theorem avoided_upperMany : ∀ entry ∈ upperMany, entry.2 ≠ [] ∧ ∀ point ∈ entry.2,
    point < 0xD800 ∧ ∀ row ∈ avoided, covers row point = false := by
  decide +kernel

theorem covers_of_leadsPast {row other : Row} (past : leadsPast row other = true) {point : Nat}
    (isCovered : covers row point = true) (isLetter : 0 ≤ (row.1 : Int) + row.2.2.2) :
    covers other ((point : Int) + row.2.2.2).toNat = false := by
  obtain ⟨first, last, step, shift⟩ := row
  obtain ⟨start, stop, stride, _⟩ := other
  simp only [leadsPast, standsApart, covers, Bool.or_eq_true, Bool.and_eq_true, Bool.not_eq_true',
    ← Bool.not_eq_true, Nat.ble_eq, decide_eq_true_eq, beq_iff_eq] at past isCovered isLetter
  refine eq_false_of_ne_true fun reached => ?_
  simp only [covers, Bool.and_eq_true, decide_eq_true_eq, beq_iff_eq] at reached
  obtain apart | ⟨⟨rfl | rfl, rfl⟩, between⟩ := past <;> omega

theorem covers_solid {first last point : Nat} (starts : first ≤ point) (ends : point ≤ last) :
    covers (solid first last) point = true := by
  simp [solid, covers, starts, ends, Nat.mod_one]

section Avoiding

variable {rows : List Row}

theorem outside_of_avoids {point : Nat} (avoids : ∀ row ∈ rows, covers row point = false)
    {first last : Nat} (isRow : solid first last ∈ rows) : point < first ∨ last < point := by
  by_contra inside
  exact ne_true_of_eq_false (avoids _ isRow) (covers_solid (by omega) (by omega))

/-- A character that no row of blanks covers is no blank. -/
theorem isBlank_of_avoids {c : Char} (avoids : ∀ row ∈ blankRows, covers row c.toNat = false) :
    isBlank c = false := by
  refine eq_false_of_ne_true fun blank => ?_
  rcases lt_or_exists_of_isBlank blank with low | ⟨blanks, isBlanks, starts, ends⟩
  · have apart := @outside_of_avoids _ _ avoids 0 32 List.mem_cons_self
    omega
  · have apart := @outside_of_avoids _ _ avoids blanks.1 blanks.2
      (List.mem_cons_of_mem _ (List.mem_map.mpr ⟨blanks, isBlanks, rfl⟩))
    omega

theorem shifted?_eq_none_of_avoids {point : Nat}
    (avoids : ∀ row ∈ rows, covers row point = false) : shifted? rows point = none :=
  Option.map_eq_none_iff.mpr
    (List.find?_eq_none.mpr fun row isRow => ne_true_of_eq_false (avoids row isRow))

/-- What a table leads to is a character, and no row covers it that all rows of the table lead
past. -/
theorem avoids_of_shifted? {others : List Row}
    (past : (rows.all fun row => others.all (leadsPast row)) = true)
    (bounds : ∀ row ∈ rows, 0 ≤ (row.1 : Int) + row.2.2.2 ∧
      ((row.2.1 : Int) + row.2.2.2 < 0xD800 ∨
        0xDFFF < (row.1 : Int) + row.2.2.2 ∧ (row.2.1 : Int) + row.2.2.2 < 0x110000))
    {point moved : Nat} (found : shifted? rows point = some moved) :
    ∀ row ∈ others, covers row (Char.ofNat moved).toNat = false := by
  obtain ⟨⟨first, last, step, shift⟩, isFound, rfl⟩ := Option.map_eq_some_iff.mp found
  have isRow := List.mem_of_find?_eq_some isFound
  have isCovered := List.find?_some isFound
  change covers (first, last, step, shift) point = true at isCovered
  change ∀ row ∈ others, covers row (Char.ofNat ((point : Int) + shift).toNat).toNat = false
  obtain ⟨isLetter, within⟩ := bounds _ isRow
  have isValid : ((point : Int) + shift).toNat.isValidChar := by
    simp only [covers, Bool.and_eq_true, decide_eq_true_eq] at isCovered within
    unfold Nat.isValidChar
    omega
  intro other isOther
  rw [toNat_ofNat isValid]
  exact covers_of_leadsPast (List.all_eq_true.mp (List.all_eq_true.mp past _ isRow) other isOther)
    isCovered isLetter

end Avoiding

/-! ### Capital letters -/

/-- A character that is its own capital form, and no blank. -/
def IsCapital (c : Char) : Prop :=
  upperChar c = [c] ∧ isBlank c = false

theorem toUpper_eq_self {c : Char} (notSmall : ¬(97 ≤ c.toNat ∧ c.toNat ≤ 122)) :
    c.toUpper = c := by
  refine dif_neg fun isSmall => notSmall ?_
  exact ⟨UInt32.le_iff_toNat_le.mp isSmall.1, UInt32.le_iff_toNat_le.mp isSmall.2⟩

theorem isCapital_of_avoided {c : Char} (avoids : ∀ row ∈ avoided, covers row c.toNat = false) :
    IsCapital c := by
  refine ⟨?_, isBlank_of_avoids fun row isBlanks => avoids row (blankRows_subset_avoided isBlanks)⟩
  unfold upperChar
  split
  · have notSmall := @outside_of_avoids _ _ avoids 97 122 (by decide)
    rw [toUpper_eq_self (by omega)]
  · have single : upperMany.lookup c.toNat = none := by
      refine List.lookup_eq_none_iff.mpr fun entry isEntry => bne_iff_ne.mpr fun same => ?_
      have apart := outside_of_avoids avoids (solid_mem_avoided isEntry)
      omega
    have unshifted : shifted? upperRows c.toNat = none := shifted?_eq_none_of_avoids
      fun row isRow => avoids row (List.mem_append_left _ (List.mem_append_left _ isRow))
    rw [single, unshifted]
    rfl

theorem isCapital_of_mem_upperMany {point : Nat} {points : List Nat}
    (isEntry : (point, points) ∈ upperMany) {form : Char} (member : form ∈ points.map Char.ofNat) :
    IsCapital form := by
  obtain ⟨part, isPart, rfl⟩ := List.mem_map.mp member
  obtain ⟨low, avoids⟩ := (avoided_upperMany _ isEntry).2 part isPart
  apply isCapital_of_avoided
  rw [toNat_ofNat (.inl low)]
  exact avoids

theorem isCapital_of_shifted? {point moved : Nat}
    (found : shifted? upperRows point = some moved) : IsCapital (Char.ofNat moved) :=
  isCapital_of_avoided (avoids_of_shifted? leadsPast_avoided bounds_of_mem_upperRows found)

theorem isCapital_of_toUpper_ne {c : Char} (moves : c.toUpper ≠ c) : IsCapital c.toUpper := by
  have isSmall : 97 ≤ c.toNat ∧ c.toNat ≤ 122 := by
    by_contra other
    exact moves (toUpper_eq_self other)
  have all : ∀ point < 123, 97 ≤ point →
      upperChar (Char.ofNat point).toUpper = [(Char.ofNat point).toUpper] ∧
        isBlank (Char.ofNat point).toUpper = false := by
    decide
  rw [← Char.ofNat_toNat c]
  exact all _ (by omega) isSmall.1

/-- A character stays as it is, or all that it becomes is in capital letters. -/
theorem upperChar_eq_self_or (c : Char) :
    upperChar c = [c] ∨ upperChar c ≠ [] ∧ ∀ form ∈ upperChar c, IsCapital form := by
  by_cases isAscii : c.toNat < 128
  · have form : upperChar c = [c.toUpper] := if_pos isAscii
    rw [form]
    by_cases stays : c.toUpper = c
    · exact .inl (congrArg ([·]) stays)
    · refine .inr ⟨List.cons_ne_nil _ _, fun form member => ?_⟩
      rw [List.mem_singleton.mp member]
      exact isCapital_of_toUpper_ne stays
  · unfold upperChar
    rw [if_neg isAscii]
    split
    · next points found =>
      obtain ⟨before, after, whole, -⟩ := List.lookup_eq_some_iff.mp found
      have isEntry : (c.toNat, points) ∈ upperMany :=
        whole ▸ List.mem_append_right _ List.mem_cons_self
      refine .inr ⟨?_, fun form member => isCapital_of_mem_upperMany isEntry member⟩
      exact fun empty => (avoided_upperMany _ isEntry).1 (List.map_eq_nil_iff.mp empty)
    · cases found : shifted? upperRows c.toNat with
      | none => exact .inl rfl
      | some moved =>
        refine .inr ⟨List.cons_ne_nil _ _, fun form member => ?_⟩
        rw [List.mem_singleton.mp member]
        exact isCapital_of_shifted? found

/-! ### Texts in capital letters -/

theorem upper_append (first rest : List Char) : upper (first ++ rest) = upper first ++ upper rest :=
  List.flatMap_append

theorem upper_upperChar (c : Char) : upper (upperChar c) = upperChar c := by
  rcases upperChar_eq_self_or c with same | ⟨-, capital⟩
  · rw [same, upper, List.flatMap_singleton, same]
  · have each : ∀ form ∈ upperChar c, upperChar form = [form] := fun form member =>
      (capital form member).1
    rw [upper, List.flatMap_congr each]
    exact List.flatMap_singleton' _

/-- The capital form of a text is its own capital form. -/
theorem upper_upper (text : List Char) : upper (upper text) = upper text := by
  induction text with
  | nil => rfl
  | cons c text inductionHypothesis =>
    have whole : upper (c :: text) = upperChar c ++ upper text := rfl
    rw [whole, upper_append, upper_upperChar, inductionHypothesis]

theorem isBlank_of_mem_upperChar {c form : Char} (notBlank : isBlank c = false)
    (member : form ∈ upperChar c) : isBlank form = false := by
  rcases upperChar_eq_self_or c with same | ⟨-, capital⟩
  · rw [same] at member
    rw [List.mem_singleton.mp member]
    exact notBlank
  · exact (capital form member).2

theorem upperChar_ne_nil (c : Char) : upperChar c ≠ [] := by
  rcases upperChar_eq_self_or c with same | ⟨notEmpty, -⟩
  · rw [same]
    exact List.cons_ne_nil _ _
  · exact notEmpty

theorem trimStart_upper {text : List Char} (trimmed : trimStart text = text) :
    trimStart (upper text) = upper text := by
  cases text with
  | nil => rfl
  | cons first rest =>
    have notBlank : isBlank first = false :=
      eq_false_of_ne_true (List.dropWhile_eq_self_iff.mp trimmed (Nat.zero_lt_succ _))
    obtain ⟨form, forms, begins⟩ := List.exists_cons_of_ne_nil (upperChar_ne_nil first)
    have member : form ∈ upperChar first := begins ▸ List.mem_cons_self
    have whole : upper (first :: rest) = upperChar first ++ upper rest := rfl
    rw [whole, begins, List.cons_append]
    exact trimStart_cons (isBlank_of_mem_upperChar notBlank member) _

theorem trimEnd_upper {text : List Char} (trimmed : trimEnd text = text) :
    trimEnd (upper text) = upper text := by
  rcases List.eq_nil_or_concat' text with rfl | ⟨before, last, rfl⟩
  · rfl
  · have notBlank := isBlank_of_trimEnd_concat trimmed
    obtain ⟨forms, form, ends⟩ :=
      (List.eq_nil_or_concat' (upperChar last)).resolve_left (upperChar_ne_nil last)
    have member : form ∈ upperChar last := ends ▸ List.mem_append_right _ List.mem_cons_self
    have whole : upper [last] = upperChar last := List.flatMap_singleton _ _
    rw [upper_append, whole, ends, ← List.append_assoc]
    exact trimEnd_concat (isBlank_of_mem_upperChar notBlank member) _

theorem trim_upper_trim (text : List Char) : trim (upper (trim text)) = upper (trim text) := by
  show trimEnd (trimStart (upper (trim text))) = upper (trim text)
  rw [trimStart_upper (trimStart_trim text), trimEnd_upper (trimEnd_trim text)]

/-- A string that was trimmed and put into capital letters stays as it is when that is done to it
again. -/
theorem raised_trimmed_again (text : String) :
    raised (trimmed (raised (trimmed text))) = raised (trimmed text) := by
  unfold raised trimmed
  rw [String.toList_ofList, String.toList_ofList, String.toList_ofList, trim_upper_trim,
    upper_upper]

end MoveAudit.Text
