/-
This file says that the normal form of an address is its own normal form. It has no blanks at its
ends, no capital letters and no leading zeros, and nothing is left of that to be taken away. The
`0x` in front of hexadecimal digits makes no difference to it. Marks that are neither blanks nor letters
nor digits are kept, so what has none of them has no normal form with one.
-/

import MoveAudit.Move.Package
import MoveAudit.Proofs.Listing.Import
import MoveAudit.Proofs.Text.Small

namespace MoveAudit.Move.Address

open Text (lower trim trimEnd)

/-- The digits of a normal form. -/
structure IsSettled (kept : List Char) : Prop where
  small : lower kept = kept
  trimmed : trimEnd kept = kept
  starts : (∃ first rest, kept = first :: rest ∧ first ≠ '0') ∨ kept = ['0']

theorem suffix_afterMark (small : List Char) :
    (Text.after? ['0', 'x'] small).getD small <:+ small := by
  cases found : Text.after? ['0', 'x'] small with
  | none => exact List.suffix_rfl
  | some rest => exact ⟨['0', 'x'], (Text.after?_eq_some_iff.mp found).symm⟩

/-- A normal form has digits behind its `0x`. -/
theorem exists_normalChars_eq (spelling : List Char) :
    ∃ kept, normalChars spelling = '0' :: 'x' :: kept ∧ IsSettled kept := by
  have small := Text.lower_lower (trim spelling)
  have trimmed := Text.trimEnd_lower (Text.trimEnd_trim spelling)
  unfold normalChars
  dsimp only
  generalize lower (trim spelling) = written at small trimmed ⊢
  have isSuffix : ((Text.after? ['0', 'x'] written).getD written).dropWhile (· == '0') <:+ written :=
    (List.dropWhile_suffix _).trans (suffix_afterMark written)
  have starts := List.head?_dropWhile_not (· == '0') ((Text.after? ['0', 'x'] written).getD written)
  generalize ((Text.after? ['0', 'x'] written).getD written).dropWhile (· == '0') = kept
    at isSuffix starts ⊢
  cases kept with
  | nil => exact ⟨['0'], rfl, by decide, by decide, .inr rfl⟩
  | cons first rest =>
    refine ⟨first :: rest, rfl, Text.lower_eq_self_of_infix small isSuffix.isInfix,
      Text.trimEnd_of_suffix trimmed isSuffix, .inl ⟨first, rest, rfl, ?_⟩⟩
    simpa using starts

theorem normalChars_settled {kept : List Char} (settled : IsSettled kept) :
    normalChars ('0' :: 'x' :: kept) = '0' :: 'x' :: kept := by
  obtain ⟨small, trimmed, starts⟩ := settled
  have some : kept ≠ [] := by
    rcases starts with ⟨first, rest, rfl, -⟩ | rfl <;> exact List.cons_ne_nil _ _
  have trims : trim ('0' :: 'x' :: kept) = '0' :: 'x' :: kept := by
    have notBlank : Text.isBlank '0' = false := by decide
    rw [trim, Text.trimStart_cons notBlank]
    exact Text.trimEnd_append_of_trimmed trimmed some ['0', 'x']
  have lowers : lower ('0' :: 'x' :: kept) = '0' :: 'x' :: kept :=
    Text.lowerFrom_eq_self_iff.mpr (List.forall_mem_cons.mpr ⟨⟨by decide, by decide⟩,
      List.forall_mem_cons.mpr ⟨⟨by decide, by decide⟩, Text.lowerFrom_eq_self_iff.mp small⟩⟩)
  have marked : Text.after? ['0', 'x'] ('0' :: 'x' :: kept) = Option.some kept := rfl
  unfold normalChars
  rw [trims, lowers]
  dsimp only
  rw [marked, Option.getD_some]
  rcases starts with ⟨first, rest, rfl, notZero⟩ | rfl
  · rw [List.dropWhile_cons_of_neg (by simpa using notZero)]
  · rfl

theorem normalChars_normalChars (spelling : List Char) :
    normalChars (normalChars spelling) = normalChars spelling := by
  obtain ⟨kept, isNormal, settled⟩ := exists_normalChars_eq spelling
  rw [isNormal, normalChars_settled settled]

/-- The normal form of an address is its own normal form. -/
theorem normal_normal (spelling : String) : normal (normal spelling) = normal spelling := by
  unfold normal
  rw [String.toList_ofList, normalChars_normalChars]

theorem normalOf_string (spelling : String) : normalOf (.string spelling) = normal spelling := by
  unfold normalOf
  split
  · rfl
  · next empty =>
    have isEmpty : spelling = "" := by simpa [Json.Value.isFull] using empty
    rw [isEmpty]

/-- The normal form of whatever is written where an address belongs is its own normal form. -/
theorem normalOf_normalOf (written : Json.Value) :
    normalOf (.string (normalOf written)) = normalOf written := by
  rw [normalOf_string]
  exact normal_normal _

/-- A mark stands in the normal form of an address if it stands in the address. -/
theorem mem_normalChars_iff {c : Char} (low : c.toNat < 64) (small : Text.IsSmall c)
    (notBlank : Text.isBlank c = false) (notZero : c ≠ '0') {spelling : List Char} :
    c ∈ normalChars spelling ↔ c ∈ spelling := by
  have notMark : c ≠ 'x' := by
    rintro rfl
    exact absurd low (by decide)
  have stops : (c == '0') = false := beq_false_of_ne notZero
  have inLower : c ∈ lower (trim spelling) ↔ c ∈ spelling :=
    ⟨fun member => (Text.mem_trim_iff notBlank).mp (Text.mem_of_mem_lower low member),
      fun member => Text.mem_lower_of_mem small ((Text.mem_trim_iff notBlank).mpr member)⟩
  have inDigits (written : List Char) :
      c ∈ (Text.after? ['0', 'x'] written).getD written ↔ c ∈ written := by
    cases found : Text.after? ['0', 'x'] written with
    | none => rfl
    | some rest =>
      rw [Text.after?_eq_some_iff.mp found]
      simp [notZero, notMark]
  refine Iff.trans ?_
    ((@Text.mem_dropWhile_iff _ (· == '0') c stops _).trans ((inDigits _).trans inLower))
  unfold normalChars
  dsimp only
  split
  · next none =>
    rw [none]
    simp [notZero, notMark]
  · simp [notZero, notMark]

/-! ### Hexadecimal digits -/

section Digits

variable {digits : List Char} (areDigits : ∀ c ∈ digits, Listing.isHexDigit c = true)

theorem isAscii_of_isHexDigit {c : Char} (isDigit : Listing.isHexDigit c = true) :
    c.toNat < 103 := by
  have bounds := Listing.bounds_of_isHexDigit isDigit
  omega

theorem toLower_ne_mark {c : Char} (isDigit : Listing.isHexDigit c = true) : c.toLower ≠ 'x' := by
  have all : ∀ point < 103, (Char.ofNat point).toLower ≠ 'x' ∨ point = 88 := by decide
  rw [← Char.ofNat_toNat c]
  refine (all _ (isAscii_of_isHexDigit isDigit)).resolve_right ?_
  have bounds := Listing.bounds_of_isHexDigit isDigit
  omega

include areDigits

theorem afterMark_digits (some : digits ≠ []) :
    Text.after? ['0', 'x'] (digits.map Char.toLower) = none := by
  cases found : Text.after? ['0', 'x'] (digits.map Char.toLower) with
  | none => rfl
  | some rest =>
    have whole := Text.after?_eq_some_iff.mp found
    rcases digits with _ | ⟨first, _ | ⟨second, others⟩⟩
    · cases whole
    · cases (List.cons.inj whole).2
    · have isMark := (List.cons.inj (List.cons.inj whole).2).1
      exact absurd isMark (toLower_ne_mark (areDigits second (by simp)))

/-- The `0x` in front of digits makes no difference to the normal form. -/
theorem normalChars_digits (some : digits ≠ []) :
    normalChars digits = normalChars ('0' :: 'x' :: digits) := by
  have unblank : ∀ c ∈ digits, Text.isBlank c = false := fun c member =>
    Listing.isBlank_of_isHexDigit (areDigits c member)
  have isAscii : ∀ c ∈ digits, c.toNat < 128 := fun c member =>
    Nat.lt_trans (isAscii_of_isHexDigit (areDigits c member)) (by decide)
  have trims : trim ('0' :: 'x' :: digits) = '0' :: 'x' :: digits := Text.trim_of_unblank
    (List.forall_mem_cons.mpr ⟨by decide, List.forall_mem_cons.mpr ⟨by decide, unblank⟩⟩)
  have lowers : lower ('0' :: 'x' :: digits) = '0' :: 'x' :: digits.map Char.toLower :=
    Text.lower_of_ascii
      (List.forall_mem_cons.mpr ⟨by decide, List.forall_mem_cons.mpr ⟨by decide, isAscii⟩⟩)
  have marked : Text.after? ['0', 'x'] ('0' :: 'x' :: digits.map Char.toLower) =
      Option.some (digits.map Char.toLower) := rfl
  unfold normalChars
  rw [trims, lowers, Text.trim_of_unblank unblank, Text.lower_of_ascii isAscii]
  dsimp only
  rw [marked, afterMark_digits areDigits some]
  rfl

theorem normalOf_marked {mark : List Char} (marked : mark = [] ∨ mark = ['0', 'x'])
    (some : digits ≠ []) : normalOf (.string (String.ofList (mark ++ digits))) =
      normalOf (.string (String.ofList ('0' :: 'x' :: digits))) := by
  rw [normalOf_string, normalOf_string, normal, normal, String.toList_ofList, String.toList_ofList]
  rcases marked with rfl | rfl
  · rw [List.nil_append, normalChars_digits areDigits some]
  · rfl

end Digits

end MoveAudit.Move.Address
