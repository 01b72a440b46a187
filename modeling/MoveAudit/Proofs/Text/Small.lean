/-
This file proves that a text in small letters stays as it is when it is put into small letters
again, and that no blank comes in. The small form of a character is its own small form, wherever it
stands. As with capital letters this is a fact about the table, each row of which leads past every
row.
-/

import MoveAudit.Proofs.Text.Capital

namespace MoveAudit.Text

/-! ### The table -/

/-- What a small form is not: a letter with another small form, or a blank. -/
def unsmall : List Row :=
  lowerRows ++ solid 0x3A3 0x3A3 :: solid 0x130 0x130 :: solid 65 90 :: blankRows

theorem leadsPast_unsmall : (lowerRows.all fun row => unsmall.all (leadsPast row)) = true := by
  decide +kernel

/-- A character that is its own small form wherever it stands, and no blank. -/
def IsSolidSmall (c : Char) : Prop :=
  IsSmall c ∧ isBlank c = false

theorem toLower_eq_self {c : Char} (notCapital : ¬(65 ≤ c.toNat ∧ c.toNat ≤ 90)) :
    c.toLower = c := by
  refine dif_neg fun isCapital => notCapital ?_
  exact ⟨UInt32.le_iff_toNat_le.mp isCapital.1, UInt32.le_iff_toNat_le.mp isCapital.2⟩

theorem isSolidSmall_of_unsmall {c : Char}
    (avoids : ∀ row ∈ unsmall, covers row c.toNat = false) : IsSolidSmall c := by
  have notSigma := @outside_of_avoids _ _ avoids 0x3A3 0x3A3 (by decide)
  have notDotted := @outside_of_avoids _ _ avoids 0x130 0x130 (by decide)
  have notCapital := @outside_of_avoids _ _ avoids 65 90 (by decide)
  refine ⟨⟨by omega, ?_⟩, isBlank_of_avoids fun row isBlanks => avoids row ?_⟩
  · unfold lowerChar
    split
    · rw [toLower_eq_self (by omega)]
    · rw [if_neg (by omega), shifted?_eq_none_of_avoids fun row isRow =>
        avoids row (List.mem_append_left _ isRow)]
      rfl
  · exact List.mem_append_right _ (List.mem_cons_of_mem _ (List.mem_cons_of_mem _
      (List.mem_cons_of_mem _ isBlanks)))

theorem isSolidSmall_of_toLower_ne {c : Char} (moves : c.toLower ≠ c) :
    IsSolidSmall c.toLower := by
  have isCapital : 65 ≤ c.toNat ∧ c.toNat ≤ 90 := by
    by_contra other
    exact moves (toLower_eq_self other)
  have all : ∀ point < 91, 65 ≤ point →
      ((Char.ofNat point).toLower.toNat ≠ 0x3A3 ∧
        lowerChar (Char.ofNat point).toLower = [(Char.ofNat point).toLower]) ∧
          isBlank (Char.ofNat point).toLower = false := by
    decide
  rw [← Char.ofNat_toNat c]
  exact all _ (by omega) isCapital.1

/-! ### Small letters -/

theorem isSmall_of_unshifted {c : Char} (notSigma : c.toNat ≠ 0x3A3) (notDotted : c.toNat ≠ 0x130)
    (notAscii : ¬ c.toNat < 128) (unshifted : shifted? lowerRows c.toNat = none) : IsSmall c := by
  refine ⟨notSigma, ?_⟩
  rw [lowerChar, if_neg notAscii, if_neg notDotted, unshifted]
  rfl

theorem IsSolidSmall.stays {c other : Char} (isSolid : IsSolidSmall other) :
    IsSmall other ∧ (isBlank c = false → isBlank other = false) :=
  ⟨isSolid.1, fun _ => isSolid.2⟩

theorem isSmall_of_mem_lowerChar {c part : Char} (notSigma : c.toNat ≠ 0x3A3)
    (member : part ∈ lowerChar c) : IsSmall part ∧ (isBlank c = false → isBlank part = false) := by
  unfold lowerChar at member
  split at member
  · next isAscii =>
    cases List.mem_singleton.mp member
    by_cases stays : c.toLower = c
    · rw [stays]
      exact ⟨⟨notSigma, by rw [lowerChar, if_pos isAscii, stays]⟩, id⟩
    · exact (isSolidSmall_of_toLower_ne stays).stays
  · next notAscii =>
    split at member
    · rcases List.mem_cons.mp member with rfl | isMark
      · exact (isSolidSmall_of_unsmall (by decide +kernel)).stays
      · cases List.mem_singleton.mp isMark
        exact (isSolidSmall_of_unsmall (by decide +kernel)).stays
    · next notDotted =>
      cases found : shifted? lowerRows c.toNat with
      | none =>
        rw [found] at member
        cases List.mem_singleton.mp member
        exact ⟨isSmall_of_unshifted notSigma notDotted notAscii found, id⟩
      | some moved =>
        rw [found] at member
        cases List.mem_singleton.mp member
        refine (isSolidSmall_of_unsmall (avoids_of_shifted? leadsPast_unsmall ?_ found)).stays
        intro row isRow
        have bounds := bounds_of_mem_lowerRows row isRow
        exact ⟨by omega, bounds.2⟩

/-- What a character becomes in small letters is in small letters, and no blank unless the character
is one. -/
theorem Becomes.isSmall_of_mem {c part : Char} {form : List Char} (becomes : Becomes c form)
    (member : part ∈ form) : IsSmall part ∧ (isBlank c = false → isBlank part = false) := by
  cases becomes with
  | sigma =>
    cases List.mem_singleton.mp member
    exact (isSolidSmall_of_unsmall (by decide +kernel)).stays
  | finalSigma =>
    cases List.mem_singleton.mp member
    exact (isSolidSmall_of_unsmall (by decide +kernel)).stays
  | lowered notSigma => exact isSmall_of_mem_lowerChar notSigma member

/-! ### Texts in small letters -/

theorem isSmall_of_mem_lowerFrom {c : Char} {afterCased : Bool} {text : List Char}
    (member : c ∈ lowerFrom afterCased text) : IsSmall c := by
  induction text generalizing afterCased with
  | nil => cases member
  | cons first text inductionHypothesis =>
    obtain ⟨form, next, becomes, whole⟩ := exists_becomes afterCased first text
    rw [whole] at member
    rcases List.mem_append.mp member with here | later
    · exact (becomes.isSmall_of_mem here).1
    · exact inductionHypothesis later

/-- The small form of a text is its own small form. -/
theorem lower_lower (text : List Char) : lower (lower text) = lower text :=
  lowerFrom_eq_self_iff.mpr fun _ member => isSmall_of_mem_lowerFrom member

/-- The small form of a text ends with what its last character becomes. -/
theorem exists_lowerFrom_concat (afterCased : Bool) (text : List Char) (last : Char) :
    ∃ before form, Becomes last form ∧ lowerFrom afterCased (text ++ [last]) = before ++ form := by
  induction text generalizing afterCased with
  | nil =>
    obtain ⟨form, next, becomes, whole⟩ := exists_becomes afterCased last []
    exact ⟨[], form, becomes, whole.trans (List.append_nil form)⟩
  | cons first text inductionHypothesis =>
    obtain ⟨start, next, -, whole⟩ := exists_becomes afterCased first (text ++ [last])
    obtain ⟨before, form, becomes, rest⟩ := inductionHypothesis next
    refine ⟨start ++ before, form, becomes, ?_⟩
    rw [List.cons_append, whole, rest, List.append_assoc]

/-- A text that does not end with a blank does not do so in small letters. -/
theorem trimEnd_lower {text : List Char} (trimmed : trimEnd text = text) :
    trimEnd (lower text) = lower text := by
  rcases List.eq_nil_or_concat' text with rfl | ⟨start, last, rfl⟩
  · rfl
  · have notBlank := isBlank_of_trimEnd_concat trimmed
    obtain ⟨before, form, becomes, whole⟩ := exists_lowerFrom_concat false start last
    obtain ⟨parts, part, ends⟩ :=
      (List.eq_nil_or_concat' form).resolve_left (List.ne_nil_of_length_pos becomes.length_pos)
    have member : part ∈ form := ends ▸ List.mem_append_right _ List.mem_cons_self
    rw [lower, whole, ends, ← List.append_assoc]
    exact trimEnd_concat ((becomes.isSmall_of_mem member).2 notBlank) _

end MoveAudit.Text
