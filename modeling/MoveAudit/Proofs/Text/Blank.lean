/-
This file says what trimming leaves. A text that neither begins nor ends with a blank is left as it
is, and what was trimmed once is such a text. Blanks stand outside every word.
-/

import Mathlib.Data.List.DropRight
import MoveAudit.Text.Basic

namespace MoveAudit.Text

theorem trimEnd_eq_rdropWhile (text : List Char) : trimEnd text = text.rdropWhile isBlank := rfl

theorem trimStart_cons {first : Char} (notBlank : isBlank first = false) (text : List Char) :
    trimStart (first :: text) = first :: text :=
  List.dropWhile_cons_of_neg (ne_true_of_eq_false notBlank)

/-- A text has blanks in front of what is left when it is trimmed. -/
theorem exists_gap (text : List Char) :
    ∃ gap, text = gap ++ trimStart text ∧ ∀ c ∈ gap, isBlank c = true :=
  ⟨text.takeWhile isBlank, List.takeWhile_append_dropWhile.symm,
    fun _ member => List.mem_takeWhile_imp member⟩

theorem trimEnd_concat {last : Char} (notBlank : isBlank last = false) (text : List Char) :
    trimEnd (text ++ [last]) = text ++ [last] := by
  rw [trimEnd_eq_rdropWhile]
  exact List.rdropWhile_concat_neg _ _ _ (ne_true_of_eq_false notBlank)

theorem isBlank_of_trimEnd_concat {before : List Char} {last : Char}
    (trimmed : trimEnd (before ++ [last]) = before ++ [last]) : isBlank last = false := by
  have stays := List.rdropWhile_eq_self_iff.mp trimmed (List.concat_ne_nil _ _)
  rw [List.getLast_concat] at stays
  exact eq_false_of_ne_true stays

/-- A text that does not end with a blank does not do so in its last part. -/
theorem trimEnd_of_suffix {whole part : List Char} (trimmed : trimEnd whole = whole)
    (isSuffix : part <:+ whole) : trimEnd part = part := by
  obtain ⟨before, rfl⟩ := isSuffix
  rcases List.eq_nil_or_concat' part with rfl | ⟨start, last, rfl⟩
  · rfl
  · rw [← List.append_assoc] at trimmed
    exact trimEnd_concat (isBlank_of_trimEnd_concat trimmed) start

theorem trimEnd_append_of_trimmed {part : List Char} (trimmed : trimEnd part = part)
    (some : part ≠ []) (before : List Char) : trimEnd (before ++ part) = before ++ part := by
  obtain ⟨start, last, rfl⟩ := (List.eq_nil_or_concat' part).resolve_left some
  rw [← List.append_assoc]
  exact trimEnd_concat (isBlank_of_trimEnd_concat trimmed) _

theorem trimStart_append {first : Char} (notBlank : isBlank first = false)
    (before rest : List Char) :
    trimStart (before ++ first :: rest) = trimStart before ++ first :: rest := by
  unfold trimStart
  rw [List.dropWhile_append]
  split
  · rename_i isNil
    rw [List.isEmpty_iff.mp isNil]
    exact trimStart_cons notBlank rest
  · rfl

theorem trimEnd_append {last : Char} (notBlank : isBlank last = false) (before rest : List Char) :
    trimEnd (before ++ [last] ++ rest) = before ++ [last] ++ trimEnd rest := by
  have reversed := trimStart_append notBlank rest.reverse before.reverse
  unfold trimStart at reversed
  unfold trimEnd
  rw [List.reverse_append, List.reverse_append, List.reverse_singleton, List.singleton_append,
    reversed, List.reverse_append, List.reverse_cons, List.reverse_reverse]

theorem trimEnd_of_blank {gap : List Char} (blank : ∀ c ∈ gap, isBlank c = true) :
    trimEnd gap = [] := by
  rw [trimEnd_eq_rdropWhile, List.rdropWhile_eq_nil_iff]
  exact blank

/-- A text is blank, or it has a last character that is not. -/
theorem blank_or_exists_last (text : List Char) :
    (∀ c ∈ text, isBlank c = true) ∨
      ∃ before c gap, text = before ++ [c] ++ gap ∧ isBlank c = false ∧
        ∀ c ∈ gap, isBlank c = true := by
  rcases List.eq_nil_or_concat' (trimEnd text) with none | ⟨before, c, ends⟩
  · exact .inl (List.rdropWhile_eq_nil_iff.mp none)
  · refine .inr ⟨before, c, text.rtakeWhile isBlank, ?_, ?_, fun c => List.mem_rtakeWhile_imp⟩
    · rw [← ends]
      exact List.rdropWhile_append_rtakeWhile.symm
    · refine @isBlank_of_trimEnd_concat before c ?_
      rw [← ends]
      exact List.rdropWhile_idempotent isBlank text

/-- What is left at the start of a text does not begin with a blank. -/
theorem trimStart_eq_of_starts {text kept : List Char} (isPrefix : kept <+: trimStart text) :
    trimStart kept = kept := by
  cases kept with
  | nil => rfl
  | cons first rest =>
    obtain ⟨more, whole⟩ := isPrefix
    refine trimStart_cons ?_ rest
    have notBlank := List.head?_dropWhile_not isBlank text
    rw [show text.dropWhile isBlank = first :: rest ++ more from whole.symm] at notBlank
    simpa using notBlank

theorem trimStart_trim (text : List Char) : trimStart (trim text) = trim text :=
  trimStart_eq_of_starts (List.rdropWhile_prefix isBlank (trimStart text))

theorem trimEnd_trim (text : List Char) : trimEnd (trim text) = trim text :=
  List.rdropWhile_idempotent isBlank (trimStart text)

theorem mem_dropWhile_iff {Item : Type} {passes : Item → Bool} {item : Item}
    (stops : passes item = false) {items : List Item} :
    item ∈ items.dropWhile passes ↔ item ∈ items := by
  refine ⟨fun member => (List.dropWhile_suffix passes).subset member, fun member => ?_⟩
  rw [← @List.takeWhile_append_dropWhile _ passes items, List.mem_append] at member
  refine member.resolve_left fun isDropped => ?_
  exact ne_true_of_eq_false stops (List.mem_takeWhile_imp isDropped)

/-- Trimming takes nothing but blanks away. -/
theorem mem_trim_iff {c : Char} (notBlank : isBlank c = false) {text : List Char} :
    c ∈ trim text ↔ c ∈ text := by
  rw [trim, trimEnd, List.mem_reverse, mem_dropWhile_iff notBlank, List.mem_reverse, trimStart,
    mem_dropWhile_iff notBlank]

theorem trim_trim (text : List Char) : trim (trim text) = trim text := by
  show trimEnd (trimStart (trim text)) = trim text
  rw [trimStart_trim, trimEnd_trim]

theorem trimmed_trimmed (text : String) : trimmed (trimmed text) = trimmed text := by
  unfold trimmed
  rw [String.toList_ofList, trim_trim]

/-- A text without blanks is left as it is. -/
theorem trim_of_unblank {text : List Char} (unblank : ∀ c ∈ text, isBlank c = false) :
    trim text = text := by
  have starts : trimStart text = text := by
    cases text with
    | nil => rfl
    | cons first rest => exact trimStart_cons (unblank first List.mem_cons_self) rest
  rw [trim, starts]
  rcases List.eq_nil_or_concat' text with rfl | ⟨before, last, rfl⟩
  · rfl
  · exact trimEnd_concat (unblank last (List.mem_append_right _ List.mem_cons_self)) before

/-! ### Blanks and words -/

/-- The blank characters beyond ASCII, as closed ranges. -/
def blankRanges : List (Nat × Nat) :=
  [(0x85, 0x85), (0xA0, 0xA0), (0x1680, 0x1680), (0x2000, 0x200A), (0x2028, 0x2029),
    (0x202F, 0x202F), (0x205F, 0x205F), (0x3000, 0x3000)]

theorem apart_blankRanges : (wordRanges.all fun letters => blankRanges.all fun blanks =>
    blanks.2 < letters.1 || letters.2 < blanks.1) = true := by
  decide +kernel

theorem lt_or_exists_of_isBlank {c : Char} (blank : isBlank c = true) :
    c.toNat < 33 ∨ ∃ blanks ∈ blankRanges, blanks.1 ≤ c.toNat ∧ c.toNat ≤ blanks.2 := by
  simp only [isBlank, Bool.or_eq_true, Bool.and_eq_true, decide_eq_true_eq, beq_iff_eq] at blank
  simp only [blankRanges, List.mem_cons, List.not_mem_nil, or_false, exists_eq_or_imp,
    exists_eq_left]
  omega

/-- No blank is part of a word. -/
theorem isWordChar_of_isBlank {c : Char} (blank : isBlank c = true) : isWordChar c = false := by
  rcases lt_or_exists_of_isBlank blank with isAscii | ⟨blanks, member, starts, ends⟩
  · have all : ∀ point < 33, isWordChar (Char.ofNat point) = false := by decide
    rw [← Char.ofNat_toNat c]
    exact all _ isAscii
  · have isBeyond : ∀ blanks ∈ blankRanges, 128 ≤ blanks.1 := by decide
    have notAscii := isBeyond blanks member
    unfold isWordChar
    rw [if_neg (by omega)]
    refine List.any_eq_false.mpr fun letters isRange covers => ?_
    have apart := List.all_eq_true.mp (List.all_eq_true.mp apart_blankRanges letters isRange)
      blanks member
    simp only [Bool.and_eq_true, Bool.or_eq_true, decide_eq_true_eq] at covers apart
    omega

end MoveAudit.Text
