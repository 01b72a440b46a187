/-
This file says what a text keeps when it is put into small letters. A text that stays as it is stays
so character by character, because each character leaves at least one and the rest no fewer than it
has; so every part of it stays as it is too. No character below the letters is brought in: the small
form of another character is a letter or stands beyond them.
-/

import MoveAudit.Text.Case

namespace MoveAudit.Text

/-- What a character becomes in small letters: its small form, or for a capital sigma one of two. -/
inductive Becomes (c : Char) : List Char → Prop where
  | lowered (notSigma : c.toNat ≠ 0x3A3) : Becomes c (lowerChar c)
  | sigma (isSigma : c.toNat = 0x3A3) : Becomes c ['σ']
  | finalSigma (isSigma : c.toNat = 0x3A3) : Becomes c ['ς']

/-- The small form of a text begins with that of its first character. -/
theorem exists_becomes (afterCased : Bool) (c : Char) (text : List Char) :
    ∃ form next, Becomes c form ∧
      lowerFrom afterCased (c :: text) = form ++ lowerFrom next text := by
  rw [lowerFrom]
  by_cases isSigma : c.toNat = 0x3A3
  · rw [if_pos isSigma]
    cases afterCased && !casedAhead text with
    | true => exact ⟨_, _, .finalSigma isSigma, rfl⟩
    | false => exact ⟨_, _, .sigma isSigma, rfl⟩
  · rw [if_neg isSigma]
    exact ⟨_, _, .lowered isSigma, rfl⟩

/-! ### Texts in small letters -/

theorem Becomes.length_pos {c : Char} {form : List Char} (becomes : Becomes c form) :
    0 < form.length := by
  cases becomes with
  | lowered notSigma =>
    unfold lowerChar
    split
    · exact Nat.one_pos
    · split
      · exact Nat.two_pos
      · exact Nat.one_pos
  | sigma isSigma => exact Nat.one_pos
  | finalSigma isSigma => exact Nat.one_pos

theorem length_le_lowerFrom (afterCased : Bool) (text : List Char) :
    text.length ≤ (lowerFrom afterCased text).length := by
  induction text generalizing afterCased with
  | nil => exact Nat.le_refl 0
  | cons c text inductionHypothesis =>
    obtain ⟨form, next, becomes, whole⟩ := exists_becomes afterCased c text
    have positive := becomes.length_pos
    have rest := inductionHypothesis next
    rw [whole, List.length_append, List.length_cons]
    omega

/-- A character that is its own small form, wherever it stands. -/
def IsSmall (c : Char) : Prop :=
  c.toNat ≠ 0x3A3 ∧ lowerChar c = [c]

theorem Becomes.isSmall {c : Char} (becomes : Becomes c [c]) : IsSmall c := by
  generalize isOwn : [c] = form at becomes
  cases becomes with
  | lowered notSigma => exact ⟨notSigma, isOwn.symm⟩
  | sigma isSigma =>
    cases isOwn
    exact absurd isSigma (by decide)
  | finalSigma isSigma =>
    cases isOwn
    exact absurd isSigma (by decide)

theorem IsSmall.becomes_eq {c : Char} (small : IsSmall c) {form : List Char}
    (becomes : Becomes c form) : form = [c] := by
  cases becomes with
  | lowered notSigma => exact small.2
  | sigma isSigma => exact absurd isSigma small.1
  | finalSigma isSigma => exact absurd isSigma small.1

theorem mem_lowerFrom_of_mem {c : Char} (small : IsSmall c) {afterCased : Bool} {text : List Char}
    (member : c ∈ text) : c ∈ lowerFrom afterCased text := by
  induction text generalizing afterCased with
  | nil => cases member
  | cons first text inductionHypothesis =>
    obtain ⟨form, next, becomes, whole⟩ := exists_becomes afterCased first text
    rw [whole, List.mem_append]
    rcases List.mem_cons.mp member with rfl | later
    · exact .inl (small.becomes_eq becomes ▸ List.mem_singleton_self c)
    · exact .inr (inductionHypothesis later)

/-- A character that is its own small form stays in a text that is put into small letters. -/
theorem mem_lower_of_mem {c : Char} (small : IsSmall c) {text : List Char} (member : c ∈ text) :
    c ∈ lower text :=
  mem_lowerFrom_of_mem small member

theorem lowerFrom_eq_self_iff {afterCased : Bool} {text : List Char} :
    lowerFrom afterCased text = text ↔ ∀ c ∈ text, IsSmall c := by
  induction text generalizing afterCased with
  | nil => exact ⟨fun _ => nofun, fun _ => rfl⟩
  | cons c text inductionHypothesis =>
    rw [List.forall_mem_cons]
    constructor
    · intro same
      obtain ⟨form, next, becomes, whole⟩ := exists_becomes afterCased c text
      rw [whole] at same
      -- The rest is no shorter than it was, so that one place is left for the first character.
      have single : form.length = [c].length := by
        have lengths := congrArg List.length same
        have rest := length_le_lowerFrom next text
        have positive := becomes.length_pos
        rw [List.length_append, List.length_cons] at lengths
        rw [List.length_singleton]
        omega
      obtain ⟨rfl, restSame⟩ := List.append_inj (same.trans List.singleton_append.symm) single
      exact ⟨becomes.isSmall, inductionHypothesis.mp restSame⟩
    · rintro ⟨⟨notSigma, isOwn⟩, small⟩
      rw [lowerFrom, if_neg notSigma, isOwn, inductionHypothesis.mpr small, List.singleton_append]

/-- A part of a text in small letters is in small letters. -/
theorem lower_eq_self_of_infix {part text : List Char} (small : lower text = text)
    (isInfix : part <:+: text) : lower part = part :=
  lowerFrom_eq_self_iff.mpr fun c member =>
    lowerFrom_eq_self_iff.mp small c (isInfix.subset member)

/-- A text in ASCII is put into small letters character by character. -/
theorem lower_of_ascii {text : List Char} (isAscii : ∀ c ∈ text, c.toNat < 128) :
    lower text = text.map Char.toLower := by
  unfold lower
  generalize false = afterCased
  induction text generalizing afterCased with
  | nil => rfl
  | cons c text inductionHypothesis =>
    obtain ⟨first, others⟩ := List.forall_mem_cons.mp isAscii
    rw [lowerFrom, if_neg (by omega), lowerChar, if_pos first, inductionHypothesis others,
      List.map_cons, List.singleton_append]

/-! ### Characters below the letters -/

/-- The table of small letters leads to letters. -/
theorem bounds_of_mem_lowerRows : ∀ row ∈ lowerRows,
    64 ≤ (row.1 : Int) + row.2.2.2 ∧
      ((row.2.1 : Int) + row.2.2.2 < 0xD800 ∨
        0xDFFF < (row.1 : Int) + row.2.2.2 ∧ (row.2.1 : Int) + row.2.2.2 < 0x110000) := by
  decide +kernel

theorem toNat_ofNat {point : Nat} (isValid : point.isValidChar) :
    (Char.ofNat point).toNat = point := by
  rw [Char.ofNat, dif_pos isValid]
  rfl

theorem le_toNat_of_shifted? {point moved : Nat} (found : shifted? lowerRows point = some moved) :
    64 ≤ (Char.ofNat moved).toNat := by
  obtain ⟨⟨first, last, step, shift⟩, isRow, isMoved⟩ := Option.map_eq_some_iff.mp found
  have bounds := bounds_of_mem_lowerRows _ (List.mem_of_find?_eq_some isRow)
  have covers := List.find?_some isRow
  simp only [Bool.and_eq_true, decide_eq_true_eq] at covers bounds isMoved
  have isValid : moved.isValidChar := by
    unfold Nat.isValidChar
    omega
  rw [toNat_ofNat isValid]
  omega

theorem le_toNat_toLower_or_eq (c : Char) : 64 ≤ c.toLower.toNat ∨ c.toLower = c := by
  unfold Char.toLower
  split
  · next isCapital =>
    left
    have low : 65 ≤ c.toNat := UInt32.le_iff_toNat_le.mp isCapital.1
    have high : c.toNat ≤ 90 := UInt32.le_iff_toNat_le.mp isCapital.2
    show 64 ≤ (c.toNat + 32) % 2 ^ 32
    omega
  · exact .inr rfl

/-- The small form of a character is another one only among the letters and beyond them. -/
theorem Becomes.eq_of_mem {c original : Char} {form : List Char} (becomes : Becomes original form)
    (low : c.toNat < 64) (member : c ∈ form) : c = original := by
  cases becomes with
  | lowered notSigma =>
    unfold lowerChar at member
    split at member
    · cases List.mem_singleton.mp member
      exact (le_toNat_toLower_or_eq original).resolve_left (Nat.not_le_of_lt low)
    · split at member
      · rcases List.mem_cons.mp member with rfl | other
        · exact absurd low (by decide)
        · cases List.mem_singleton.mp other
          exact absurd low (by decide)
      · cases found : shifted? lowerRows original.toNat with
        | none =>
          rw [found] at member
          exact List.mem_singleton.mp member
        | some moved =>
          rw [found] at member
          cases List.mem_singleton.mp member
          exact absurd (le_toNat_of_shifted? found) (Nat.not_le_of_lt low)
  | sigma isSigma =>
    cases List.mem_singleton.mp member
    exact absurd low (by decide)
  | finalSigma isSigma =>
    cases List.mem_singleton.mp member
    exact absurd low (by decide)

theorem mem_of_mem_lowerFrom {c : Char} (low : c.toNat < 64) {afterCased : Bool}
    {text : List Char} (member : c ∈ lowerFrom afterCased text) : c ∈ text := by
  induction text generalizing afterCased with
  | nil => exact member
  | cons first text inductionHypothesis =>
    obtain ⟨form, next, becomes, whole⟩ := exists_becomes afterCased first text
    rw [whole] at member
    rcases List.mem_append.mp member with here | later
    · exact List.mem_cons.mpr (.inl (becomes.eq_of_mem low here))
    · exact List.mem_cons_of_mem _ (inductionHypothesis later)

/-- A character below the letters that stands in the small form of a text stands in the text. -/
theorem mem_of_mem_lower {c : Char} (low : c.toNat < 64) {text : List Char}
    (member : c ∈ lower text) : c ∈ text :=
  mem_of_mem_lowerFrom low member

end MoveAudit.Text
