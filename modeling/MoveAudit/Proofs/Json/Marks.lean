/-
This file shows where a mark can stand in the text of a value. A mark that begins with a backtick
and holds none of the characters that a value is put together with stands in the text of a value
only where it stands in one of its names or strings. Escapes hide no mark and make none, since no
escape has a backtick and each begins with a backslash.
-/

import MoveAudit.Proofs.Json.Cut

namespace MoveAudit.Json

namespace Value

mutual

/-- The strings and names in a value, at any depth. -/
def allTexts : Value → List String
  | string text => [text]
  | array items => allTextsOfItems items
  | object members => allTextsOfMembers members
  | _ => []

@[inherit_doc allTexts]
def allTextsOfItems : List Value → List String
  | [] => []
  | item :: others => allTexts item ++ allTextsOfItems others

@[inherit_doc allTexts]
def allTextsOfMembers : Members → List String
  | [] => []
  | (name, value) :: others => name :: (allTexts value ++ allTextsOfMembers others)

end

end Value

open Value

/-! ### Marks in a text -/

section Infixes

variable {mark first second : List Char}

theorem prefix_of_notMem {c : Char} (absent : c ∉ mark) (isPrefix : mark <+: first ++ c :: second) :
    mark <+: first := by
  rcases prefix_append_cases isPrefix with ⟨within, _⟩ | ⟨rest, rfl, isRest⟩
  · exact within
  rcases List.prefix_cons_iff.mp isRest with rfl | ⟨more, rfl, _⟩
  · rw [List.append_nil]
  · exact absurd (List.mem_append_right first List.mem_cons_self) absent

/-- A mark without a character stands before it or after it. -/
theorem infix_cases {c : Char} (absent : c ∉ mark) (isInfix : mark <:+: first ++ c :: second) :
    mark <:+: first ∨ mark <:+: second := by
  induction first with
  | nil =>
    rcases List.infix_cons_iff.mp isInfix with isPrefix | isLater
    · exact .inl (prefix_of_notMem absent isPrefix).isInfix
    · exact .inr isLater
  | cons other first inductionHypothesis =>
    rcases List.infix_cons_iff.mp isInfix with isPrefix | isLater
    · exact .inl (prefix_of_notMem absent isPrefix).isInfix
    · exact (inductionHypothesis isLater).imp_left fun isFirst =>
        isFirst.trans (List.suffix_cons other first).isInfix

/-- A mark begins where its first character stands. -/
theorem infix_of_notMem {c : Char} (absent : c ∉ first) (isInfix : c :: mark <:+: first ++ second) :
    c :: mark <:+: second := by
  induction first with
  | nil => exact isInfix
  | cons other first inductionHypothesis =>
    rcases List.infix_cons_iff.mp isInfix with isPrefix | isLater
    · obtain ⟨rfl, _⟩ := List.cons_prefix_cons.mp isPrefix
      exact absurd List.mem_cons_self absent
    · exact inductionHypothesis (fun member => absent (List.mem_cons_of_mem _ member)) isLater

end Infixes

/-! ### Marks in a string -/

/-- A mark that only a string can hold. -/
structure IsMark (mark : List Char) : Prop where
  starts : mark.head? = some '`'
  noBackslash : '\\' ∉ mark
  noQuote : '"' ∉ mark
  noComma : ',' ∉ mark
  noBracket : ']' ∉ mark
  noBrace : '\x7d' ∉ mark

theorem noBacktick_unitEscape {codeUnit : Nat} (isUnit : codeUnit < 0x10000) :
    '`' ∉ unitEscape codeUnit := by
  have digit (number : Nat) : '`' ≠ number.digitChar := (Nat.digitChar_ne _ rfl).symm
  unfold unitEscape
  rw [hexDigits_four isUnit]
  simp [digit]

/-- A character is written as itself, or as an escape that no mark begins with. -/
theorem escapeChar_cases (c : Char) : escapeChar true c = [c] ∨
    '`' ∉ escapeChar true c ∧ ∃ rest, escapeChar true c = '\\' :: rest := by
  have form := escapes_escapeChar true c
  generalize escapeChar true c = written at form
  cases form with
  | plain _ _ _ => exact .inl rfl
  | @short letter isShort _ =>
    refine .inr ⟨?_, _, rfl⟩
    have noBacktick : '`' ≠ letter := by
      rintro rfl
      cases isShort
    simp [noBacktick]
  | unit isUnit => exact .inr ⟨noBacktick_unitEscape isUnit, _, rfl⟩
  | pair isPair =>
    have valid : c.toNat < 0xD800 ∨ 0xDFFF < c.toNat ∧ c.toNat < 0x110000 := c.valid
    refine .inr ⟨?_, _, rfl⟩
    rw [List.mem_append, not_or]
    exact ⟨noBacktick_unitEscape (by omega), noBacktick_unitEscape (by omega)⟩

/-- What has no backslash is written as itself. -/
theorem prefix_of_escapes {mark text : List Char} (noBackslash : '\\' ∉ mark)
    (isPrefix : mark <+: text.flatMap (escapeChar true)) : mark <+: text := by
  induction mark generalizing text with
  | nil => exact List.nil_prefix
  | cons first mark inductionHypothesis =>
    cases text with
    | nil => cases List.prefix_nil.mp isPrefix
    | cons c text =>
      rw [List.mem_cons, not_or] at noBackslash
      rw [List.flatMap_cons] at isPrefix
      rcases escapeChar_cases c with isPlain | ⟨_, rest, isEscape⟩
      · rw [isPlain] at isPrefix
        obtain ⟨rfl, isRest⟩ := List.cons_prefix_cons.mp isPrefix
        exact List.cons_prefix_cons.mpr ⟨rfl, inductionHypothesis noBackslash.2 isRest⟩
      · rw [isEscape] at isPrefix
        exact absurd (List.cons_prefix_cons.mp isPrefix).1.symm noBackslash.1

/-- Escapes make no mark. -/
theorem IsMark.of_escapes {mark text : List Char} (isMark : IsMark mark)
    (isInfix : mark <:+: text.flatMap (escapeChar true)) : mark <:+: text := by
  obtain ⟨others, rfl⟩ := List.head?_eq_some_iff.mp isMark.starts
  induction text with
  | nil => exact isInfix
  | cons c text inductionHypothesis =>
    rw [List.flatMap_cons] at isInfix
    rcases escapeChar_cases c with isPlain | ⟨noBacktick, _⟩
    · rw [isPlain] at isInfix
      rcases List.infix_cons_iff.mp isInfix with isPrefix | isLater
      · have isWritten : '`' :: others <+: (c :: text).flatMap (escapeChar true) := by
          rw [List.flatMap_cons, isPlain]
          exact isPrefix
        exact (prefix_of_escapes isMark.noBackslash isWritten).isInfix
      · exact (inductionHypothesis isLater).trans (List.suffix_cons c text).isInfix
    · exact (inductionHypothesis (infix_of_notMem noBacktick isInfix)).trans
        (List.suffix_cons c text).isInfix

/-! ### Marks in a value -/

theorem IsPlain.noBacktick {value : Value} {text : List Char} (isPlain : IsPlain value text) :
    '`' ∉ text := by
  cases isPlain with
  | @word word value isWord =>
    have all : ∀ word ∈ wordValues.map Prod.fst, '`' ∉ word.toList := by decide
    exact all word (List.mem_map_of_mem isWord)
  | @number layout negative value isOrderly _ _ =>
    intro member
    rcases isNumberChar_of_mem_text isOrderly negative _ member with isDigit | isOther
    · cases isDigit
    · revert isOther
      decide

section Values

variable {mark : List Char} (isMark : IsMark mark)

include isMark

theorem IsMark.not_infix {text : List Char} (noBacktick : '`' ∉ text) : ¬ mark <:+: text := by
  intro isInfix
  obtain ⟨others, rfl⟩ := List.head?_eq_some_iff.mp isMark.starts
  exact noBacktick (isInfix.subset List.mem_cons_self)

/-- A mark does not begin with a character that stands before it. -/
theorem IsMark.infix_cons {c : Char} {text : List Char} (notBacktick : '`' ≠ c)
    (isInfix : mark <:+: c :: text) : mark <:+: text := by
  obtain ⟨others, rfl⟩ := List.head?_eq_some_iff.mp isMark.starts
  exact @infix_of_notMem others [c] text '`' (by simpa using notBacktick) isInfix

mutual

/-- A mark in the text of a value stands in one of its names or strings. -/
theorem IsMark.of_spelling {value : Value} (isProper : value.IsProper)
    (isInfix : mark <:+: value.spelling) : ∃ text ∈ value.allTexts, mark <:+: text.toList := by
  match value with
  | null => exact absurd isInfix (isMark.not_infix isPlain_null.noBacktick)
  | .bool truth => exact absurd isInfix (isMark.not_infix (isPlain_bool truth).noBacktick)
  | int whole => exact absurd isInfix (isMark.not_infix (isPlain_int isProper).noBacktick)
  | float number => exact absurd isInfix (isMark.not_infix (isPlain_float isProper).noBacktick)
  | string text =>
    rcases infix_cases isMark.noQuote (isMark.infix_cons (by decide) isInfix) with inside | beyond
    · exact ⟨text, List.mem_singleton_self text, isMark.of_escapes inside⟩
    · exact absurd beyond (isMark.not_infix List.not_mem_nil)
  | array items => exact IsMark.of_spellingOfItems isProper (isMark.infix_cons (by decide) isInfix)
  | object members =>
    exact IsMark.of_spellingOfMembers isProper.2 (isMark.infix_cons (by decide) isInfix)

theorem IsMark.of_spellingOfItems {items : List Value} (isProper : AreProper items)
    (isInfix : mark <:+: spellingOfItems items) :
    ∃ text ∈ allTextsOfItems items, mark <:+: text.toList := by
  match items with
  | [] => exact absurd isInfix (isMark.not_infix (by decide))
  | item :: others =>
    have here (inItem : mark <:+: item.spelling) :
        ∃ text ∈ allTextsOfItems (item :: others), mark <:+: text.toList := by
      obtain ⟨text, isText, isInText⟩ := IsMark.of_spelling isProper.1 inItem
      exact ⟨text, List.mem_append_left _ isText, isInText⟩
    rw [spellingOfItems_cons] at isInfix
    cases others with
    | nil =>
      rcases infix_cases isMark.noBracket isInfix with inItem | beyond
      · exact here inItem
      · exact absurd beyond (isMark.not_infix List.not_mem_nil)
    | cons next others =>
      rcases infix_cases isMark.noComma isInfix with inItem | beyond
      · exact here inItem
      · obtain ⟨text, isText, isInText⟩ :=
          IsMark.of_spellingOfItems isProper.2 (isMark.infix_cons (by decide) beyond)
        exact ⟨text, List.mem_append_right _ isText, isInText⟩

theorem IsMark.of_spellingOfMembers {members : Members} (isProper : AreMembersProper members)
    (isInfix : mark <:+: spellingOfMembers members) :
    ∃ text ∈ allTextsOfMembers members, mark <:+: text.toList := by
  match members with
  | [] => exact absurd isInfix (isMark.not_infix (by decide))
  | (name, value) :: others =>
    have here (inValue : mark <:+: value.spelling) :
        ∃ text ∈ allTextsOfMembers ((name, value) :: others), mark <:+: text.toList := by
      obtain ⟨text, isText, isInText⟩ := IsMark.of_spelling isProper.1 inValue
      exact ⟨text, List.mem_cons_of_mem _ (List.mem_append_left _ isText), isInText⟩
    rw [spellingOfMembers_cons, inQuotes_append] at isInfix
    rcases infix_cases isMark.noQuote (isMark.infix_cons (by decide) isInfix) with inName | beyond
    · exact ⟨name, List.mem_cons_self, isMark.of_escapes inName⟩
    have isInfix := isMark.infix_cons (by decide) (isMark.infix_cons (by decide) beyond)
    cases others with
    | nil =>
      rcases infix_cases isMark.noBrace isInfix with inValue | beyond
      · exact here inValue
      · exact absurd beyond (isMark.not_infix List.not_mem_nil)
    | cons next others =>
      rcases infix_cases isMark.noComma isInfix with inValue | beyond
      · exact here inValue
      · obtain ⟨text, isText, isInText⟩ :=
          IsMark.of_spellingOfMembers isProper.2 (isMark.infix_cons (by decide) beyond)
        exact ⟨text, List.mem_cons_of_mem _ (List.mem_append_right _ isText), isInText⟩

end

end Values

end MoveAudit.Json
