/-
This file is about the values that have no parts: those that are written as words, and numbers. Each
is read back from its text, whatever comes after it that could not belong to a number. A word that
is cut short is no value at all; a number that is cut short may be one, but leaves no more than a
part of a number behind.
-/

import Mathlib.Data.List.Infix
import MoveAudit.Proofs.Json.Spelling
import MoveAudit.Proofs.Json.Steps

namespace MoveAudit.Json

open Layout

/-- A text of a value that is written as a word or as a number. -/
inductive IsPlain : Value → List Char → Prop
  | word {word : String} {value : Value} (isWord : (word, value) ∈ wordValues) :
    IsPlain value word.toList
  | number {layout : Layout} {negative : Bool} {value : Value} (isOrderly : layout.IsOrderly)
    (few : layout.whole.length ≤ Numeral.digitLimit)
    (reads : ∀ rest, EndsNumber rest →
      readNumber (signText negative ++ (layout.text ++ rest)) = .ok (value, rest)) :
    IsPlain value (signText negative ++ layout.text)

/-- A character that a value may begin with. -/
structure IsOpening (c : Char) : Prop where
  notSpace : isSpace c = false
  notBracket : c ≠ ']'
  notBrace : c ≠ '\x7d'
  isAscii : c.toNat < 128

/-! ### The text of a number -/

theorem toList_intText (whole : Int) : (Numeral.intText whole).toList =
    signText (decide (whole < 0)) ++ (⟨Nat.toDigits 10 whole.natAbs, [], none⟩ : Layout).text := by
  rw [Numeral.intText, String.toList_ofList, Layout.text, fractionText, exponentText,
    List.append_nil, List.append_nil]
  by_cases negative : whole < 0
  · rw [if_pos negative, decide_eq_true negative]
    rfl
  · rw [if_neg negative, decide_eq_false negative]
    rfl

theorem isPlain_int {whole : Int} (few : whole.natAbs < 10 ^ Numeral.digitLimit) :
    IsPlain (.int whole) (Numeral.intText whole).toList := by
  rw [toList_intText]
  have isShort := (Nat.length_toDigits_le_iff (by decide) (by decide)).mpr few
  refine .number (isOrderly_toDigits _) isShort fun rest ends => ?_
  have text : (⟨Nat.toDigits 10 whole.natAbs, [], none⟩ : Layout).text =
      Nat.toDigits 10 whole.natAbs := by
    rw [Layout.text, fractionText, exponentText, List.append_nil, List.append_nil]
  have sign :
      (if decide (whole < 0) = true then -(whole.natAbs : Int) else whole.natAbs) = whole := by
    by_cases negative : whole < 0
    · rw [decide_eq_true negative, if_pos rfl]
      omega
    · rw [decide_eq_false negative, if_neg Bool.false_ne_true]
      omega
  rw [text, readNumber_whole few _ ends, sign]

theorem isPlain_float {number : Double} (isNumber : number.IsBinary64) :
    IsPlain (.float number) (writeFloat number).toList := by
  cases number with
  | nan => exact @IsPlain.word "NaN" _ (by simp [wordValues])
  | infinite negative =>
    cases negative with
    | false => exact @IsPlain.word "Infinity" _ (by simp [wordValues])
    | true => exact @IsPlain.word "-Infinity" _ (by simp [wordValues])
  | finite negative units =>
    obtain ⟨layout, text, shows⟩ := @exists_layout units isNumber
    have written : (writeFloat (.finite negative units)).toList =
        signText negative ++ layout.text := by
      rw [← text]
      exact String.toList_ofList
    have worth : layout.worth negative = .finite negative units :=
      Double.ofDecimal_sign shows.worth
    rw [written]
    refine .number shows.toIsOrderly (shows.few.trans (by decide)) fun rest ends => ?_
    rw [readNumber_layout shows.toIsOrderly negative shows.isFraction ends, worth]

theorem isPlain_null : IsPlain .null "null".toList :=
  .word (by simp [wordValues])

theorem isPlain_bool (truth : Bool) :
    IsPlain (.bool truth) (if truth then "true" else "false").toList := by
  cases truth with
  | true => exact .word (by simp [wordValues])
  | false => exact .word (by simp [wordValues])

/-! ### First characters -/

theorem isOpening_of_isDigit {c : Char} (isDigit : c.isDigit = true) : IsOpening c := by
  have bounds : 48 ≤ c.toNat ∧ c.toNat ≤ 57 := by
    simpa [Char.isDigit, Char.le_def, UInt32.le_iff_toNat_le] using isDigit
  have ne {other : Char} (isOther : other.toNat < 48 ∨ 57 < other.toNat) : c ≠ other := by
    rintro rfl
    omega
  refine ⟨?_, ne (by decide), ne (by decide), by omega⟩
  unfold isSpace
  simp only [Bool.or_eq_false_iff, beq_eq_false_iff_ne]
  exact ⟨⟨⟨ne (by decide), ne (by decide)⟩, ne (by decide)⟩, ne (by decide)⟩

/-- A word begins like no string, array or object. -/
theorem head_word {word : String} {value : Value} (isWord : (word, value) ∈ wordValues) :
    ∃ c rest, word.toList = c :: rest ∧ IsOpening c ∧ c ≠ '"' ∧ c ≠ '[' ∧ c ≠ '\x7b' := by
  have all : ∀ word ∈ wordValues.map Prod.fst,
      word.toList.head? ∈ ['n', 't', 'f', 'N', 'I', '-'].map some := by
    decide
  have plain : ∀ c ∈ ['n', 't', 'f', 'N', 'I', '-'], decide (isSpace c = false ∧ c ≠ ']' ∧
      c ≠ '\x7d' ∧ c.toNat < 128 ∧ c ≠ '"' ∧ c ≠ '[' ∧ c ≠ '\x7b') = true :=
    List.all_eq_true.mp (by decide)
  obtain ⟨c, isFirst, isHead⟩ := List.mem_map.mp (all word (List.mem_map_of_mem isWord))
  obtain ⟨notSpace, notBracket, notBrace, isAscii, notOther⟩ :=
    of_decide_eq_true (plain c isFirst)
  obtain ⟨rest, starts⟩ := List.head?_eq_some_iff.mp isHead.symm
  exact ⟨c, rest, starts, ⟨notSpace, notBracket, notBrace, isAscii⟩, notOther⟩

theorem IsPlain.opens {value : Value} {text : List Char} (isPlain : IsPlain value text) :
    ∃ c rest, text = c :: rest ∧ IsOpening c := by
  cases isPlain with
  | word isWord =>
    obtain ⟨c, rest, starts, opens, _⟩ := head_word isWord
    exact ⟨c, rest, starts, opens⟩
  | @number layout negative value isOrderly _ _ =>
    cases negative with
    | true => exact ⟨'-', layout.text, rfl, ⟨by decide, by decide, by decide, by decide⟩⟩
    | false =>
      obtain ⟨first, others, starts, isDigit⟩ := head_text isOrderly
      exact ⟨first, others, starts, isOpening_of_isDigit isDigit⟩

/-! ### Reading -/

theorem readWord?_word {word : String} {value : Value} (isWord : (word, value) ∈ wordValues)
    (rest : List Char) : readWord? (word.toList ++ rest) = some (value, rest) := by
  simp only [wordValues, List.mem_cons, Prod.mk.injEq, List.not_mem_nil, or_false] at isWord
  rcases isWord with ⟨rfl, rfl⟩ | ⟨rfl, rfl⟩ | ⟨rfl, rfl⟩ | ⟨rfl, rfl⟩ | ⟨rfl, rfl⟩ | ⟨rfl, rfl⟩ <;>
    rfl

theorem ne_of_isDigit {first other : Char} (isDigit : first.isDigit = true)
    (isOther : other.isDigit = false) : first ≠ other := by
  rintro rfl
  rw [isDigit] at isOther
  cases isOther

/-- A text that begins like a number is no word. -/
theorem readWord?_digit {first : Char} (isDigit : first.isDigit = true) (rest : List Char) :
    readWord? (first :: rest) = none ∧ readWord? ('-' :: first :: rest) = none := by
  have ne {other : Char} (isOther : other.isDigit = false) : ¬ other = first :=
    (ne_of_isDigit isDigit isOther).symm
  have noWord : ∀ entry ∈ wordValues, afterWord? entry.1.toList (first :: rest) = none ∧
      afterWord? entry.1.toList ('-' :: first :: rest) = none := by
    intro entry isEntry
    simp only [wordValues, List.mem_cons, List.not_mem_nil, or_false] at isEntry
    rcases isEntry with rfl | rfl | rfl | rfl | rfl | rfl
    · exact ⟨if_neg (ne rfl), rfl⟩
    · exact ⟨if_neg (ne rfl), rfl⟩
    · exact ⟨if_neg (ne rfl), rfl⟩
    · exact ⟨if_neg (ne rfl), rfl⟩
    · exact ⟨if_neg (ne rfl), rfl⟩
    · exact ⟨if_neg (ne rfl), if_neg (ne rfl)⟩
  unfold readWord?
  rw [List.findSome?_eq_none_iff, List.findSome?_eq_none_iff]
  exact ⟨fun entry isEntry => Option.map_eq_none_iff.mpr (noWord entry isEntry).1,
    fun entry isEntry => Option.map_eq_none_iff.mpr (noWord entry isEntry).2⟩

/-- A text that begins like a number is read as one. -/
theorem readValue_number {fuel room : Nat} {first : Char} (isDigit : first.isDigit = true)
    (negative : Bool) (rest : List Char) :
    readValue (fuel + 1) room (signText negative ++ first :: rest) =
      readNumber (signText negative ++ first :: rest) := by
  obtain ⟨noWord, noWordToo⟩ := readWord?_digit isDigit rest
  cases negative with
  | true =>
    show readValue _ _ ('-' :: first :: rest) = readNumber ('-' :: first :: rest)
    rw [readValue_plain (by decide) (by decide) (by decide), noWordToo]
    rfl
  | false =>
    have ne {other : Char} := @ne_of_isDigit first other isDigit
    show readValue _ _ (first :: rest) = readNumber (first :: rest)
    rw [readValue_plain (ne rfl) (ne rfl) (ne rfl), noWord]
    rfl

/-- A word or a number is read back from its text. -/
theorem IsPlain.reads {value : Value} {text rest : List Char} (isPlain : IsPlain value text)
    (ends : EndsNumber rest) (fuel room : Nat) :
    readValue (fuel + 1) room (text ++ rest) = .ok (value, rest) := by
  cases isPlain with
  | word isWord =>
    obtain ⟨c, others, starts, _, noString, noArray, noObject⟩ := head_word isWord
    have isRead := readWord?_word isWord rest
    rw [starts, List.cons_append] at isRead ⊢
    rw [readValue_plain noString noArray noObject, isRead]
    rfl
  | @number layout negative value isOrderly _ isRead =>
    obtain ⟨first, others, starts, isDigit⟩ := head_text isOrderly
    have taken := isRead rest ends
    rw [starts, List.cons_append] at taken
    rw [starts, List.append_assoc, List.cons_append, readValue_number isDigit, taken]

/-! ### Words and numbers that are cut short -/

/-- A part of a word begins neither a word nor a number. -/
theorem readValue_word_cut {word : String} {value : Value} (isWord : (word, value) ∈ wordValues)
    {part : List Char} (isPart : part <+: word.toList) (isShort : part ≠ word.toList)
    (fuel room : Nat) : readValue (fuel + 1) room part = .error (.fault .value part) := by
  have all : ∀ word ∈ wordValues.map Prod.fst, ∀ part ∈ word.toList.inits, part ≠ word.toList →
      readWord? part = none ∧ wholePart? (minus part).2 = none := by
    decide
  obtain ⟨noWord, noNumber⟩ := all word (List.mem_map_of_mem isWord) part
    ((List.mem_inits _ _).mpr isPart) isShort
  obtain ⟨c, others, starts, _, noString, noArray, noObject⟩ := head_word isWord
  cases part with
  | nil => exact readValue_nil
  | cons first rest =>
    rw [starts] at isPart
    obtain ⟨rfl, _⟩ := List.cons_prefix_cons.mp isPart
    rw [readValue_plain noString noArray noObject, noWord]
    show readNumber (first :: rest) = _
    unfold readNumber
    dsimp only
    rw [noNumber]

/-- A part of a number is read as a number or not at all. -/
theorem readValue_number_cut {layout : Layout} (isOrderly : layout.IsOrderly) {negative : Bool}
    {part : List Char} (isPart : part <+: signText negative ++ layout.text)
    (fuel room : Nat) : readValue (fuel + 1) room part = readNumber part := by
  obtain ⟨first, others, starts, isDigit⟩ := head_text isOrderly
  rw [starts] at isPart
  cases negative with
  | true =>
    rcases List.prefix_cons_iff.mp isPart with rfl | ⟨unsigned, rfl, isRest⟩
    · exact readValue_nil
    rcases List.prefix_cons_iff.mp isRest with rfl | ⟨rest, rfl, _⟩
    · rw [readValue_plain (by decide) (by decide) (by decide)]
      rfl
    · exact readValue_number isDigit true rest
  | false =>
    rcases List.prefix_cons_iff.mp isPart with rfl | ⟨rest, rfl, _⟩
    · exact readValue_nil
    · exact readValue_number isDigit false rest

/-- A word or a number that is cut short is not read to an end. -/
theorem IsPlain.cut {value : Value} {text part : List Char} (isPlain : IsPlain value text)
    (isPart : part <+: text) (isShort : part ≠ text) (fuel room : Nat) :
    IsCutShort (readValue fuel room part) := by
  cases fuel with
  | zero => exact .inl ⟨.value, part, rfl⟩
  | succ fuel =>
    cases isPlain with
    | word isWord => exact .inl ⟨.value, part, readValue_word_cut isWord isPart isShort fuel room⟩
    | number isOrderly few _ =>
      rw [readValue_number_cut isOrderly isPart]
      exact readNumber_cut isOrderly few isPart

end MoveAudit.Json
