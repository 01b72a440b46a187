/-
This file shows that a string is read back from its escapes. Every character is written so that one
step of the reader takes it, also when it takes two code units to write it. A string that is cut
short before its closing quote is never read to an end, wherever the cut falls: what stands inside a
string is told by its quotes and backslashes alone, and the reader finds no quote in it.
-/

import MoveAudit.Json.Reader
import MoveAudit.Json.Writer

namespace MoveAudit.Json

/-! ### Code units -/

theorem hexValue?_digitChar {digit : Nat} (isDigit : digit < 16) :
    hexValue? digit.digitChar = some digit := by
  have all : ∀ digit : Fin 16, hexValue? digit.val.digitChar = some digit.val := by decide
  exact all ⟨digit, isDigit⟩

/-- Four digits of a code unit, the highest first. -/
theorem hexDigits_four {codeUnit : Nat} (isUnit : codeUnit < 0x10000) :
    Text.hexDigits 4 codeUnit = [(codeUnit / 4096).digitChar, (codeUnit / 256 % 16).digitChar,
      (codeUnit / 16 % 16).digitChar, (codeUnit % 16).digitChar] := by
  have step (number : Nat) : Nat.toDigits 16 number =
      if number < 16 then [number.digitChar]
      else Nat.toDigits 16 (number / 16) ++ [(number % 16).digitChar] :=
    Nat.toDigits_eq_if (by decide)
  have second : codeUnit / 16 / 16 = codeUnit / 256 := Nat.div_div_eq_div_mul _ _ _
  have third : codeUnit / 256 / 16 = codeUnit / 4096 := Nat.div_div_eq_div_mul _ _ _
  unfold Text.hexDigits
  rw [step codeUnit]
  by_cases one : codeUnit < 16
  · rw [if_pos one, Nat.div_eq_of_lt (by omega), Nat.div_eq_of_lt (by omega),
      Nat.div_eq_of_lt one, Nat.mod_eq_of_lt one]
    rfl
  rw [if_neg one, step (codeUnit / 16), second]
  by_cases two : codeUnit / 16 < 16
  · have high : codeUnit / 256 = 0 := by omega
    rw [if_pos two, Nat.div_eq_of_lt (by omega : codeUnit < 4096), high, Nat.mod_eq_of_lt two]
    rfl
  rw [if_neg two, step (codeUnit / 256), third]
  by_cases three : codeUnit / 256 < 16
  · rw [if_pos three, Nat.div_eq_of_lt (by omega : codeUnit < 4096), Nat.mod_eq_of_lt three]
    rfl
  · have four : codeUnit / 4096 < 16 := by omega
    rw [if_neg three, step (codeUnit / 4096), if_pos four]
    rfl

theorem fourHex?_hexDigits {codeUnit : Nat} (isUnit : codeUnit < 0x10000) (rest : List Char) :
    fourHex? (Text.hexDigits 4 codeUnit ++ rest) = some (codeUnit, rest) := by
  have value : (codeUnit / 4096 * 16 + codeUnit / 256 % 16) * 256 +
      codeUnit / 16 % 16 * 16 + codeUnit % 16 = codeUnit := by
    omega
  rw [hexDigits_four isUnit]
  simp only [List.cons_append, List.nil_append, fourHex?,
    hexValue?_digitChar (show codeUnit / 4096 < 16 by omega),
    hexValue?_digitChar (Nat.mod_lt _ (by decide : 16 > 0)), Option.bind_eq_bind, Option.bind_some]
  rw [value]
  rfl

/-! ### Escapes -/

/-- A code unit that is no surrogate is read as its character. -/
theorem unicodeChar_unit {c : Char} (isUnit : c.toNat < 0x10000) (atLetter : List Char)
    {rest : List Char} (goesOn : rest ≠ []) :
    unicodeChar atLetter (Text.hexDigits 4 c.toNat ++ rest) = .ok (c, rest) := by
  have valid : c.toNat < 0xD800 ∨ 0xDFFF < c.toNat ∧ c.toNat < 0x110000 := c.valid
  unfold unicodeChar
  rw [fourHex?_hexDigits isUnit]
  dsimp only
  rw [if_neg (by simpa using goesOn), if_neg (by simp; omega), if_neg (by simp; omega),
    Char.ofNat_toNat]

theorem unicodeChar_surrogates {high low : Nat} (isHigh : 0xD800 ≤ high ∧ high < 0xDC00)
    (isLow : 0xDC00 ≤ low ∧ low < 0xE000) (atLetter : List Char) {rest : List Char}
    (goesOn : rest ≠ []) :
    unicodeChar atLetter (Text.hexDigits 4 high ++ (unitEscape low ++ rest)) =
      .ok (Char.ofNat (0x10000 + (high - 0xD800) * 0x400 + (low - 0xDC00)), rest) := by
  have second := fourHex?_hexDigits (show low < 0x10000 by omega) rest
  have many : 4 < (Text.hexDigits 4 low ++ rest).length := by
    rw [hexDigits_four (by omega), List.length_append]
    have := List.length_pos_iff.mpr goesOn
    simp only [List.length_cons, List.length_nil]
    omega
  unfold unicodeChar unitEscape
  rw [fourHex?_hexDigits (by omega)]
  dsimp only [List.cons_append]
  generalize Text.hexDigits 4 low ++ rest = more at second many ⊢
  rw [if_neg (by simp), if_pos (by simpa using isHigh)]
  simp only [if_pos many, second]
  rw [if_pos (by simpa using isLow)]

/-- Two surrogates are read as the character that they stand for together. -/
theorem unicodeChar_pair {c : Char} (isPair : ¬ c.toNat < 0x10000) (atLetter : List Char)
    {rest : List Char} (goesOn : rest ≠ []) :
    unicodeChar atLetter (Text.hexDigits 4 (0xD800 + (c.toNat - 0x10000) / 0x400) ++
      (unitEscape (0xDC00 + (c.toNat - 0x10000) % 0x400) ++ rest)) = .ok (c, rest) := by
  have valid : c.toNat < 0xD800 ∨ 0xDFFF < c.toNat ∧ c.toNat < 0x110000 := c.valid
  rw [unicodeChar_surrogates (by omega) (by omega) atLetter goesOn]
  have back : 0x10000 + (0xD800 + (c.toNat - 0x10000) / 0x400 - 0xD800) * 0x400 +
      (0xDC00 + (c.toNat - 0x10000) % 0x400 - 0xDC00) = c.toNat := by
    omega
  rw [back, Char.ofNat_toNat]

theorem unitEscape_append (codeUnit : Nat) (rest : List Char) :
    unitEscape codeUnit ++ rest = '\\' :: 'u' :: (Text.hexDigits 4 codeUnit ++ rest) := rfl

/-- The forms in which a character is written. -/
inductive Escapes (c : Char) : List Char → Prop
  | plain (noQuote : c ≠ '"') (noEscape : c ≠ '\\') (noControl : ¬ c.toNat < 32) : Escapes c [c]
  | short {letter : Char} (isShort : shortEscape? letter = some c) (notUnit : letter ≠ 'u') :
    Escapes c ['\\', letter]
  | unit (isUnit : c.toNat < 0x10000) : Escapes c (unitEscape c.toNat)
  | pair (isPair : ¬ c.toNat < 0x10000) :
    Escapes c (unitEscape (0xD800 + (c.toNat - 0x10000) / 0x400) ++
      unitEscape (0xDC00 + (c.toNat - 0x10000) % 0x400))

theorem escapes_escapeChar (asciiOnly : Bool) (c : Char) :
    Escapes c (escapeChar asciiOnly c) := by
  have ofCode {code : Nat} (is : c.toNat = code) : Char.ofNat code = c := by
    rw [← is, Char.ofNat_toNat]
  unfold escapeChar
  by_cases quote : c = '"'
  · rw [if_pos quote, quote]
    exact .short rfl (by decide)
  by_cases escape : c = '\\'
  · rw [if_neg quote, if_pos escape, escape]
    exact .short rfl (by decide)
  by_cases newline : c = '\n'
  · rw [if_neg quote, if_neg escape, if_pos newline, newline]
    exact .short rfl (by decide)
  by_cases carriage : c = '\r'
  · rw [if_neg quote, if_neg escape, if_neg newline, if_pos carriage, carriage]
    exact .short rfl (by decide)
  by_cases tab : c = '\t'
  · rw [if_neg quote, if_neg escape, if_neg newline, if_neg carriage, if_pos tab, tab]
    exact .short rfl (by decide)
  rw [if_neg quote, if_neg escape, if_neg newline, if_neg carriage, if_neg tab]
  split
  · rename_i isBack
    rw [← ofCode isBack]
    exact .short rfl (by decide)
  split
  · rename_i isFeed
    rw [← ofCode isFeed]
    exact .short rfl (by decide)
  split
  · exact .unit (by omega)
  split
  · rename_i noControl _
    exact .plain quote escape noControl
  split
  · exact .unit ‹_›
  · exact .pair ‹_›

/-- A character put before what a string was read as. -/
def cons (c : Char) (outcome : Except Stop (List Char × List Char)) :
    Except Stop (List Char × List Char) := do
  let (others, left) ← outcome
  return (c :: others, left)

theorem cons_ok (c : Char) (others left : List Char) :
    cons c (.ok (others, left)) = .ok (c :: others, left) := rfl

section Steps

variable (opening : List Char) (fuel : Nat) (rest : List Char)

theorem readString_short {letter c : Char} (isShort : shortEscape? letter = some c)
    (notUnit : letter ≠ 'u') :
    readString opening (fuel + 1) ('\\' :: letter :: rest) =
      cons c (readString opening fuel rest) := by
  rw [readString, if_neg (by decide), if_pos rfl]
  dsimp only
  rw [if_neg notUnit, isShort]
  rfl

theorem readString_unit {c : Char} {digits : List Char}
    (isUnit : unicodeChar ('u' :: digits) digits = .ok (c, rest)) :
    readString opening (fuel + 1) ('\\' :: 'u' :: digits) =
      cons c (readString opening fuel rest) := by
  rw [readString, if_neg (by decide), if_pos rfl]
  dsimp only
  rw [if_pos rfl, isUnit]
  rfl

theorem readString_plain {c : Char} (noQuote : c ≠ '"') (noEscape : c ≠ '\\')
    (noControl : ¬ c.toNat < 32) :
    readString opening (fuel + 1) (c :: rest) = cons c (readString opening fuel rest) := by
  rw [readString.eq_def]
  dsimp only
  rw [if_neg noQuote, if_neg noEscape, if_neg noControl]
  rfl

end Steps

/-- Whatever a character is written as, one step of the reader takes it. -/
theorem readString_escapeChar (asciiOnly : Bool) (opening : List Char) (fuel : Nat) (c : Char)
    {rest : List Char} (goesOn : rest ≠ []) :
    readString opening (fuel + 1) (escapeChar asciiOnly c ++ rest) =
      cons c (readString opening fuel rest) := by
  have form := escapes_escapeChar asciiOnly c
  generalize escapeChar asciiOnly c = written at form
  cases form with
  | plain noQuote noEscape noControl =>
    exact readString_plain opening fuel rest noQuote noEscape noControl
  | short isShort notUnit => exact readString_short opening fuel rest isShort notUnit
  | unit isUnit =>
    rw [unitEscape_append]
    exact readString_unit opening fuel rest (unicodeChar_unit isUnit _ goesOn)
  | pair isPair =>
    rw [List.append_assoc, unitEscape_append]
    exact readString_unit opening fuel rest (unicodeChar_pair isPair _ goesOn)

/-- A string is read back from its escapes. -/
theorem readString_escapes (asciiOnly : Bool) (opening : List Char) {text : List Char} {fuel : Nat}
    (enough : text.length < fuel) (rest : List Char) :
    readString opening fuel (text.flatMap (escapeChar asciiOnly) ++ '"' :: rest) =
      .ok (text, rest) := by
  induction text generalizing fuel with
  | nil =>
    obtain ⟨less, rfl⟩ := Nat.exists_eq_succ_of_ne_zero (Nat.ne_of_gt enough)
    rfl
  | cons c others inductionHypothesis =>
    rw [List.length_cons] at enough
    obtain ⟨less, rfl⟩ := Nat.exists_eq_succ_of_ne_zero (show fuel ≠ 0 by omega)
    rw [List.flatMap_cons, List.append_assoc, readString_escapeChar _ _ _ _ (by simp),
      inductionHypothesis (by omega), cons_ok]

/-! ### Strings that are cut short -/

/-- Reading stopped at a fault. -/
def Faults {Read : Type} (outcome : Except Stop Read) : Prop :=
  ∃ fault rest, outcome = .error (.fault fault rest)

theorem Faults.map {Read Other : Type} {outcome : Except Stop Read} (faults : Faults outcome)
    (onRead : Read → Other) : Faults (outcome.map onRead) := by
  obtain ⟨fault, rest, rfl⟩ := faults
  exact ⟨fault, rest, rfl⟩

theorem Faults.cons {outcome : Except Stop (List Char × List Char)} (faults : Faults outcome)
    (c : Char) : Faults (cons c outcome) := by
  obtain ⟨fault, rest, rfl⟩ := faults
  exact ⟨fault, rest, rfl⟩

/-- A text that stands inside a string and does not close it. A backslash takes the next character
with it, if there is one. -/
inductive IsInside : List Char → Prop
  | nil : IsInside []
  | backslash : IsInside ['\\']
  | escaped (c : Char) {rest : List Char} (inside : IsInside rest) : IsInside ('\\' :: c :: rest)
  | plain {c : Char} {rest : List Char} (noQuote : c ≠ '"') (noEscape : c ≠ '\\')
    (inside : IsInside rest) : IsInside (c :: rest)

namespace IsInside

variable {text rest : List Char}

theorem of_plain {c : Char} (noEscape : c ≠ '\\') (inside : IsInside (c :: rest)) :
    IsInside rest := by
  cases inside with
  | backslash => exact absurd rfl noEscape
  | escaped _ _ => exact absurd rfl noEscape
  | plain _ _ inside => exact inside

theorem of_isPart (inside : IsInside text) {part : List Char} (isPart : part <+: text) :
    IsInside part := by
  induction inside generalizing part with
  | nil =>
    rw [List.prefix_nil.mp isPart]
    exact .nil
  | backslash =>
    rcases List.prefix_cons_iff.mp isPart with rfl | ⟨others, rfl, isRest⟩
    · exact .nil
    · rw [List.prefix_nil.mp isRest]
      exact .backslash
  | escaped c inside inductionHypothesis =>
    rcases List.prefix_cons_iff.mp isPart with rfl | ⟨others, rfl, isRest⟩
    · exact .nil
    rcases List.prefix_cons_iff.mp isRest with rfl | ⟨more, rfl, isMore⟩
    · exact .backslash
    · exact .escaped c (inductionHypothesis isMore)
  | plain noQuote noEscape inside inductionHypothesis =>
    rcases List.prefix_cons_iff.mp isPart with rfl | ⟨others, rfl, isRest⟩
    · exact .nil
    · exact .plain noQuote noEscape (inductionHypothesis isRest)

theorem unitEscape (inside : IsInside rest) {codeUnit : Nat} (isUnit : codeUnit < 0x10000) :
    IsInside (Json.unitEscape codeUnit ++ rest) := by
  have digit (number : Nat) {rest : List Char} (inside : IsInside rest) :
      IsInside (number.digitChar :: rest) :=
    .plain (Nat.digitChar_ne _ rfl) (Nat.digitChar_ne _ rfl) inside
  rw [unitEscape_append, hexDigits_four isUnit]
  exact .escaped 'u' (digit _ (digit _ (digit _ (digit _ inside))))

theorem escapeChar (inside : IsInside rest) (c : Char) :
    IsInside (Json.escapeChar true c ++ rest) := by
  have form := escapes_escapeChar true c
  generalize Json.escapeChar true c = written at form
  cases form with
  | plain noQuote noEscape noControl => exact .plain noQuote noEscape inside
  | short isShort notUnit => exact .escaped _ inside
  | unit isUnit => exact inside.unitEscape isUnit
  | pair isPair =>
    have valid : c.toNat < 0xD800 ∨ 0xDFFF < c.toNat ∧ c.toNat < 0x110000 := c.valid
    rw [List.append_assoc]
    exact (inside.unitEscape (by omega)).unitEscape (by omega)

theorem escapes (text : List Char) : IsInside (text.flatMap (Json.escapeChar true)) := by
  induction text with
  | nil => exact .nil
  | cons c others inductionHypothesis =>
    rw [List.flatMap_cons]
    exact inductionHypothesis.escapeChar c

end IsInside

theorem ne_of_hexValue? {c : Char} {value : Nat} (isDigit : hexValue? c = some value) :
    c ≠ '\\' := by
  rintro rfl
  cases isDigit

theorem IsInside.of_fourHex? {text rest : List Char} {codeUnit : Nat} (inside : IsInside text)
    (isFour : fourHex? text = some (codeUnit, rest)) : IsInside rest := by
  unfold fourHex? at isFour
  split at isFour
  · rename_i a b c d others
    simp only [Option.bind_eq_bind, Option.bind_eq_some_iff] at isFour
    obtain ⟨_, isA, _, isB, _, isC, _, isD, same⟩ := isFour
    cases same
    exact (((inside.of_plain (ne_of_hexValue? isA)).of_plain (ne_of_hexValue? isB)).of_plain
      (ne_of_hexValue? isC)).of_plain (ne_of_hexValue? isD)
  · cases isFour

/-- An escape inside a string stops at a fault or leaves a text inside the string. -/
theorem IsInside.unicodeChar_cases {digits : List Char} (inside : IsInside digits)
    (atLetter : List Char) :
    Faults (unicodeChar atLetter digits) ∨
      ∃ c rest, unicodeChar atLetter digits = .ok (c, rest) ∧ IsInside rest := by
  unfold unicodeChar
  split
  · rename_i codeUnit rest isFour
    have insideRest := inside.of_fourHex? isFour
    split
    · exact .inl ⟨_, _, rfl⟩
    split
    · split
      · rename_i more _
        split
        · split
          · exact .inl ⟨_, _, rfl⟩
          · rename_i second after isSecond
            split
            · have insideMore : IsInside more := by
                cases insideRest with
                | escaped _ inside => exact inside
                | plain _ noEscape _ => exact absurd rfl noEscape
              exact .inr ⟨_, _, rfl, insideMore.of_fourHex? isSecond⟩
            · exact .inr ⟨_, _, rfl, insideRest⟩
        · exact .inr ⟨_, _, rfl, insideRest⟩
      · exact .inr ⟨_, _, rfl, insideRest⟩
    split
    · exact .inr ⟨_, _, rfl, insideRest⟩
    · exact .inr ⟨_, _, rfl, insideRest⟩
  · exact .inl ⟨_, _, rfl⟩

/-- No closing quote is found inside a string. -/
theorem IsInside.readString_fails {text : List Char} (inside : IsInside text)
    (opening : List Char) (fuel : Nat) : Faults (readString opening fuel text) := by
  induction fuel generalizing text with
  | zero => exact ⟨_, _, rfl⟩
  | succ fuel inductionHypothesis =>
    cases inside with
    | nil => exact ⟨_, _, rfl⟩
    | backslash => exact ⟨_, _, rfl⟩
    | @escaped letter rest inside =>
      by_cases isUnit : letter = 'u'
      · rw [isUnit]
        rcases inside.unicodeChar_cases ('u' :: rest) with
          ⟨fault, left, fails⟩ | ⟨c, left, reads, inside⟩
        · refine ⟨fault, left, ?_⟩
          rw [readString, if_neg (by decide), if_pos rfl]
          dsimp only
          rw [if_pos rfl, fails]
          rfl
        · rw [readString_unit opening fuel left reads]
          exact (inductionHypothesis inside).cons _
      · cases isShort : shortEscape? letter with
        | none =>
          rw [readString, if_neg (by decide), if_pos rfl]
          dsimp only
          rw [if_neg isUnit, isShort]
          exact ⟨_, _, rfl⟩
        | some c =>
          rw [readString_short opening fuel rest isShort isUnit]
          exact (inductionHypothesis inside).cons _
    | @plain c rest noQuote noEscape inside =>
      by_cases isControl : c.toNat < 32
      · rw [readString.eq_def]
        dsimp only
        rw [if_neg noQuote, if_neg noEscape, if_pos isControl]
        exact ⟨_, _, rfl⟩
      · rw [readString_plain opening fuel rest noQuote noEscape isControl]
        exact (inductionHypothesis inside).cons _

end MoveAudit.Json
