/-
This file says that the headers of a listing are recognised. Such a header begins its line with
indentation and modifiers, each followed by a space, and ends it with a brace. It is recognised by
its own name even if that is the word of a modifier: no blank follows the name, and what stands in
parentheses behind the name `public` is not followed by another name.
-/

import MoveAudit.Proofs.Listing.Lead

namespace MoveAudit.Listing

/-! ### The headers of a listing -/

/-- What the header of a function in a listing is made of. -/
structure Header where
  indentation : List Char
  modifiers : List (List Char)
  name : List Char
  /-- What stands between angle brackets, if the header has them. -/
  generics : Option (List Char)
  arguments : List Char
  /-- What stands behind a colon, if the header has one. -/
  result : Option (List Char)

namespace Header

/-- The angle brackets of a header. -/
def bracketed (header : Header) : List Char :=
  match header.generics with
  | some inner => '<' :: (inner ++ ['>'])
  | none => []

/-- What stands between the closing parenthesis and the brace. -/
def ending (header : Header) : List Char :=
  match header.result with
  | some result => ':' :: (result ++ [' '])
  | none => [' ']

/-- A header behind its opening parenthesis. -/
def closing (header : Header) : List Char :=
  header.arguments ++ ')' :: (header.ending ++ ['\x7b'])

/-- A header from its name on. -/
def named (header : Header) : List Char :=
  header.name ++ (header.bracketed ++ '(' :: header.closing)

/-- The line of a header. -/
def text (header : Header) : List Char :=
  header.indentation ++ (header.modifiers.flatMap (· ++ [' ']) ++ header.named)

/-- The parts are what they are to be. The parenthesis in front of the arguments is closed by the
one behind them; that matters only for a function of the name `public`, since a word in parentheses
behind that name can be its scope. -/
structure IsProper (header : Header) : Prop where
  indentation : ∀ c ∈ header.indentation, isIndent c = true
  modifiers : ∀ modifier ∈ header.modifiers, IsModifier modifier
  name : ∀ c ∈ header.name, Text.isWordChar c = true
  hasName : header.name ≠ []
  isFunction : String.ofList header.name ∉ notFunctions
  generics : ∀ inner ∈ header.generics, '>' ∉ inner ∧ '\n' ∉ inner
  arguments : '\n' ∉ header.arguments
  isClosed : header.name = "public".toList →
    ∀ before, before <+: header.arguments → before.count ')' ≤ before.count '('
  result : ∀ result ∈ header.result, '\x7b' ∉ result ∧ '\n' ∉ result

variable {header : Header}

theorem named_append (header : Header) (rest : List Char) : header.named ++ rest =
    header.name ++ (header.bracketed ++ '(' :: (header.closing ++ rest)) := by
  simp [named]

theorem exists_first (header : Header) (rest : List Char) :
    ∃ first others, header.bracketed ++ '(' :: rest = first :: others ∧
      Text.isWordChar first = false ∧ Text.isBlank first = false := by
  unfold bracketed
  cases header.generics with
  | some inner => exact ⟨'<', _, rfl, by decide, by decide⟩
  | none => exact ⟨'(', _, rfl, by decide, by decide⟩

namespace IsProper

theorem ending (proper : header.IsProper) :
    '\x7b' ∉ header.ending ∧ '\n' ∉ header.ending := by
  unfold Header.ending
  cases isResult : header.result with
  | none => exact ⟨by decide, by decide⟩
  | some result =>
    obtain ⟨noBrace, oneLine⟩ := proper.result result isResult
    simp [noBrace, oneLine]

theorem lineBreak_notMem (proper : header.IsProper) : '\n' ∉ header.closing := by
  simp [closing, proper.arguments, proper.ending.2]

/-- The line of a header ends in a brace, with no brace between that and a parenthesis. -/
theorem closesHeader_closing (proper : header.IsProper) : closesHeader header.closing = true := by
  have backwards : header.closing.reverse =
      '\x7b' :: (header.ending.reverse ++ ')' :: header.arguments.reverse) := by
    simp [closing]
  have found : (header.ending.reverse ++ ')' :: header.arguments.reverse).find?
      (fun c => c == ')' || c == '\x7b') = some ')' := by
    rw [List.find?_append, List.find?_cons_of_pos (by decide)]
    cases early : header.ending.reverse.find? fun c => c == ')' || c == '\x7b' with
    | none => rfl
    | some c =>
      have member := List.mem_reverse.mp (List.mem_of_find?_eq_some early)
      have either := List.find?_some early
      have notBrace : c ≠ '\x7b' := fun same => proper.ending.1 (same ▸ member)
      have isClosing : c = ')' := by simpa [notBrace] using either
      rw [isClosing]
      rfl
  unfold closesHeader
  rw [backwards, List.dropWhile_cons_of_neg (by decide)]
  show (List.find? _ _ == some ')') = true
  rw [found]
  rfl

theorem takeWhile_named (proper : header.IsProper) (rest : List Char) :
    (header.named ++ rest).takeWhile Text.isWordChar = header.name := by
  obtain ⟨first, others, behind, notWord, -⟩ := header.exists_first (header.closing ++ rest)
  rw [named_append, List.takeWhile_append_of_pos proper.name, behind,
    List.takeWhile_cons_of_neg (ne_true_of_eq_false notWord), List.append_nil]

theorem namedHeader?_named (proper : header.IsProper) (rest : List Char) :
    namedHeader? (header.named ++ '\n' :: rest) = some (header.name, '\n' :: rest) := by
  obtain ⟨first, others, behind, notWord, notBlank⟩ :=
    header.exists_first (header.closing ++ '\n' :: rest)
  have oneLine : ∀ c ∈ header.closing, (c != '\n') = true := fun c member =>
    bne_iff_ne.mpr fun isBreak => proper.lineBreak_notMem (isBreak ▸ member)
  refine namedHeader?_eq_some_iff.mpr ⟨(proper.takeWhile_named _).symm, proper.hasName,
    '(' :: (header.closing ++ '\n' :: rest), header.closing ++ '\n' :: rest, ?_, rfl, ?_, ?_⟩
  · rw [named_append, List.dropWhile_append_of_pos proper.name, behind,
      List.dropWhile_cons_of_neg (ne_true_of_eq_false notWord), Text.trimStart_cons notBlank,
      ← behind, afterGenerics?_eq_some_iff]
    unfold bracketed
    cases hasGenerics : header.generics with
    | none => exact .inr ⟨rfl, nofun⟩
    | some inner => exact .inl ⟨inner, by simp, proper.generics inner hasGenerics⟩
  · rw [List.takeWhile_append_of_pos oneLine, List.takeWhile_cons_of_neg (by decide),
      List.append_nil]
    exact proper.closesHeader_closing
  · rw [List.dropWhile_append_of_pos oneLine, List.dropWhile_cons_of_neg (by decide)]

/-- Where small letters and a closing parenthesis follow the name `public` and an opening one, they
are all of the arguments. -/
theorem arguments_eq (proper : header.IsProper) (isPublic : header.name = "public".toList)
    {scope behind rest : List Char} (areSmall : ∀ c ∈ scope, isSmall c = true)
    (same : header.arguments ++ ')' :: rest = scope ++ ')' :: behind) :
    header.arguments = scope := by
  have notIn {c : Char} (notSmall : isSmall c = false) : c ∉ scope := fun member => by
    rw [areSmall c member] at notSmall
    cases notSmall
  rcases List.append_eq_append_iff.mp same with ⟨middle, isScope, closes⟩ | ⟨middle, longer, closes⟩
  · cases middle with
    | nil => rw [isScope, List.append_nil]
    | cons c middle =>
      obtain ⟨rfl, -⟩ := List.cons.inj closes
      exact absurd (isScope ▸ List.mem_append_right _ List.mem_cons_self) (notIn (by decide))
  · cases middle with
    | nil => rw [longer, List.append_nil]
    | cons c middle =>
      -- The parenthesis would be closed before the end of the arguments.
      obtain ⟨rfl, -⟩ := List.cons.inj closes
      have balanced := proper.isClosed isPublic (scope ++ [')']) ⟨middle, by simp [longer]⟩
      have noOpening : scope.count '(' = 0 := List.count_eq_zero.mpr (notIn (by decide))
      have noClosing : scope.count ')' = 0 := List.count_eq_zero.mpr (notIn (by decide))
      rw [List.count_append, List.count_append, noOpening, noClosing] at balanced
      exact absurd balanced (by decide)

/-- No header follows the arguments of a function of the name `public`. -/
theorem not_scope (proper : header.IsProper) (isPublic : header.name = "public".toList)
    {scope behind target rest : List Char} (areSmall : ∀ c ∈ scope, isSmall c = true)
    (isNext : afterBlanks? behind = some target)
    (same : header.closing ++ '\n' :: rest = scope ++ ')' :: behind) (fuel : Nat) :
    unindentedHeader? fuel target = none := by
  have whole : header.arguments ++ ')' :: (header.ending ++ '\x7b' :: '\n' :: rest) =
      scope ++ ')' :: behind := by
    rw [← same]
    simp [closing]
  rw [proper.arguments_eq isPublic areSmall whole] at whole
  obtain ⟨-, isBehind⟩ := List.cons.inj (List.append_cancel_left whole)
  rw [← isBehind] at isNext
  unfold Header.ending at isNext
  cases hasResult : header.result with
  | some result =>
    rw [hasResult] at isNext
    cases isNext
  | none =>
    rw [hasResult] at isNext
    cases isNext
    exact unindentedHeader?_eq_none (by decide) fuel _

/-- The name of a header and its arguments are no modifier in front of another header. -/
theorem bind_afterModifier?_named (proper : header.IsProper) (fuel : Nat) (rest : List Char) :
    (afterModifier? (header.named ++ '\n' :: rest)).bind (unindentedHeader? fuel) = none := by
  refine Option.bind_eq_none_iff.mpr fun target isAfter => ?_
  obtain ⟨modifier, behind, isModifier, whole, isNext⟩ := afterModifier?_eq_some_iff.mp isAfter
  obtain ⟨gap, isBehind, some, isGap, -⟩ := afterBlanks?_eq_some_iff.mp isNext
  obtain ⟨blank, others, rfl⟩ := List.exists_cons_of_ne_nil some
  have isBlank := isGap blank List.mem_cons_self
  have isName := proper.takeWhile_named ('\n' :: rest)
  rw [whole] at isName
  rw [named_append] at whole
  obtain ⟨first, _, opens, -, notBlank⟩ :=
    header.exists_first (header.closing ++ '\n' :: rest)
  cases isModifier with
  | @word word known =>
    -- The modifier is the name, and no blank follows the name.
    rw [isBehind, List.takeWhile_append_of_pos (isWordChar_of_known known), List.cons_append,
      List.takeWhile_cons_of_neg (ne_true_of_eq_false (Text.isWordChar_of_isBlank isBlank)),
      List.append_nil] at isName
    rw [← isName, isBehind, List.cons_append, opens] at whole
    obtain ⟨rfl, -⟩ := List.cons.inj (List.append_cancel_left whole)
    rw [isBlank] at notBlank
    cases notBlank
  | @withScope scope nonempty areSmall =>
    -- The name is `public`, and the scope stands in front of its arguments.
    have areWord := @isWordChar_of_known "public" (by decide)
    rw [List.append_assoc, List.takeWhile_append_of_pos areWord, List.cons_append,
      List.takeWhile_cons_of_neg (by decide), List.append_nil] at isName
    rw [← isName, List.append_assoc] at whole
    have behindName := List.append_cancel_left whole
    unfold bracketed at behindName
    cases hasGenerics : header.generics with
    | some inner =>
      rw [hasGenerics] at behindName
      obtain ⟨different, -⟩ := List.cons.inj behindName
      exact absurd different (by decide)
    | none =>
      rw [hasGenerics] at behindName
      obtain ⟨-, same⟩ := List.cons.inj behindName
      exact proper.not_scope isName.symm areSmall isNext (same.trans (by simp)) fuel

theorem unindentedHeader?_named (proper : header.IsProper) (fuel : Nat) (rest : List Char) :
    unindentedHeader? fuel (header.named ++ '\n' :: rest) = some (header.name, '\n' :: rest) := by
  cases fuel with
  | zero => exact proper.namedHeader?_named rest
  | succ fuel =>
    rw [unindentedHeader?, proper.bind_afterModifier?_named fuel rest]
    exact proper.namedHeader?_named rest

theorem beginsWord_named (proper : header.IsProper) (rest : List Char) :
    BeginsWord (header.named ++ rest) := by
  rw [named_append]
  exact (beginsWord_of_word proper.hasName proper.name).append _

end IsProper

end Header

theorem length_le_flatMap (modifiers : List (List Char)) :
    modifiers.length ≤ (modifiers.flatMap (· ++ [' '])).length := by
  induction modifiers with
  | nil => exact Nat.le_refl 0
  | cons modifier rest inductionHypothesis =>
    simp only [List.flatMap_cons, List.length_append, List.length_cons, List.length_nil]
    omega

theorem isBlank_of_isIndent {c : Char} (indent : isIndent c = true) : Text.isBlank c = true := by
  simp only [isIndent, Bool.or_eq_true, beq_iff_eq] at indent
  rcases indent with rfl | rfl <;> decide

theorem beginsWord_modifiers {modifiers : List (List Char)}
    (areModifiers : ∀ modifier ∈ modifiers, IsModifier modifier) {text : List Char}
    (begins : BeginsWord text) : BeginsWord (modifiers.flatMap (· ++ [' ']) ++ text) := by
  cases modifiers with
  | nil => exact begins
  | cons modifier rest =>
    have isModifier := areModifiers modifier List.mem_cons_self
    rw [List.flatMap_cons, List.append_assoc, List.append_assoc]
    exact isModifier.beginsWord.append _

theorem afterBlanks?_of_beginsWord {text : List Char} (begins : BeginsWord text) :
    afterBlanks? (' ' :: text) = some text := by
  obtain ⟨first, rest, rfl, isWord⟩ := begins
  have notBlank : Text.isBlank first = false := eq_false_of_ne_true fun blank => by
    rw [Text.isWordChar_of_isBlank blank] at isWord
    cases isWord
  exact congrArg some (Text.trimStart_cons notBlank rest)

/-- Modifiers in front of a header are passed over. -/
theorem unindentedHeader?_modifiers {modifiers : List (List Char)}
    (areModifiers : ∀ modifier ∈ modifiers, IsModifier modifier) {text : List Char}
    (begins : BeginsWord text) {found : List Char × List Char}
    (isFound : ∀ fuel, unindentedHeader? fuel text = some found) {fuel : Nat}
    (enough : modifiers.length ≤ fuel) :
    unindentedHeader? fuel (modifiers.flatMap (· ++ [' ']) ++ text) = some found := by
  induction modifiers generalizing fuel with
  | nil => exact isFound fuel
  | cons modifier rest inductionHypothesis =>
    obtain ⟨isModifier, others⟩ := List.forall_mem_cons.mp areModifiers
    cases fuel with
    | zero => exact absurd enough (Nat.not_succ_le_zero _)
    | succ fuel =>
      have whole : (modifier :: rest).flatMap (· ++ [' ']) ++ text =
          modifier ++ ' ' :: (rest.flatMap (· ++ [' ']) ++ text) := by
        simp
      have passed := afterModifier?_eq_some_iff.mpr ⟨modifier, _, isModifier, rfl,
        afterBlanks?_of_beginsWord (beginsWord_modifiers others begins)⟩
      rw [whole, unindentedHeader?, passed, Option.bind_some,
        inductionHypothesis others (Nat.le_of_succ_le_succ enough)]

/-- The header of a function is recognised at the start of its line. -/
theorem Header.IsProper.headerAt?_text {header : Header} (proper : header.IsProper)
    (rest : List Char) :
    headerAt? (header.text ++ '\n' :: rest) =
      some ((header.name, header.text ++ '\n' :: rest), '\n' :: rest) := by
  have enough : header.modifiers.length ≤ (header.text ++ '\n' :: rest).length := by
    have counted := length_le_flatMap header.modifiers
    simp only [text, List.length_append]
    omega
  have isFound := unindentedHeader?_modifiers proper.modifiers
    (proper.beginsWord_named ('\n' :: rest)) (fun fuel => proper.unindentedHeader?_named fuel rest)
    enough
  obtain ⟨first, others, begins, isWord⟩ :=
    beginsWord_modifiers proper.modifiers (proper.beginsWord_named ('\n' :: rest))
  have notIndent : ¬ isIndent first = true := fun indent => by
    rw [Text.isWordChar_of_isBlank (isBlank_of_isIndent indent)] at isWord
    cases isWord
  have whole : header.text ++ '\n' :: rest = header.indentation ++
      (header.modifiers.flatMap (· ++ [' ']) ++ (header.named ++ '\n' :: rest)) := by
    simp [text]
  have unindented : (header.text ++ '\n' :: rest).dropWhile isIndent =
      header.modifiers.flatMap (· ++ [' ']) ++ (header.named ++ '\n' :: rest) := by
    rw [whole, List.dropWhile_append_of_pos proper.indentation, begins,
      List.dropWhile_cons_of_neg notIndent]
  rw [headerAt?, unindented, isFound]
  rfl

end MoveAudit.Listing
