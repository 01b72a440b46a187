/-
This file says which addresses are found in the import lines of a disassembly: that of every line
that has one. An import line is blanks, a word, blanks, and an address that ends in two colons. Lines
are looked at from the first one on, and what an import has taken is not looked at again. That loses
no line: what begins in the middle of an import begins among its blanks, so it names the same address
or, behind the word, none.
-/

import MoveAudit.Listing.Basic
import MoveAudit.Proofs.Text.Blank

namespace MoveAudit.Listing

/-- What an import line is made of. -/
structure Import where
  /-- The blanks in front. -/
  lead : List Char
  /-- The blanks behind the word. -/
  gap : List Char
  /-- What is written in front of the digits. -/
  mark : List Char
  digits : List Char

namespace Import

/-- The address and its colons. -/
def target (line : Import) : List Char :=
  line.mark ++ (line.digits ++ [':', ':'])

/-- The text of an import. -/
def text (line : Import) : List Char :=
  line.lead ++ ('u' :: 's' :: 'e' :: (line.gap ++ line.target))

/-- The parts are what they are to be. -/
structure IsProper (line : Import) : Prop where
  lead : ∀ c ∈ line.lead, Text.isBlank c = true
  gap : ∀ c ∈ line.gap, Text.isBlank c = true
  hasGap : line.gap ≠ []
  mark : line.mark = [] ∨ line.mark = ['0', 'x']
  digits : ∀ c ∈ line.digits, isHexDigit c = true
  hasDigits : line.digits ≠ []

end Import

/-! ### Digits -/

theorem bounds_of_isHexDigit {c : Char} (isDigit : isHexDigit c = true) :
    48 ≤ c.toNat ∧ c.toNat ≤ 57 ∨ 97 ≤ c.toNat ∧ c.toNat ≤ 102 ∨ 65 ≤ c.toNat ∧ c.toNat ≤ 70 := by
  simp only [isHexDigit, Char.isDigit, Bool.or_eq_true, Bool.and_eq_true,
    decide_eq_true_eq] at isDigit
  rcases isDigit with (⟨low, high⟩ | small) | capital
  · exact .inl ⟨UInt32.le_iff_toNat_le.mp low, UInt32.le_iff_toNat_le.mp high⟩
  · exact .inr (.inl small)
  · exact .inr (.inr capital)

theorem isBlank_of_isHexDigit {c : Char} (isDigit : isHexDigit c = true) :
    Text.isBlank c = false := by
  have bounds := bounds_of_isHexDigit isDigit
  refine eq_false_of_ne_true fun blank => ?_
  simp only [Text.isBlank, Bool.or_eq_true, Bool.and_eq_true, decide_eq_true_eq, beq_iff_eq] at blank
  omega

theorem ne_of_isHexDigit {c other : Char} (isDigit : isHexDigit c = true)
    (isNone : isHexDigit other = false) : c ≠ other := by
  rintro rfl
  rw [isDigit] at isNone
  cases isNone

/-- Blanks in front are passed over. -/
theorem trimStart_of_blanks {blanks : List Char} (areBlank : ∀ c ∈ blanks, Text.isBlank c = true)
    {first : Char} (notBlank : Text.isBlank first = false) (rest : List Char) :
    Text.trimStart (blanks ++ first :: rest) = first :: rest := by
  rw [Text.trimStart, List.dropWhile_append_of_pos areBlank]
  exact Text.trimStart_cons notBlank rest

/-- Digits are told from the colons behind them. -/
theorem addressDigits?_eq_some_iff {text digits rest : List Char} :
    addressDigits? text = some (digits, rest) ↔
      text = digits ++ ([':', ':'] ++ rest) ∧ digits ≠ [] ∧ ∀ c ∈ digits, isHexDigit c = true := by
  unfold addressDigits?
  dsimp only
  constructor
  · intro found
    split at found
    · cases found
    · next some =>
      obtain ⟨rest, isAfter, pair⟩ := Option.map_eq_some_iff.mp found
      cases pair
      refine ⟨?_, fun none => some (List.isEmpty_iff.mpr none), fun c member =>
        List.mem_takeWhile_imp member⟩
      rw [← Text.after?_eq_some_iff.mp isAfter, List.takeWhile_append_dropWhile]
  · rintro ⟨rfl, some, areDigits⟩
    rw [List.takeWhile_append_of_pos areDigits, List.dropWhile_append_of_pos areDigits]
    have noColon : isHexDigit ':' = false := by decide
    rw [List.cons_append, List.takeWhile_cons_of_neg (ne_true_of_eq_false noColon),
      List.dropWhile_cons_of_neg (ne_true_of_eq_false noColon), List.append_nil,
      if_neg fun none => some (List.isEmpty_iff.mp none)]
    rfl

theorem afterBlanks?_eq_some_iff {text target : List Char} :
    afterBlanks? text = some target ↔
      ∃ gap, text = gap ++ target ∧ gap ≠ [] ∧ (∀ c ∈ gap, Text.isBlank c = true) ∧
        Text.trimStart target = target := by
  constructor
  · intro found
    cases text with
    | nil => cases found
    | cons first rest =>
      unfold afterBlanks? at found
      dsimp only at found
      split at found
      · next blank =>
        cases found
        refine ⟨first :: rest.takeWhile Text.isBlank, ?_, List.cons_ne_nil _ _,
          List.forall_mem_cons.mpr ⟨blank, fun c member => List.mem_takeWhile_imp member⟩,
          List.dropWhile_idempotent Text.isBlank rest⟩
        rw [List.cons_append, Text.trimStart, List.takeWhile_append_dropWhile]
      · cases found
  · rintro ⟨gap, rfl, some, areBlank, starts⟩
    cases gap with
    | nil => exact absurd rfl some
    | cons first rest =>
      obtain ⟨blank, others⟩ := List.forall_mem_cons.mp areBlank
      rw [List.cons_append, afterBlanks?, if_pos blank, Text.trimStart,
        List.dropWhile_append_of_pos others]
      exact congrArg Option.some starts

/-- An address is found with or without `0x` in front. -/
theorem targetDigits?_eq_some_iff {target digits rest : List Char} :
    (match (Text.after? ['0', 'x'] target).bind addressDigits? with
      | some found => some found
      | none => addressDigits? target) = some (digits, rest) ↔
      ∃ mark, (mark = [] ∨ mark = ['0', 'x']) ∧ target = mark ++ (digits ++ ([':', ':'] ++ rest)) ∧
        digits ≠ [] ∧ ∀ c ∈ digits, isHexDigit c = true := by
  constructor
  · intro found
    split at found
    · next marked =>
      cases found
      obtain ⟨unmarked, isAfter, found⟩ := Option.bind_eq_some_iff.mp marked
      obtain ⟨rfl, parts⟩ := addressDigits?_eq_some_iff.mp found
      exact ⟨['0', 'x'], .inr rfl, Text.after?_eq_some_iff.mp isAfter, parts⟩
    · exact ⟨[], .inl rfl, addressDigits?_eq_some_iff.mp found⟩
  · rintro ⟨mark, rfl | rfl, rfl, parts⟩
    · have unmarked : (Text.after? ['0', 'x'] (digits ++ ([':', ':'] ++ rest))).bind
          addressDigits? = none := by
        refine Option.bind_eq_none_iff.mpr fun after isAfter => ?_
        have whole := Text.after?_eq_some_iff.mp isAfter
        have noMark : isHexDigit 'x' = false := by decide
        obtain ⟨some, areDigits⟩ := parts
        rcases digits with _ | ⟨first, _ | ⟨second, others⟩⟩
        · exact absurd rfl some
        · obtain ⟨-, isColon⟩ := List.cons.inj whole
          cases isColon
        · obtain ⟨-, rest⟩ := List.cons.inj whole
          obtain ⟨isMark, -⟩ := List.cons.inj rest
          exact absurd isMark (ne_of_isHexDigit (areDigits second (by simp)) noMark)
      rw [List.nil_append, unmarked]
      exact addressDigits?_eq_some_iff.mpr ⟨rfl, parts⟩
    · rw [Text.after?_eq_some_iff.mpr rfl, Option.bind_some,
        addressDigits?_eq_some_iff.mpr ⟨rfl, parts⟩]

/-! ### One import -/

theorem Import.IsProper.exists_first {line : Import} (proper : line.IsProper) (rest : List Char) :
    ∃ first others, line.target ++ rest = first :: others ∧ isHexDigit first = true := by
  unfold target
  rcases proper.mark with marked | marked
  · obtain ⟨first, others, isFirst⟩ := List.exists_cons_of_ne_nil proper.hasDigits
    rw [marked, isFirst]
    exact ⟨first, _, rfl, proper.digits first (isFirst ▸ List.mem_cons_self)⟩
  · rw [marked]
    exact ⟨'0', _, rfl, by decide⟩

/-- What is recognised at the start of a text is an import that stands there. -/
theorem importAt?_eq_some_iff {text digits rest : List Char} :
    importAt? text = some (digits, rest) ↔
      ∃ line : Import, line.IsProper ∧ line.digits = digits ∧ text = line.text ++ rest := by
  have same : importAt? text = (Text.after? ['u', 's', 'e'] (Text.trimStart text)).bind
      fun afterWord => (afterBlanks? afterWord).bind fun target =>
        match (Text.after? ['0', 'x'] target).bind addressDigits? with
        | some found => some found
        | none => addressDigits? target := rfl
  rw [same]
  simp only [Option.bind_eq_some_iff, Text.after?_eq_some_iff, afterBlanks?_eq_some_iff,
    targetDigits?_eq_some_iff]
  constructor
  · rintro ⟨_, starts, _, ⟨gap, rfl, hasGap, isGap, -⟩, mark, marked, rfl, some, areDigits⟩
    have isLead : ∀ c ∈ text.takeWhile Text.isBlank, Text.isBlank c = true :=
      fun c member => List.mem_takeWhile_imp member
    have whole := @List.takeWhile_append_dropWhile _ Text.isBlank text
    rw [show text.dropWhile Text.isBlank = _ from starts] at whole
    generalize text.takeWhile Text.isBlank = lead at isLead whole
    refine ⟨⟨lead, gap, mark, digits⟩, ⟨isLead, isGap, hasGap, marked, areDigits, some⟩, rfl, ?_⟩
    rw [← whole]
    simp [Import.text, Import.target]
  · rintro ⟨line, proper, rfl, rfl⟩
    obtain ⟨first, others, target, isDigit⟩ := proper.exists_first rest
    refine ⟨line.gap ++ (line.target ++ rest), ?_, line.target ++ rest,
      ⟨line.gap, rfl, proper.hasGap, proper.gap, ?_⟩, line.mark, proper.mark, ?_,
      proper.hasDigits, proper.digits⟩
    · have notBlank : Text.isBlank 'u' = false := by decide
      rw [Import.text, List.append_assoc, List.cons_append, trimStart_of_blanks proper.lead notBlank]
      simp
    · rw [target]
      exact Text.trimStart_cons (isBlank_of_isHexDigit isDigit) others
    · simp [Import.target]

/-- Where one import begins there begins no other one. -/
theorem Import.IsProper.digits_eq {line other : Import} (proper : line.IsProper)
    (otherProper : other.IsProper) {rest after : List Char}
    (same : line.text ++ rest = other.text ++ after) : line.digits = other.digits := by
  have found : importAt? (line.text ++ rest) = some (line.digits, rest) :=
    importAt?_eq_some_iff.mpr ⟨line, proper, rfl, rfl⟩
  rw [importAt?_eq_some_iff.mpr ⟨other, otherProper, rfl, same⟩] at found
  exact (Prod.mk.inj (Option.some.inj found)).1.symm

/-! ### Lines that begin in the middle of an import -/

theorem exists_split_of_notMem {c : Char} {left right before after : List Char}
    (absent : c ∉ right) (split : left ++ right = before ++ c :: after) :
    ∃ middle, left = before ++ c :: middle ∧ after = middle ++ right := by
  rcases List.append_eq_append_iff.mp split with ⟨middle, -, isRight⟩ | ⟨middle, isLeft, isRest⟩
  · exact absurd (isRight ▸ List.mem_append_right _ List.mem_cons_self) absent
  · cases middle with
    | nil => exact absurd ((isRest.trans (List.nil_append _)) ▸ List.mem_cons_self) absent
    | cons first middle =>
      obtain ⟨rfl, rfl⟩ := List.cons.inj isRest
      exact ⟨middle, isLeft, rfl⟩

theorem Import.IsProper.lineBreak_notMem {line : Import} (proper : line.IsProper) :
    '\n' ∉ line.target := by
  have noDigit : isHexDigit '\n' = false := by decide
  intro member
  rcases List.mem_append.mp member with isMark | isRest
  · rcases proper.mark with marked | marked <;> rw [marked] at isMark <;> revert isMark <;> decide
  · rcases List.mem_append.mp isRest with isDigit | isColon
    · exact ne_of_isHexDigit (proper.digits _ isDigit) noDigit rfl
    · revert isColon
      decide

/-- What follows a line break in the middle of an import is the same import with fewer blanks, or it
begins among the blanks behind the word. -/
theorem Import.IsProper.split_cases {line : Import} (proper : line.IsProper)
    {before after : List Char} (split : line.text = before ++ '\n' :: after) :
    (∃ lead, after = { line with lead }.text ∧ { line with lead }.IsProper) ∨
      ∃ gap, (∀ c ∈ gap, Text.isBlank c = true) ∧ after = gap ++ line.target := by
  have whole : (line.lead ++ ('u' :: 's' :: 'e' :: line.gap)) ++ line.target =
      before ++ '\n' :: after := by
    rw [← split]
    simp [text]
  obtain ⟨middle, isFront, rfl⟩ := exists_split_of_notMem proper.lineBreak_notMem whole
  rcases List.append_eq_append_iff.mp isFront with ⟨word, -, behind⟩ | ⟨lead, isLead, inLead⟩
  · right
    rcases word with _ | ⟨_, _ | ⟨_, _ | ⟨_, word⟩⟩⟩ <;>
      simp only [List.nil_append, List.cons_append, List.cons.injEq] at behind
    · exact absurd behind.1 (by decide)
    · exact absurd behind.2.1 (by decide)
    · exact absurd behind.2.2.1 (by decide)
    · refine ⟨middle, fun c member => proper.gap c ?_, rfl⟩
      rw [behind.2.2.2]
      exact List.mem_append_right _ (List.mem_cons_of_mem _ member)
  · left
    rcases lead with _ | ⟨_, lead⟩ <;> cases inLead
    refine ⟨lead, by simp [text, target], { proper with lead := fun c member => proper.lead c ?_ }⟩
    rw [isLead]
    exact List.mem_append_right _ (List.mem_cons_of_mem _ member)

/-- No import begins among the blanks in front of the address of another one. -/
theorem Import.IsProper.not_behind_word {line other : Import} (proper : line.IsProper)
    (otherProper : other.IsProper) {gap rest after : List Char}
    (areBlank : ∀ c ∈ gap, Text.isBlank c = true) :
    line.text ++ rest ≠ gap ++ (other.target ++ after) := by
  intro same
  obtain ⟨first, others, target, isDigit⟩ := otherProper.exists_first after
  have behind := trimStart_of_blanks areBlank (isBlank_of_isHexDigit isDigit) others
  have notBlank : Text.isBlank 'u' = false := by decide
  rw [← target, ← same, text, List.append_assoc, List.cons_append,
    trimStart_of_blanks proper.lead notBlank, target] at behind
  exact ne_of_isHexDigit isDigit (by decide) (List.cons.inj behind).1.symm

/-! ### All imports of a text -/

/-- A text ends where a line begins. -/
def BeginsLine (before : List Char) : Prop :=
  before = [] ∨ ∃ earlier, before = earlier ++ ['\n']

/-- Of two imports that are found in one text from the start and after a line break, the second has
the digits of the first, or it stands in what the first has left. -/
theorem Import.IsProper.later_cases {line other : Import} (proper : line.IsProper)
    (otherProper : other.IsProper) {earlier rest after : List Char}
    (same : other.text ++ after = earlier ++ '\n' :: (line.text ++ rest)) :
    line.digits = other.digits ∨
      ∃ between, after = between ++ '\n' :: (line.text ++ rest) := by
  rcases List.append_eq_append_iff.mp same with ⟨between, -, isAfter⟩ | ⟨inside, isText, behind⟩
  · exact .inr ⟨between, isAfter⟩
  · cases inside with
    | nil => exact .inr ⟨[], behind.symm⟩
    | cons first inside =>
      rw [List.cons_append] at behind
      obtain ⟨rfl, follows⟩ := List.cons.inj behind
      rcases otherProper.split_cases isText with ⟨lead, rfl, fewer⟩ | ⟨gap, areBlank, rfl⟩
      · exact .inl (@digits_eq line { other with lead } proper fewer _ _ follows)
      · rw [List.append_assoc] at follows
        exact absurd follows (proper.not_behind_word otherProper areBlank)

/-- Every line that begins an import is found, by induction on what is left to look at. -/
theorem Import.IsProper.mem_scanLines {line : Import} (proper : line.IsProper) {fuel : Nat}
    {atStart : Bool} {before text rest : List Char} (whole : text = before ++ (line.text ++ rest))
    (enough : text.length < fuel)
    (begins : before = [] ∧ atStart = true ∨ ∃ earlier, before = earlier ++ ['\n']) :
    line.digits ∈ scanLines importAt? fuel atStart text := by
  induction fuel generalizing atStart before text with
  | zero => exact absurd enough (Nat.not_lt_zero _)
  | succ fuel inductionHypothesis =>
    unfold scanLines
    dsimp only
    split
    · next digits after found =>
      split at found
      · obtain ⟨other, otherProper, rfl, isText⟩ := importAt?_eq_some_iff.mp found
        rw [List.mem_cons]
        rcases begins with ⟨rfl, -⟩ | ⟨earlier, rfl⟩
        · exact .inl (proper.digits_eq otherProper (whole.symm.trans isText))
        · rw [List.append_assoc, List.singleton_append] at whole
          refine (proper.later_cases otherProper (isText.symm.trans whole)).imp_right ?_
          rintro ⟨between, rfl⟩
          refine @inductionHypothesis _ (between ++ ['\n']) _ (by simp) ?_ (.inr ⟨between, rfl⟩)
          rw [isText, List.length_append] at enough
          have some : 0 < other.text.length := List.length_pos_of_ne_nil (by simp [Import.text])
          omega
      · cases found
    · next notFound =>
      rcases begins with ⟨rfl, rfl⟩ | ⟨earlier, rfl⟩
      · rw [if_pos rfl, importAt?_eq_some_iff.mpr ⟨line, proper, rfl, whole⟩] at notFound
        cases notFound
      · cases earlier with
        | nil =>
          subst whole
          exact inductionHypothesis rfl (Nat.lt_of_succ_lt_succ enough) (.inl ⟨rfl, rfl⟩)
        | cons first earlier =>
          subst whole
          exact inductionHypothesis rfl (Nat.lt_of_succ_lt_succ enough) (.inr ⟨earlier, rfl⟩)

/-- The address of every line that begins an import is found. -/
theorem Import.IsProper.mem_imports {line : Import} (proper : line.IsProper) {code : String}
    {before rest : List Char} (begins : BeginsLine before)
    (whole : code.toList = before ++ (line.text ++ rest)) :
    String.ofList ('0' :: 'x' :: line.digits) ∈ imports code := by
  refine List.mem_map.mpr ⟨line.digits, proper.mem_scanLines whole (by omega) ?_, rfl⟩
  exact begins.imp_left fun none => ⟨none, rfl⟩

end MoveAudit.Listing
