/-
This file says what the recogniser of headers looks at in front of the parenthesis of one. That is
modifiers, a name, and perhaps type parameters, with blanks between them that may go over line ends.
So there stands a word in front, and no brace and no semicolon, save between angle brackets on one
line; and the line of the parenthesis has to end in a brace.
-/

import MoveAudit.Listing.Basic
import MoveAudit.Proofs.Listing.Import
import MoveAudit.Proofs.Text.Search

namespace MoveAudit.Listing

/-! ### Modifiers -/

/-- A letter from a to z. -/
def isSmall (c : Char) : Bool :=
  'a'.toNat ≤ c.toNat && c.toNat ≤ 'z'.toNat

/-- A modifier: a word, or `public` with small letters in parentheses. -/
inductive IsModifier : List Char → Prop
  | word {word : String} (known : word ∈ ["public", "entry", "native", "fun"]) :
    IsModifier word.toList
  | withScope {scope : List Char} (nonempty : scope ≠ [])
    (areSmall : ∀ c ∈ scope, isSmall c = true) :
    IsModifier ("public".toList ++ '(' :: (scope ++ [')']))

theorem afterScope?_eq_some_iff {text rest : List Char} :
    afterScope? text = some rest ↔
      ∃ scope, text = '(' :: (scope ++ ')' :: rest) ∧ scope ≠ [] ∧
        ∀ c ∈ scope, isSmall c = true := by
  constructor
  · intro found
    unfold afterScope? at found
    split at found
    · next inner =>
      change (if (inner.takeWhile isSmall).isEmpty = true then none
        else Text.after? [')'] (inner.dropWhile isSmall)) = some rest at found
      split at found
      · cases found
      · next nonempty =>
        have closes := Text.after?_eq_some_iff.mp found
        rw [List.singleton_append] at closes
        refine ⟨inner.takeWhile isSmall, ?_, fun none => nonempty (List.isEmpty_iff.mpr none),
          fun c member => List.mem_takeWhile_imp member⟩
        rw [← closes, List.takeWhile_append_dropWhile]
    · cases found
  · rintro ⟨scope, rfl, nonempty, areSmall⟩
    have notSmall : ¬ isSmall ')' = true := by decide
    show (if ((scope ++ ')' :: rest).takeWhile isSmall).isEmpty = true then none
      else Text.after? [')'] ((scope ++ ')' :: rest).dropWhile isSmall)) = _
    rw [List.takeWhile_append_of_pos areSmall, List.dropWhile_append_of_pos areSmall,
      List.takeWhile_cons_of_neg notSmall, List.dropWhile_cons_of_neg notSmall, List.append_nil,
      if_neg fun none => nonempty (List.isEmpty_iff.mp none)]
    rfl

/-- A modifier is recognised by itself and the blanks behind it. -/
theorem afterModifier?_eq_some_iff {text target : List Char} :
    afterModifier? text = some target ↔
      ∃ modifier rest, IsModifier modifier ∧ text = modifier ++ rest ∧
        afterBlanks? rest = some target := by
  constructor
  · intro found
    unfold afterModifier? at found
    split at found
    · next rest isPublic =>
      rw [Text.after?_eq_some_iff] at isPublic
      cases inScope : afterScope? rest with
      | none =>
        rw [inScope] at found
        exact ⟨_, rest, .word (by decide), isPublic, found⟩
      | some behind =>
        rw [inScope] at found
        obtain ⟨scope, rfl, nonempty, areSmall⟩ := afterScope?_eq_some_iff.mp inScope
        exact ⟨_, behind, .withScope nonempty areSmall, by simp [isPublic], found⟩
    · obtain ⟨rest, isWord, found⟩ := Option.bind_eq_some_iff.mp found
      obtain ⟨word, known, isAfter⟩ := List.exists_of_findSome?_eq_some isWord
      exact ⟨_, rest, .word (List.mem_cons_of_mem _ known), Text.after?_eq_some_iff.mp isAfter,
        found⟩
  · rintro ⟨modifier, rest, isModifier, rfl, found⟩
    have noScope : afterScope? rest = none := by
      rw [Option.eq_none_iff_forall_ne_some]
      intro behind inScope
      obtain ⟨scope, rfl, -⟩ := afterScope?_eq_some_iff.mp inScope
      cases found
    unfold afterModifier?
    cases isModifier with
    | @withScope scope nonempty areSmall =>
      have closes : afterScope? ('(' :: (scope ++ [')']) ++ rest) = some rest :=
        afterScope?_eq_some_iff.mpr ⟨scope, by simp, nonempty, areSmall⟩
      rw [List.append_assoc, Text.after?_append]
      dsimp only
      rw [closes]
      exact found
    | word known =>
      simp only [List.mem_cons, List.not_mem_nil, or_false] at known
      rcases known with rfl | rfl | rfl | rfl
      · rw [Text.after?_append]
        dsimp only
        rw [noScope]
        exact found
      · exact found
      · exact found
      · exact found

theorem isWordChar_of_known {word : String} (known : word ∈ ["public", "entry", "native", "fun"]) :
    ∀ c ∈ word.toList, Text.isWordChar c = true := by
  have all : ["public", "entry", "native", "fun"].all
      (fun word => word.toList.all Text.isWordChar) = true := by decide
  exact List.all_eq_true.mp (List.all_eq_true.mp all word known)

/-! ### What stands in front of a parenthesis -/

/-- A text begins with a word. -/
def BeginsWord (text : List Char) : Prop :=
  ∃ first rest, text = first :: rest ∧ Text.isWordChar first = true

theorem BeginsWord.append {text : List Char} (begins : BeginsWord text) (rest : List Char) :
    BeginsWord (text ++ rest) := by
  obtain ⟨first, others, rfl, isWord⟩ := begins
  exact ⟨first, others ++ rest, rfl, isWord⟩

theorem beginsWord_of_word {word : List Char} (nonempty : word ≠ [])
    (isWord : ∀ c ∈ word, Text.isWordChar c = true) : BeginsWord word := by
  obtain ⟨first, others, rfl⟩ := List.exists_cons_of_ne_nil nonempty
  exact ⟨first, others, rfl, isWord first List.mem_cons_self⟩

theorem IsModifier.beginsWord {modifier : List Char} (isModifier : IsModifier modifier) :
    BeginsWord modifier := by
  cases isModifier with
  | word known =>
    refine beginsWord_of_word ?_ (isWordChar_of_known known)
    rintro none
    rw [String.toList_eq_nil_iff] at none
    subst none
    revert known
    decide
  | withScope nonempty areSmall =>
    exact (beginsWord_of_word (by decide) (@isWordChar_of_known "public" (by decide))).append _

/-- A brace or a semicolon. -/
def isBar (c : Char) : Bool :=
  c == '\x7b' || c == '\x7d' || c == ';'

/-- Behind each brace and each semicolon an angle bracket closes on the same line. -/
def Unbarred (text : List Char) : Prop :=
  ∀ before c after, text = before ++ c :: after → isBar c = true →
    '>' ∈ after.takeWhile (· != '\n')

/-- No character of a kind that braces and semicolons are not of is one. -/
theorem isBar_of_kind {kind : Char → Bool}
    (none : kind '\x7b' = false ∧ kind '\x7d' = false ∧ kind ';' = false) {c : Char}
    (isKind : kind c = true) : isBar c = false := by
  refine eq_false_of_ne_true fun bar => ?_
  have isOne : c = '\x7b' ∨ c = '\x7d' ∨ c = ';' := by
    simpa [isBar, or_assoc] using bar
  rcases isOne with rfl | rfl | rfl
  · exact Bool.noConfusion (isKind.symm.trans none.1)
  · exact Bool.noConfusion (isKind.symm.trans none.2.1)
  · exact Bool.noConfusion (isKind.symm.trans none.2.2)

theorem isBar_of_isWordChar {c : Char} : Text.isWordChar c = true → isBar c = false :=
  isBar_of_kind (by decide)

theorem isBar_of_isBlank {c : Char} : Text.isBlank c = true → isBar c = false :=
  isBar_of_kind (by decide)

theorem IsModifier.isBar_eq_false {modifier : List Char} (isModifier : IsModifier modifier)
    {c : Char} (member : c ∈ modifier) : isBar c = false := by
  cases isModifier with
  | word known => exact isBar_of_isWordChar (isWordChar_of_known known c member)
  | withScope nonempty areSmall =>
    simp only [List.mem_append, List.mem_cons, List.not_mem_nil, or_false] at member
    rcases member with isPublic | rfl | isScope | rfl
    · exact isBar_of_isWordChar (@isWordChar_of_known "public" (by decide) c isPublic)
    · rfl
    · exact isBar_of_kind (by decide) (areSmall c isScope)
    · rfl

theorem Unbarred.append {first second : List Char} (none : ∀ c ∈ first, isBar c = false)
    (unbarred : Unbarred second) : Unbarred (first ++ second) := by
  intro before c after split bar
  rcases List.append_eq_append_iff.mp split with ⟨middle, -, isSecond⟩ | ⟨middle, isFirst, behind⟩
  · exact unbarred middle c after isSecond bar
  · cases middle with
    | nil => exact unbarred [] c after behind.symm bar
    | cons other middle =>
      obtain ⟨rfl, -⟩ := List.cons.inj behind
      rw [none c (isFirst ▸ List.mem_append_right _ List.mem_cons_self)] at bar
      cases bar

theorem unbarred_of_none {text : List Char} (none : ∀ c ∈ text, isBar c = false) :
    Unbarred text := by
  intro before c after split bar
  rw [none c (split ▸ List.mem_append_right _ List.mem_cons_self)] at bar
  cases bar

theorem unbarred_generics {inner behind : List Char} (oneLine : '\n' ∉ inner)
    (none : ∀ c ∈ behind, isBar c = false) : Unbarred ('<' :: (inner ++ '>' :: behind)) := by
  intro before c after split bar
  have absent : c ∉ '>' :: behind := by
    refine List.mem_cons.not.mpr (not_or.mpr ⟨?_, fun member => ?_⟩)
    · rintro rfl
      revert bar
      decide
    · rw [none c member] at bar
      cases bar
  obtain ⟨middle, isFront, rfl⟩ := exists_split_of_notMem absent
    (show ('<' :: inner) ++ '>' :: behind = before ++ c :: after from split)
  have oneLineToo : ∀ other ∈ middle, (other != '\n') = true := by
    intro other member
    refine bne_iff_ne.mpr fun isBreak => oneLine ?_
    have inFront : other ∈ '<' :: inner :=
      isFront ▸ List.mem_append_right _ (List.mem_cons_of_mem _ member)
    subst isBreak
    exact (List.mem_cons.mp inFront).resolve_left (by decide)
  rw [List.takeWhile_append_of_pos oneLineToo, List.takeWhile_cons_of_pos (by decide)]
  exact List.mem_append_right _ List.mem_cons_self

/-- What can stand between the indentation and the parenthesis of a header. -/
structure IsLead (lead : List Char) : Prop where
  begins : BeginsWord lead
  unbarred : Unbarred lead

/-! ### Names -/

theorem afterGenerics?_eq_some_iff {text rest : List Char} :
    afterGenerics? text = some rest ↔
      (∃ inner, text = '<' :: (inner ++ '>' :: rest) ∧ '>' ∉ inner ∧ '\n' ∉ inner) ∨
        text = rest ∧ ∀ inner, text ≠ '<' :: inner := by
  constructor
  · intro found
    unfold afterGenerics? at found
    split at found
    · next inner =>
      have closes := Text.after?_eq_some_iff.mp found
      have stands (c : Char) (member : c ∈ inner.takeWhile fun c => c != '>' && c != '\n') :
          c ≠ '>' ∧ c ≠ '\n' := by
        simpa using List.mem_takeWhile_imp member
      refine .inl ⟨inner.takeWhile fun c => c != '>' && c != '\n', ?_,
        fun member => (stands _ member).1 rfl, fun member => (stands _ member).2 rfl⟩
      rw [List.singleton_append] at closes
      rw [← closes, List.takeWhile_append_dropWhile]
    · next other => exact .inr ⟨Option.some.inj found, other⟩
  · rintro (⟨inner, rfl, unclosed, oneLine⟩ | ⟨rfl, other⟩)
    · have stands : ∀ c ∈ inner, (c != '>' && c != '\n') = true := fun c member => by
        refine Bool.and_eq_true_iff.mpr ⟨bne_iff_ne.mpr ?_, bne_iff_ne.mpr ?_⟩
        · rintro rfl
          exact unclosed member
        · rintro rfl
          exact oneLine member
      show Text.after? ['>'] ((inner ++ '>' :: rest).dropWhile _) = _
      rw [List.dropWhile_append_of_pos stands, List.dropWhile_cons_of_neg (by decide)]
      rfl
    · unfold afterGenerics?
      split
      · next inner => exact absurd rfl (other inner)
      · rfl

theorem namedHeader?_eq_some_iff {text name rest : List Char} :
    namedHeader? text = some (name, rest) ↔
      name = text.takeWhile Text.isWordChar ∧ name ≠ [] ∧ ∃ parenthesis arguments,
        afterGenerics? (Text.trimStart (text.dropWhile Text.isWordChar)) = some parenthesis ∧
        Text.trimStart parenthesis = '(' :: arguments ∧
        closesHeader (arguments.takeWhile (· != '\n')) = true ∧
        rest = arguments.dropWhile (· != '\n') := by
  unfold namedHeader?
  dsimp only
  split
  · next none =>
    refine iff_of_false nofun ?_
    rintro ⟨rfl, some, -⟩
    exact some (List.isEmpty_iff.mp none)
  · next nonempty =>
    rw [List.isEmpty_iff] at nonempty
    simp only [Option.bind_eq_bind, Option.bind_eq_some_iff, Text.after?_eq_some_iff,
      List.singleton_append]
    constructor
    · rintro ⟨parenthesis, isNext, arguments, opens, found⟩
      split at found
      · next closes =>
        cases found
        exact ⟨rfl, nonempty, parenthesis, arguments, isNext, opens, closes, rfl⟩
      · cases found
    · rintro ⟨rfl, -, parenthesis, arguments, isNext, opens, closes, rfl⟩
      exact ⟨parenthesis, isNext, arguments, opens, by rw [if_pos closes]⟩

/-- A name and what may stand between it and its parenthesis make up a lead. -/
theorem exists_lead_of_namedHeader? {text : List Char} {found : List Char × List Char}
    (isFound : namedHeader? text = some found) :
    ∃ lead tail, text = lead ++ '(' :: tail ∧ IsLead lead ∧
      closesHeader (tail.takeWhile (· != '\n')) = true := by
  obtain ⟨name, rest⟩ := found
  obtain ⟨isName, nonempty, parenthesis, arguments, isNext, opens, closes, -⟩ :=
    namedHeader?_eq_some_iff.mp isFound
  have areWord : ∀ c ∈ name, Text.isWordChar c = true := fun c member => by
    rw [isName] at member
    exact List.mem_takeWhile_imp member
  have noBar : ∀ c ∈ name, isBar c = false := fun c member => isBar_of_isWordChar (areWord c member)
  have blanksNoBar {gap : List Char} (blank : ∀ c ∈ gap, Text.isBlank c = true) :
      ∀ c ∈ gap, isBar c = false := fun c member => isBar_of_isBlank (blank c member)
  have whole : text = name ++ text.dropWhile Text.isWordChar := by
    rw [isName, List.takeWhile_append_dropWhile]
  have begins := (beginsWord_of_word nonempty areWord).append
  obtain ⟨gap, behindName, isGap⟩ := Text.exists_gap (text.dropWhile Text.isWordChar)
  obtain ⟨gapToo, behindGenerics, isGapToo⟩ := Text.exists_gap parenthesis
  rw [opens] at behindGenerics
  rcases afterGenerics?_eq_some_iff.mp isNext with ⟨inner, isInner, -, oneLine⟩ | ⟨same, -⟩
  · refine ⟨name ++ (gap ++ '<' :: (inner ++ '>' :: gapToo)), arguments, ?_, ⟨begins _, ?_⟩,
      closes⟩
    · rw [whole, behindName, isInner, behindGenerics]
      simp
    · exact (((unbarred_generics oneLine (blanksNoBar isGapToo)).append (blanksNoBar isGap)).append
        noBar)
  · refine ⟨name ++ (gap ++ gapToo), arguments, ?_, ⟨begins _, ?_⟩, closes⟩
    · rw [whole, behindName, same, behindGenerics]
      simp
    · exact (((unbarred_of_none (blanksNoBar isGapToo)).append (blanksNoBar isGap)).append noBar)

/-- So do modifiers with the blanks behind them and a lead. -/
theorem exists_lead_of_unindentedHeader? {fuel : Nat} {text : List Char}
    {found : List Char × List Char} (isFound : unindentedHeader? fuel text = some found) :
    ∃ lead tail, text = lead ++ '(' :: tail ∧ IsLead lead ∧
      closesHeader (tail.takeWhile (· != '\n')) = true := by
  induction fuel generalizing text found with
  | zero => exact exists_lead_of_namedHeader? isFound
  | succ fuel inductionHypothesis =>
    unfold unindentedHeader? at isFound
    split at isFound
    · next isModified =>
      obtain ⟨target, isAfter, isFound⟩ := Option.bind_eq_some_iff.mp isModified
      obtain ⟨modifier, rest, isModifier, rfl, isNext⟩ := afterModifier?_eq_some_iff.mp isAfter
      obtain ⟨gap, rfl, -, isGap, -⟩ := afterBlanks?_eq_some_iff.mp isNext
      obtain ⟨lead, tail, rfl, isLead, closes⟩ := inductionHypothesis isFound
      refine ⟨modifier ++ (gap ++ lead), tail, by simp, ⟨isModifier.beginsWord.append _, ?_⟩,
        closes⟩
      exact (isLead.unbarred.append fun c member => isBar_of_isBlank (isGap c member)).append
        fun c member => isModifier.isBar_eq_false member
    · exact exists_lead_of_namedHeader? isFound

/-- What is recognised at the start of a text has an indentation and a lead in front of its
parenthesis. -/
theorem exists_lead_of_headerAt? {text : List Char} (isFound : (headerAt? text).isSome = true) :
    ∃ indentation lead tail, text = indentation ++ (lead ++ '(' :: tail) ∧
      (∀ c ∈ indentation, isIndent c = true) ∧ IsLead lead ∧
      closesHeader (tail.takeWhile (· != '\n')) = true := by
  rw [headerAt?, Option.isSome_map] at isFound
  obtain ⟨found, isFound⟩ := Option.isSome_iff_exists.mp isFound
  obtain ⟨lead, tail, isText, isLead, closes⟩ := exists_lead_of_unindentedHeader? isFound
  refine ⟨text.takeWhile isIndent, lead, tail, ?_, fun c member => List.mem_takeWhile_imp member,
    isLead, closes⟩
  rw [← isText, List.takeWhile_append_dropWhile]

theorem unindentedHeader?_eq_none {first : Char} (notWord : Text.isWordChar first = false)
    (fuel : Nat) (rest : List Char) : unindentedHeader? fuel (first :: rest) = none := by
  refine Option.eq_none_iff_forall_ne_some.mpr fun found isFound => ?_
  obtain ⟨lead, tail, isText, isLead, -⟩ := exists_lead_of_unindentedHeader? isFound
  obtain ⟨_, _, rfl, isWord⟩ := isLead.begins
  cases isText
  rw [notWord] at isWord
  cases isWord

end MoveAudit.Listing
