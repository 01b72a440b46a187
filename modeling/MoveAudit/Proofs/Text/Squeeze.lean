/-
This file says what squeezing the blanks of a text keeps. A text that is put together is squeezed
part by part, with at most one space where the parts meet, so what stands in a text still stands in
it once both are squeezed. A text that is laid out anew, with other blanks between its words, is
squeezed to the same. And what stands in texts that are squeezed below each other stands in one of
them, or else it begins at the end of one and goes on to the beginning of a later one.
-/

import MoveAudit.Proofs.Text.Runs
import MoveAudit.Text.Basic

namespace MoveAudit.Text

/-! ### Words -/

theorem words_nil : words [] = [] := rfl

/-- No word goes across a blank. -/
theorem words_append_cons {c : Char} (blank : isBlank c = true) (before after : List Char) :
    words (before ++ c :: after) = words before ++ words after := by
  unfold words
  rw [List.splitOnP_append_cons before after blank, List.filter_append]

theorem words_cons_of_blank {c : Char} (blank : isBlank c = true) (text : List Char) :
    words (c :: text) = words text :=
  words_append_cons blank [] text

theorem words_gap {gap : List Char} (blank : ∀ c ∈ gap, isBlank c = true) (text : List Char) :
    words (gap ++ text) = words text := by
  induction gap with
  | nil => rfl
  | cons c gap inductionHypothesis =>
    obtain ⟨here, later⟩ := List.forall_mem_cons.mp blank
    exact (words_cons_of_blank here (gap ++ text)).trans (inductionHypothesis later)

theorem words_of_unbroken {word : List Char} (nonempty : word ≠ [])
    (unbroken : ∀ c ∈ word, isBlank c = false) : words word = [word] := by
  unfold words
  rw [List.splitOnP_eq_singleton unbroken]
  exact List.filter_eq_self.mpr (by simpa using nonempty)

/-- A text whose last character is blank has words of its own. -/
theorem words_append_of_ends {before : List Char} (ends : ∀ c ∈ before.getLast?, isBlank c = true)
    (after : List Char) : words (before ++ after) = words before ++ words after := by
  rcases List.eq_nil_or_concat' before with rfl | ⟨earlier, c, rfl⟩
  · rfl
  · have blank : isBlank c = true := ends c List.getLast?_concat
    rw [List.append_assoc, List.singleton_append, words_append_cons blank, words_append_cons blank,
      words_nil, List.append_nil]

/-- So has a text whose first character is blank. -/
theorem words_append_of_starts {after : List Char} (starts : ∀ c ∈ after.head?, isBlank c = true)
    (before : List Char) : words (before ++ after) = words before ++ words after := by
  cases after with
  | nil => rw [List.append_nil, words_nil, List.append_nil]
  | cons c after =>
    have blank : isBlank c = true := starts c rfl
    rw [words_append_cons blank, words_cons_of_blank blank]

theorem words_append_gap {gap : List Char} (blank : ∀ c ∈ gap, isBlank c = true)
    (text : List Char) : words (text ++ gap) = words text := by
  have none : words gap = [] := by
    rw [← List.append_nil gap, words_gap blank, words_nil]
  rw [words_append_of_starts (fun c isHead => blank c (List.mem_of_head? isHead)), none,
    List.append_nil]

/-- Where two texts meet, their words stay as they are, or the last word of the first and the first
word of the second become one. -/
theorem words_append (before after : List Char) :
    words (before ++ after) = words before ++ words after ∨
      ∃ earlier start stop later, words before = earlier ++ [start] ∧ words after = stop :: later ∧
        words (before ++ after) = earlier ++ (start ++ stop) :: later := by
  obtain ⟨outer, left, rfl, unbrokenLeft, ends⟩ := exists_last_piece isBlank before
  obtain ⟨right, beyond, rfl, unbrokenRight, starts⟩ := exists_first_piece isBlank after
  have whole : words (outer ++ left ++ (right ++ beyond)) =
      words outer ++ (words (left ++ right) ++ words beyond) := by
    rw [List.append_assoc, words_append_of_ends ends, ← List.append_assoc left,
      words_append_of_starts starts]
  rw [whole, words_append_of_ends ends, words_append_of_starts starts]
  by_cases noLeft : left = []
  · left
    rw [noLeft, words_nil, List.append_nil, List.nil_append]
  by_cases noRight : right = []
  · left
    rw [noRight, words_nil, List.append_nil, List.nil_append, List.append_assoc]
  · right
    have joined : words (left ++ right) = [left ++ right] :=
      words_of_unbroken (List.append_ne_nil_of_left_ne_nil noLeft right) fun c member =>
        (List.mem_append.mp member).elim (unbrokenLeft c) (unbrokenRight c)
    rw [words_of_unbroken noLeft unbrokenLeft, words_of_unbroken noRight unbrokenRight, joined]
    exact ⟨_, _, _, _, rfl, rfl, rfl⟩

/-! ### Texts that are put together -/

theorem intercalate_append {Item : Type} (mark : List Item) {first second : List (List Item)}
    (nonempty : first ≠ []) (nonemptyToo : second ≠ []) :
    mark.intercalate (first ++ second) =
      mark.intercalate first ++ (mark ++ mark.intercalate second) := by
  induction first with
  | nil => exact absurd rfl nonempty
  | cons item rest inductionHypothesis =>
    cases rest with
    | nil =>
      rw [List.singleton_append, List.intercalate_cons_of_ne_nil nonemptyToo,
        List.intercalate_singleton, List.append_assoc]
    | cons next rest =>
      rw [List.cons_append, List.intercalate_cons_of_ne_nil (by simp),
        inductionHypothesis (List.cons_ne_nil next rest), List.intercalate_cons_cons,
        List.append_assoc, List.append_assoc, List.append_assoc]

theorem intercalate_merge {Item : Type} (mark start stop : List Item)
    (earlier later : List (List Item)) :
    mark.intercalate (earlier ++ (start ++ stop) :: later) =
      mark.intercalate (earlier ++ [start]) ++ mark.intercalate (stop :: later) := by
  have merged : mark.intercalate ((start ++ stop) :: later) =
      start ++ mark.intercalate (stop :: later) := by
    cases later with
    | nil => simp
    | cons next later => simp [List.intercalate_cons_cons]
  cases earlier with
  | nil => rw [List.nil_append, List.nil_append, merged, List.intercalate_singleton]
  | cons item earlier =>
    rw [intercalate_append mark (List.cons_ne_nil item earlier) (by simp), merged,
      intercalate_append mark (List.cons_ne_nil item earlier) (by simp), List.intercalate_singleton]
    simp

/-- Two texts that are squeezed as one have at most one space where they meet. -/
theorem squeeze_append (before after : List Char) :
    squeeze (before ++ after) = squeeze before ++ squeeze after ∨
      squeeze (before ++ after) = squeeze before ++ ' ' :: squeeze after := by
  unfold squeeze
  rcases words_append before after with apart | ⟨earlier, start, stop, later, ends, starts, joined⟩
  · rw [apart]
    by_cases none : words before = []
    · left
      rw [none, List.nil_append, List.intercalate_nil, List.nil_append]
    by_cases noneToo : words after = []
    · left
      rw [noneToo, List.append_nil, List.intercalate_nil, List.append_nil]
    · right
      exact intercalate_append [' '] none noneToo
  · left
    rw [joined, ends, starts, intercalate_merge]

/-- What stands in a text stands in it once both are squeezed. -/
theorem squeeze_infix {part text : List Char} (stands : part <:+: text) :
    squeeze part <:+: squeeze text := by
  obtain ⟨before, after, rfl⟩ := stands
  have ahead : squeeze (before ++ part) <+: squeeze (before ++ part ++ after) := by
    rcases squeeze_append (before ++ part) after with whole | whole <;> rw [whole]
    · exact List.prefix_append _ _
    · exact List.prefix_append _ _
  refine List.IsInfix.trans ?_ ahead.isInfix
  rcases squeeze_append before part with whole | whole <;> rw [whole]
  · exact List.infix_append_right
  · exact (List.suffix_cons ' ' _).isInfix.trans List.infix_append_right

/-! ### Texts that are laid out anew -/

/-- A text is laid out anew: each stretch of blanks in it may be another one, of blanks too and not
empty, and everything else is as it was. -/
inductive IsRespaced : List Char → List Char → Prop where
  | nil : IsRespaced [] []
  | kept {c : Char} {text other : List Char} (notBlank : isBlank c = false)
      (rest : IsRespaced text other) : IsRespaced (c :: text) (c :: other)
  | gap {old new text other : List Char} (nonempty : old ≠ []) (nonemptyToo : new ≠ [])
      (blank : ∀ c ∈ old, isBlank c = true) (blankToo : ∀ c ∈ new, isBlank c = true)
      (rest : IsRespaced text other) : IsRespaced (old ++ text) (new ++ other)

theorem IsRespaced.refl (text : List Char) : IsRespaced text text := by
  induction text with
  | nil => exact .nil
  | cons c text inductionHypothesis =>
    cases kind : isBlank c with
    | false => exact .kept kind inductionHypothesis
    | true =>
      have blank : ∀ other ∈ [c], isBlank other = true := List.forall_mem_singleton.mpr kind
      exact .gap (List.cons_ne_nil c []) (List.cons_ne_nil c []) blank blank inductionHypothesis

/-- A character that is not blank begins a word of its own before a blank, and otherwise belongs to
the first word of what follows. -/
theorem words_cons_of_not_blank {c : Char} (notBlank : isBlank c = false) (text : List Char) :
    words (c :: text) = if text.head?.all isBlank then [c] :: words text
      else (words text).modifyHead (c :: ·) := by
  have alone : words [c] = [[c]] :=
    words_of_unbroken (List.cons_ne_nil c []) (List.forall_mem_singleton.mpr notBlank)
  cases text with
  | nil => exact alone
  | cons d text =>
    cases kind : isBlank d with
    | true =>
      have apart : words ([c] ++ d :: text) = words [c] ++ words (d :: text) := by
        refine words_append_of_starts (fun other isHead => ?_) [c]
        cases isHead
        exact kind
      rw [List.head?_cons, Option.all_some, kind, if_pos rfl, ← List.singleton_append, apart, alone]
      rfl
    | false =>
      obtain ⟨piece, pieces, split⟩ := List.exists_cons_of_ne_nil (List.splitOnP_ne_nil isBlank text)
      rw [List.head?_cons, Option.all_some, kind, if_neg Bool.false_ne_true]
      unfold words
      simp [List.splitOnP_cons_eq_if_modifyHead, notBlank, kind, split]

theorem IsRespaced.all_head? {text other : List Char} (respaced : IsRespaced text other) :
    other.head?.all isBlank = text.head?.all isBlank := by
  have starts {gap : List Char} (nonempty : gap ≠ []) (blank : ∀ c ∈ gap, isBlank c = true)
      (rest : List Char) : (gap ++ rest).head?.all isBlank = true := by
    cases gap with
    | nil => exact absurd rfl nonempty
    | cons c gap => exact blank c List.mem_cons_self
  cases respaced with
  | nil => rfl
  | kept notBlank rest => rfl
  | gap nonempty nonemptyToo blank blankToo rest =>
    rw [starts nonempty blank, starts nonemptyToo blankToo]

theorem IsRespaced.words_eq {text other : List Char} (respaced : IsRespaced text other) :
    words other = words text := by
  induction respaced with
  | nil => rfl
  | kept notBlank rest inductionHypothesis =>
    rw [words_cons_of_not_blank notBlank, words_cons_of_not_blank notBlank, rest.all_head?,
      inductionHypothesis]
  | gap nonempty nonemptyToo blank blankToo rest inductionHypothesis =>
    rw [words_gap blank, words_gap blankToo, inductionHypothesis]

/-- A text that is laid out anew is squeezed to the same. -/
theorem IsRespaced.squeeze_eq {text other : List Char} (respaced : IsRespaced text other) :
    squeeze other = squeeze text := by
  unfold squeeze
  rw [respaced.words_eq]

theorem squeeze_trim (text : List Char) : squeeze (trim text) = squeeze text := by
  have leading : words (trimStart text) = words text := by
    conv_rhs => rw [← List.takeWhile_append_dropWhile (p := isBlank) (l := text)]
    exact (words_gap (fun c member => List.mem_takeWhile_imp member) _).symm
  have trailing (text : List Char) : words (trimEnd text) = words text := by
    conv_rhs => rw [← List.rdropWhile_append_rtakeWhile (p := isBlank) (l := text)]
    exact (words_append_gap (fun c member => List.mem_rtakeWhile_imp member) _).symm
  unfold squeeze trim
  rw [trailing, leading]

theorem squeeze_ne_nil_of_mem {c : Char} (notBlank : isBlank c = false) {text : List Char}
    (member : c ∈ text) : squeeze text ≠ [] := by
  have alone : squeeze [c] = [c] := by
    unfold squeeze
    rw [words_of_unbroken (List.cons_ne_nil c []) (List.forall_mem_singleton.mpr notBlank),
      List.intercalate_singleton]
  obtain ⟨before, after, rfl⟩ := List.append_of_mem member
  have stands : [c] <:+: before ++ c :: after := ⟨before, after, by simp⟩
  intro none
  have squeezed := squeeze_infix stands
  rw [alone, none] at squeezed
  cases List.infix_nil.mp squeezed

/-! ### Texts below each other -/

/-- What is left of texts that are squeezed each on its own: those that hold a word. -/
def squeezedTexts (texts : List (List Char)) : List (List Char) :=
  (texts.map squeeze).filter (!·.isEmpty)

theorem ne_nil_of_mem_words {word text : List Char} (member : word ∈ words text) : word ≠ [] := by
  simpa using (List.mem_filter.mp member).2

theorem squeeze_eq_nil_iff {text : List Char} : squeeze text = [] ↔ words text = [] := by
  unfold squeeze
  cases found : words text with
  | nil => exact iff_of_true List.intercalate_nil rfl
  | cons word rest =>
    have nonempty : word ≠ [] := ne_nil_of_mem_words (found ▸ List.mem_cons_self)
    refine iff_of_false ?_ (List.cons_ne_nil word rest)
    cases rest <;> simp [List.intercalate_cons_cons, nonempty]

theorem words_intercalate (texts : List (List Char)) :
    words (['\n'].intercalate texts) = texts.flatMap words := by
  induction texts with
  | nil => rfl
  | cons text texts inductionHypothesis =>
    cases texts with
    | nil => simp
    | cons next texts =>
      rw [List.intercalate_cons_cons, List.append_assoc, List.singleton_append,
        words_append_cons rfl, inductionHypothesis]
      rfl

theorem squeezedTexts_cons (text : List Char) (texts : List (List Char)) :
    squeezedTexts (text :: texts) =
      if words text = [] then squeezedTexts texts else squeeze text :: squeezedTexts texts := by
  unfold squeezedTexts
  rw [List.map_cons, List.filter_cons]
  by_cases none : words text = []
  · rw [if_pos none, squeeze_eq_nil_iff.mpr none]
    rfl
  · rw [if_neg none, if_pos (by simpa [squeeze_eq_nil_iff] using none)]

theorem squeezedTexts_eq_nil_iff {texts : List (List Char)} :
    squeezedTexts texts = [] ↔ texts.flatMap words = [] := by
  unfold squeezedTexts
  rw [List.filter_eq_nil_iff, List.forall_mem_map, List.flatMap_eq_nil_iff]
  simp [squeeze_eq_nil_iff]

theorem intercalate_flatMap_words (texts : List (List Char)) :
    [' '].intercalate (texts.flatMap words) = [' '].intercalate (squeezedTexts texts) := by
  induction texts with
  | nil => rfl
  | cons text texts inductionHypothesis =>
    rw [List.flatMap_cons, squeezedTexts_cons]
    by_cases none : words text = []
    · rw [if_pos none, none, List.nil_append, inductionHypothesis]
    rw [if_neg none]
    by_cases noneLater : texts.flatMap words = []
    · rw [noneLater, squeezedTexts_eq_nil_iff.mpr noneLater, List.append_nil,
        List.intercalate_singleton]
      rfl
    · have someText : squeezedTexts texts ≠ [] := fun noText =>
        noneLater (squeezedTexts_eq_nil_iff.mp noText)
      rw [intercalate_append [' '] none noneLater, inductionHypothesis,
        List.intercalate_cons_of_ne_nil someText, List.append_assoc]
      rfl

/-- Texts below each other are squeezed each on its own, with one space between two that hold a
word. -/
theorem squeeze_intercalate (texts : List (List Char)) :
    squeeze (['\n'].intercalate texts) = [' '].intercalate (squeezedTexts texts) := by
  unfold squeeze
  rw [words_intercalate, intercalate_flatMap_words]

/-- A part begins the first of some texts and ends in it or, over whole ones, in a later one. -/
inductive ReachesInto (mark : Char) : List Char → List (List Char) → Prop where
  | here {stop last : List Char} {after : List (List Char)} (starts : stop <+: last) :
    ReachesInto mark stop (last :: after)
  | across {text rest : List Char} {texts : List (List Char)}
    (reaches : ReachesInto mark rest texts) : ReachesInto mark (text ++ mark :: rest) (text :: texts)

/-- A part begins at the end of one text and goes on over a mark to the beginning of a later one. -/
inductive Straddles (mark : Char) : List Char → List (List Char) → Prop where
  | here {start first rest : List Char} {texts : List (List Char)} (ends : start <:+ first)
    (reaches : ReachesInto mark rest texts) :
    Straddles mark (start ++ mark :: rest) (first :: texts)
  | later {part text : List Char} {texts : List (List Char)}
    (straddles : Straddles mark part texts) : Straddles mark part (text :: texts)

section Marked

variable {mark : Char} {part : List Char} {texts : List (List Char)}

theorem ReachesInto.prefix_intercalate (reaches : ReachesInto mark part texts) :
    part <+: [mark].intercalate texts := by
  induction reaches with
  | @here stop last after starts =>
    cases after with
    | nil => rwa [List.intercalate_singleton]
    | cons next after =>
      rw [List.intercalate_cons_cons, List.append_assoc]
      exact starts.trans (List.prefix_append _ _)
  | @across text rest texts reaches inductionHypothesis =>
    have nonempty : texts ≠ [] := by
      rintro rfl
      cases reaches
    rw [List.intercalate_cons_of_ne_nil nonempty, List.append_assoc]
    have later : mark :: rest <+: mark :: [mark].intercalate texts :=
      List.cons_prefix_cons.mpr ⟨rfl, inductionHypothesis⟩
    exact (List.prefix_append_right_inj text).mpr later

theorem reachesInto_of_starts (nonempty : texts ≠ []) (starts : part <+: [mark].intercalate texts) :
    ReachesInto mark part texts := by
  induction texts generalizing part with
  | nil => exact absurd rfl nonempty
  | cons text texts inductionHypothesis =>
    cases texts with
    | nil => exact .here (by rwa [List.intercalate_singleton] at starts)
    | cons next texts =>
      rw [List.intercalate_cons_cons, List.append_assoc] at starts
      -- Two beginnings of one text: the shorter one begins the longer one.
      rcases List.prefix_or_prefix_of_prefix starts (List.prefix_append _ _) with
        within | ⟨rest, rfl⟩
      · exact .here within
      rcases List.prefix_cons_iff.mp ((List.prefix_append_right_inj text).mp starts) with
        rfl | ⟨rest, rfl, reaches⟩
      · rw [List.append_nil]
        exact .here List.prefix_rfl
      · exact .across (inductionHypothesis (List.cons_ne_nil next texts) reaches)

theorem Straddles.infix_intercalate (straddles : Straddles mark part texts) :
    part <:+: [mark].intercalate texts := by
  induction straddles with
  | @here start first rest texts ends reaches =>
    obtain ⟨before, rfl⟩ := ends
    have whole := (@ReachesInto.across _ (before ++ start) _ _ reaches).prefix_intercalate
    rw [List.append_assoc] at whole
    exact (List.infix_append_right).trans whole.isInfix
  | @later part text texts straddles inductionHypothesis =>
    have nonempty : texts ≠ [] := by
      rintro rfl
      cases straddles
    rw [List.intercalate_cons_of_ne_nil nonempty]
    exact inductionHypothesis.trans List.infix_append_right

theorem infix_intercalate_of_mem {text : List Char} (member : text ∈ texts) :
    text <:+: [mark].intercalate texts := by
  obtain ⟨before, after, rfl⟩ := List.append_of_mem member
  have starts : text <+: [mark].intercalate (text :: after) :=
    ReachesInto.prefix_intercalate (.here List.prefix_rfl)
  by_cases isFirst : before = []
  · rw [isFirst]
    exact starts.isInfix
  · rw [intercalate_append [mark] isFirst (List.cons_ne_nil text after), ← List.append_assoc]
    exact starts.isInfix.trans List.infix_append_right

/-- What stands in texts with a mark between neighbours stands in one of them or straddles. -/
theorem infix_intercalate_iff (nonempty : texts ≠ []) :
    part <:+: [mark].intercalate texts ↔
      (∃ text ∈ texts, part <:+: text) ∨ Straddles mark part texts := by
  refine ⟨fun stands => ?_, ?_⟩
  · induction texts with
    | nil => exact absurd rfl nonempty
    | cons text texts inductionHypothesis =>
      by_cases isLast : texts = []
      · rw [isLast, List.intercalate_singleton] at stands
        exact .inl ⟨text, List.mem_cons_self, stands⟩
      have across {start rest : List Char} (ends : start <:+ text)
          (starts : rest <+: mark :: [mark].intercalate texts) :
          (∃ other ∈ text :: texts, start ++ rest <:+: other) ∨
            Straddles mark (start ++ rest) (text :: texts) := by
        rcases List.prefix_cons_iff.mp starts with rfl | ⟨rest, rfl, reaches⟩
        · rw [List.append_nil]
          exact .inl ⟨text, List.mem_cons_self, ends.isInfix⟩
        · exact .inr (.here ends (reachesInto_of_starts isLast reaches))
      rw [List.intercalate_cons_of_ne_nil isLast, List.append_assoc, List.singleton_append,
        List.infix_append_iff, List.infix_cons_iff] at stands
      rcases stands with within | (starts | beyond) | ⟨start, rest, rfl, ends, starts⟩
      · exact .inl ⟨text, List.mem_cons_self, within⟩
      · exact across (List.nil_suffix) starts
      · refine (inductionHypothesis isLast beyond).imp ?_ .later
        rintro ⟨other, member, stands⟩
        exact ⟨other, List.mem_cons_of_mem text member, stands⟩
      · exact across ends starts
  · rintro (⟨text, member, stands⟩ | straddles)
    · exact stands.trans (infix_intercalate_of_mem member)
    · exact straddles.infix_intercalate

/-- It takes two texts to go from one to the next. -/
theorem Straddles.one_lt_length (straddles : Straddles mark part texts) : 1 < texts.length := by
  induction straddles with
  | here ends reaches => cases reaches <;> simp
  | later straddles inductionHypothesis => exact Nat.lt_succ_of_lt inductionHypothesis

end Marked

/-- What stands in texts that are squeezed below each other. -/
theorem infix_squeeze_intercalate_iff {part : List Char} (nonempty : part ≠ [])
    (texts : List (List Char)) :
    part <:+: squeeze (['\n'].intercalate texts) ↔
      (∃ text ∈ texts, part <:+: squeeze text) ∨ Straddles ' ' part (squeezedTexts texts) := by
  have within : (∃ text ∈ squeezedTexts texts, part <:+: text) ↔
      ∃ text ∈ texts, part <:+: squeeze text := by
    unfold squeezedTexts
    constructor
    · rintro ⟨text, member, stands⟩
      obtain ⟨original, isText, rfl⟩ := List.mem_map.mp (List.mem_filter.mp member).1
      exact ⟨original, isText, stands⟩
    · rintro ⟨text, isText, stands⟩
      have holdsWord : squeeze text ≠ [] := fun none =>
        nonempty (List.infix_nil.mp (none ▸ stands))
      exact ⟨squeeze text, List.mem_filter.mpr ⟨List.mem_map_of_mem isText, by simpa⟩, stands⟩
  rw [squeeze_intercalate]
  by_cases noText : squeezedTexts texts = []
  · rw [noText] at within ⊢
    rw [← within, List.intercalate_nil, List.infix_nil]
    refine iff_of_false nonempty ?_
    rintro (⟨text, ⟨⟩, -⟩ | ⟨⟨⟩⟩)
  · rw [infix_intercalate_iff noText, within]

end MoveAudit.Text
