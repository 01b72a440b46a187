/-
This file proves when a note affirms a keyword. The rule is said here place by place: a place counts
unless something denies it within the stretch around it, which goes on to the mark that ends a
clause on either side. A denial says which words deny from how far away and which prefixes do, so
one that says more never lets a note affirm more. And since nothing beyond a stretch is looked at, a
note affirms what one of its clauses affirms on its own.
-/

import MoveAudit.Proofs.Text.Blank
import MoveAudit.Proofs.Text.Case
import MoveAudit.Proofs.Text.Runs
import MoveAudit.Scoring.Mention

namespace MoveAudit.Scoring

/-! ### The rule -/

/-- The text before and after a place is taken apart into the stretch around the place, `left` and
`right`, and what lies beyond it. The stretch holds no mark that ends a clause and goes on to such a
mark, or to an end of the text, on both sides. -/
structure IsStretch (outer left right beyond : List Char) : Prop where
  unbroken : ∀ c ∈ left ++ right, endsClause c = false
  starts : ∀ c ∈ outer.getLast?, endsClause c = true
  stops : ∀ c ∈ beyond.head?, endsClause c = true

/-- At most one hyphen or blank. -/
def IsJoint (text : List Char) : Prop :=
  text = [] ∨ ∃ c, text = [c] ∧ (c = '-' ∨ Text.isBlank c = true)

/-- At most a line feed. -/
def IsFeed (text : List Char) : Prop :=
  text = [] ∨ text = ['\n']

/-- A text ends in a prefix in small letters that begins at the edge of a word, with at most a
joint and a line feed after it. -/
def EndsInPrefix (word : String) (text : List Char) : Prop :=
  ∃ kept joint feed, text = kept ++ (Text.lower word.toList ++ (joint ++ feed)) ∧
    Text.isWordEdge kept.getLast? (Text.lower word.toList ++ (joint ++ feed)).head? = true ∧
    IsJoint joint ∧ IsFeed feed

/-- Something denies a keyword between the two sides of a stretch: a word before it or after it with
fewer words in between than the window, or a prefix attached to it. -/
inductive Denies (denial : Denial) (left right : List Char) : Prop where
  | before {earlier later : List (List Char)} {word : String}
      (runs : Text.HasRuns isSmallLetter left (earlier ++ word.toList :: later))
      (isNear : (later.length : Int) < denial.window) (listed : word ∈ denial.before)
  | after {earlier later : List (List Char)} {word : String}
      (runs : Text.HasRuns isSmallLetter right (earlier ++ word.toList :: later))
      (isNear : (earlier.length : Int) < denial.window) (listed : word ∈ denial.after)
  | attached {word : String} (ends : EndsInPrefix word left) (listed : word ∈ denial.prefixes)

/-! ### Stretches -/

theorem takeWhile_of_stops {right beyond : List Char} (unbroken : ∀ c ∈ right, endsClause c = false)
    (stops : ∀ c ∈ beyond.head?, endsClause c = true) :
    (right ++ beyond).takeWhile (!endsClause ·) = right := by
  rw [List.takeWhile_append_of_pos fun c member => by rw [unbroken c member]; rfl]
  cases beyond with
  | nil => exact List.append_nil right
  | cons c beyond =>
    rw [List.takeWhile_cons_of_neg (by simp [stops c rfl]), List.append_nil]

namespace IsStretch

variable {outer left right beyond : List Char}

theorem clauseAfter_eq (isStretch : IsStretch outer left right beyond) :
    clauseAfter (right ++ beyond) = right :=
  takeWhile_of_stops (fun c member => isStretch.unbroken c (List.mem_append_right left member))
    isStretch.stops

theorem clauseBefore_eq (isStretch : IsStretch outer left right beyond) :
    clauseBefore (outer ++ left) = left := by
  unfold clauseBefore
  rw [List.reverse_append, takeWhile_of_stops, List.reverse_reverse]
  · intro c member
    exact isStretch.unbroken c (List.mem_append_left right (List.mem_reverse.mp member))
  · rw [List.head?_reverse]
    exact isStretch.starts

end IsStretch

/-- There is a stretch around every place. -/
theorem exists_isStretch (before after : List Char) :
    ∃ outer left right beyond, before = outer ++ left ∧ after = right ++ beyond ∧
      IsStretch outer left right beyond := by
  obtain ⟨outer, left, isBefore, unbrokenLeft, starts⟩ := Text.exists_last_piece endsClause before
  obtain ⟨right, beyond, isAfter, unbrokenRight, stops⟩ := Text.exists_first_piece endsClause after
  refine ⟨outer, left, right, beyond, isBefore, isAfter, fun c member => ?_, starts, stops⟩
  exact (List.mem_append.mp member).elim (unbrokenLeft c) (unbrokenRight c)

/-! ### What denies a place -/

theorem anyOf_iff {words : List String} {found : List (List Char)} :
    anyOf words found = true ↔ ∃ word ∈ words, word.toList ∈ found := by
  unfold anyOf
  rw [List.any_eq_true]
  constructor
  · rintro ⟨word, isFound, listed⟩
    refine ⟨String.ofList word, List.contains_iff_mem.mp listed, ?_⟩
    rwa [String.toList_ofList]
  · rintro ⟨word, listed, isFound⟩
    refine ⟨word.toList, isFound, List.contains_iff_mem.mpr ?_⟩
    rwa [String.ofList_toList]

section Windows

variable {word : List Char} {runs : List (List Char)} {window : Int}

theorem mem_take_iff : word ∈ runs.take window.toNat ↔
    ∃ earlier later, runs = earlier ++ word :: later ∧ (earlier.length : Int) < window := by
  constructor
  · intro member
    obtain ⟨earlier, later, taken⟩ := List.append_of_mem member
    refine ⟨earlier, later ++ runs.drop window.toNat, ?_, ?_⟩
    · rw [← List.cons_append, ← List.append_assoc, ← taken, List.take_append_drop]
    · have lengths := congrArg List.length taken
      rw [List.length_take, List.length_append, List.length_cons] at lengths
      omega
  · rintro ⟨earlier, later, rfl, isNear⟩
    rw [List.take_append]
    refine List.mem_append_right _ (List.mem_take_iff_getElem.mpr ⟨0, ?_, rfl⟩)
    rw [List.length_cons]
    omega

theorem mem_drop_iff : word ∈ runs.drop (runs.length - window.toNat) ↔
    ∃ earlier later, runs = earlier ++ word :: later ∧ (later.length : Int) < window := by
  have mirrored : runs.drop (runs.length - window.toNat) =
      (runs.reverse.take window.toNat).reverse := List.rtake_eq_reverse_take_reverse runs _
  rw [mirrored, List.mem_reverse, mem_take_iff]
  constructor
  · rintro ⟨later, earlier, whole, isNear⟩
    refine ⟨earlier.reverse, later.reverse, ?_, by rwa [List.length_reverse]⟩
    rw [← List.reverse_reverse runs, whole, List.reverse_append, List.reverse_cons,
      List.append_assoc, List.singleton_append]
  · rintro ⟨earlier, later, rfl, isNear⟩
    refine ⟨later.reverse, earlier.reverse, ?_, by rwa [List.length_reverse]⟩
    rw [List.reverse_append, List.reverse_cons, List.append_assoc, List.singleton_append]

end Windows

section Prefixes

variable {part text : List Char}

/-- A function that gives a text, and the text without a last character of some kind, gives what is
left without at most one such character. -/
theorem mem_shortened_iff {shortened : List Char → List (List Char)} {kind : Char → Bool}
    (nil : shortened [] = [[]])
    (concat : ∀ text c, shortened (text ++ [c]) =
      if kind c then [text ++ [c], text] else [text ++ [c]]) :
    part ∈ shortened text ↔
      ∃ tail, text = part ++ tail ∧ (tail = [] ∨ ∃ c, tail = [c] ∧ kind c = true) := by
  constructor
  · intro member
    have whole (same : part = text) : ∃ tail, text = part ++ tail ∧
        (tail = [] ∨ ∃ c, tail = [c] ∧ kind c = true) :=
      ⟨[], by rw [same, List.append_nil], .inl rfl⟩
    rcases List.eq_nil_or_concat' text with rfl | ⟨start, c, rfl⟩
    · rw [nil] at member
      exact whole (List.mem_singleton.mp member)
    · rw [concat] at member
      split at member
      · next isKind =>
        rcases List.mem_cons.mp member with same | shorter
        · exact whole same
        · exact ⟨[c], by rw [List.mem_singleton.mp shorter], .inr ⟨c, rfl, isKind⟩⟩
      · exact whole (List.mem_singleton.mp member)
  · rintro ⟨tail, rfl, rfl | ⟨c, rfl, isKind⟩⟩
    · rw [List.append_nil]
      rcases List.eq_nil_or_concat' part with rfl | ⟨start, c, rfl⟩
      · rw [nil]
        exact List.mem_singleton_self []
      · rw [concat]
        split <;> exact List.mem_cons_self
    · rw [concat, if_pos isKind]
      exact List.mem_cons_of_mem _ (List.mem_singleton_self part)

theorem mem_withoutLineFeed_iff :
    part ∈ withoutLineFeed text ↔ ∃ feed, text = part ++ feed ∧ IsFeed feed := by
  have concat (text : List Char) (c : Char) : withoutLineFeed (text ++ [c]) =
      if c == '\n' then [text ++ [c], text] else [text ++ [c]] := by
    unfold withoutLineFeed
    rw [List.reverse_concat]
    split
    · next rest isReverse =>
      obtain ⟨rfl, rfl⟩ := List.cons.inj isReverse
      rw [List.reverse_reverse]
      rfl
    · next notFeed =>
      have other : c ≠ '\n' := fun same => notFeed _ (by rw [same])
      rw [if_neg (by rwa [beq_iff_eq])]
  rw [mem_shortened_iff rfl concat]
  simp only [IsFeed, beq_iff_eq, exists_eq_right]

theorem mem_withoutJoint_iff :
    part ∈ withoutJoint text ↔ ∃ joint, text = part ++ joint ∧ IsJoint joint := by
  have concat (text : List Char) (c : Char) : withoutJoint (text ++ [c]) =
      if c == '-' || Text.isBlank c then [text ++ [c], text] else [text ++ [c]] := by
    unfold withoutJoint
    rw [List.reverse_concat]
    dsimp only
    rw [List.reverse_reverse]
  rw [mem_shortened_iff rfl concat]
  simp only [IsJoint, Bool.or_eq_true, beq_iff_eq]

theorem endsInPrefix_iff {prefixes : List String} :
    endsInPrefix prefixes text = true ↔ ∃ word ∈ prefixes, ∃ kept,
      text = kept ++ Text.lower word.toList ∧
        Text.isWordEdge kept.getLast? (Text.lower word.toList).head? = true := by
  unfold endsInPrefix
  rw [List.any_eq_true]
  refine exists_congr fun word => and_congr_right fun _ => ?_
  rw [Bool.and_eq_true, List.isSuffixOf_iff_suffix]
  constructor
  · rintro ⟨⟨kept, rfl⟩, edge⟩
    rw [List.length_append, Nat.add_sub_cancel, List.take_left] at edge
    exact ⟨kept, rfl, edge⟩
  · rintro ⟨kept, rfl, edge⟩
    refine ⟨List.suffix_append kept _, ?_⟩
    rwa [List.length_append, Nat.add_sub_cancel, List.take_left]

/-- Neither a joint nor a line feed belongs to a word. -/
theorem isWordEdge_append {kept : Option Char} {small joint feed : List Char}
    (isJoint : IsJoint joint) (isFeed : IsFeed feed) :
    Text.isWordEdge kept (small ++ (joint ++ feed)).head? = Text.isWordEdge kept small.head? := by
  cases small with
  | cons c small => rfl
  | nil =>
    rcases isJoint with rfl | ⟨c, rfl, rfl | blank⟩
    · rcases isFeed with rfl | rfl <;> rfl
    · rfl
    · show (kept.any Text.isWordChar != Text.isWordChar c) = (kept.any Text.isWordChar != false)
      rw [Text.isWordChar_of_isBlank blank]

theorem hasPrefix_iff {prefixes : List String} :
    hasPrefix prefixes text = true ↔ ∃ word ∈ prefixes, EndsInPrefix word text := by
  unfold hasPrefix
  simp only [List.any_eq_true, List.mem_flatMap, mem_withoutLineFeed_iff, mem_withoutJoint_iff,
    endsInPrefix_iff]
  constructor
  · rintro ⟨_, ⟨_, ⟨feed, rfl, isFeed⟩, joint, rfl, isJoint⟩, word, listed, kept, rfl, edge⟩
    refine ⟨word, listed, kept, joint, feed, ?_, ?_, isJoint, isFeed⟩
    · rw [List.append_assoc, List.append_assoc]
    · rwa [isWordEdge_append isJoint isFeed]
  · rintro ⟨word, listed, kept, joint, feed, rfl, edge, isJoint, isFeed⟩
    rw [isWordEdge_append isJoint isFeed] at edge
    refine ⟨_, ⟨_, ⟨feed, ?_, isFeed⟩, joint, rfl, isJoint⟩, word, listed, kept, rfl, edge⟩
    rw [List.append_assoc, List.append_assoc]

end Prefixes

/-- A place is denied exactly if something denies it within the stretch around it. -/
theorem isDenied_iff {denial : Denial} {outer left right beyond : List Char}
    (isStretch : IsStretch outer left right beyond) :
    isDenied denial (outer ++ left) (right ++ beyond) = true ↔ Denies denial left right := by
  have runs (text : List Char) : Text.HasRuns isSmallLetter text (letterRuns text) :=
    Text.hasRuns_iff.mpr rfl
  unfold isDenied
  rw [isStretch.clauseBefore_eq, isStretch.clauseAfter_eq]
  simp only [Bool.or_eq_true, anyOf_iff, mem_take_iff, mem_drop_iff, hasPrefix_iff]
  constructor
  · rintro ((⟨word, listed, earlier, later, isRuns, isNear⟩ |
      ⟨word, listed, earlier, later, isRuns, isNear⟩) | ⟨word, listed, ends⟩)
    · exact .before (isRuns ▸ runs left) isNear listed
    · exact .after (isRuns ▸ runs right) isNear listed
    · exact .attached ends listed
  · intro denies
    cases denies with
    | before isRuns isNear listed =>
      exact .inl (.inl ⟨_, listed, _, _, (Text.hasRuns_iff.mp isRuns).symm, isNear⟩)
    | after isRuns isNear listed =>
      exact .inl (.inr ⟨_, listed, _, _, (Text.hasRuns_iff.mp isRuns).symm, isNear⟩)
    | attached ends listed => exact .inr ⟨_, listed, ends⟩

/-! ### Places -/

section Places

variable {denial : Denial} {keyword read : List Char}

/-- The keyword stands here and is not denied. -/
theorem any_after?_iff {text : List Char} :
    ((Text.after? keyword text).any fun rest => !isDenied denial read.reverse rest) = true ↔
      ∃ after, text = keyword ++ after ∧ isDenied denial read.reverse after = false := by
  rw [Option.any_eq_true]
  simp only [Text.after?_eq_some_iff, Bool.not_eq_true']

theorem affirmsFrom_nil_eq : affirmsFrom denial keyword read [] =
    (Text.after? keyword []).any fun rest => !isDenied denial read.reverse rest := by
  rw [affirmsFrom]
  cases Text.after? keyword [] <;> rfl

theorem affirmsFrom_cons_eq (c : Char) (text : List Char) :
    affirmsFrom denial keyword read (c :: text) =
      (((Text.after? keyword (c :: text)).any fun rest => !isDenied denial read.reverse rest) ||
        affirmsFrom denial keyword (c :: read) text) := by
  rw [affirmsFrom]
  cases Text.after? keyword (c :: text) <;> rfl

/-- Every place of the keyword in the text is looked at. -/
theorem affirmsFrom_iff {text : List Char} :
    affirmsFrom denial keyword read text = true ↔ ∃ before after,
      text = before ++ (keyword ++ after) ∧
        isDenied denial (read.reverse ++ before) after = false := by
  induction text generalizing read with
  | nil =>
    rw [affirmsFrom_nil_eq, any_after?_iff]
    constructor
    · rintro ⟨after, whole, undenied⟩
      exact ⟨[], after, whole, by rwa [List.append_nil]⟩
    · rintro ⟨before, after, whole, undenied⟩
      obtain ⟨rfl, rest⟩ := List.append_eq_nil_iff.mp whole.symm
      rw [List.append_nil] at undenied
      exact ⟨after, rest.symm, undenied⟩
  | cons c text inductionHypothesis =>
    rw [affirmsFrom_cons_eq, Bool.or_eq_true, any_after?_iff, inductionHypothesis]
    constructor
    · rintro (⟨after, whole, undenied⟩ | ⟨before, after, rfl, undenied⟩)
      · exact ⟨[], after, whole, by rwa [List.append_nil]⟩
      · exact ⟨c :: before, after, rfl, by rwa [List.reverse_cons, List.append_assoc] at undenied⟩
    · rintro ⟨before, after, whole, undenied⟩
      cases before with
      | nil =>
        rw [List.append_nil] at undenied
        exact .inl ⟨after, whole, undenied⟩
      | cons first before =>
        obtain ⟨rfl, rfl⟩ := List.cons.inj whole
        refine .inr ⟨before, after, rfl, ?_⟩
        rwa [List.reverse_cons, List.append_assoc]

theorem affirmsFrom_nil_iff {text : List Char} :
    affirmsFrom denial keyword [] text = true ↔ ∃ outer left right beyond,
      text = outer ++ left ++ (keyword ++ (right ++ beyond)) ∧
        IsStretch outer left right beyond ∧ ¬ Denies denial left right := by
  rw [affirmsFrom_iff]
  constructor
  · rintro ⟨before, after, whole, undenied⟩
    obtain ⟨outer, left, right, beyond, rfl, rfl, isStretch⟩ := exists_isStretch before after
    refine ⟨outer, left, right, beyond, whole, isStretch, ?_⟩
    rw [← isDenied_iff isStretch]
    exact ne_true_of_eq_false undenied
  · rintro ⟨outer, left, right, beyond, whole, isStretch, undenied⟩
    rw [← isDenied_iff isStretch] at undenied
    exact ⟨outer ++ left, right ++ beyond, whole, eq_false_of_ne_true undenied⟩

end Places

/-- A note affirms a keyword exactly if it has a place of it, in small letters, that nothing denies
within the stretch around it. -/
theorem affirms_iff_undenied (denial : Denial) (note keyword : String) :
    affirms denial note keyword = true ↔ ∃ outer left right beyond,
      Text.lower note.toList =
        outer ++ left ++ (Text.lower keyword.toList ++ (right ++ beyond)) ∧
      IsStretch outer left right beyond ∧ ¬ Denies denial left right :=
  affirmsFrom_nil_iff

/-! ### Saying more against a keyword -/

/-- A denial that says no less than another: it has all of its words and prefixes and looks as
far. -/
structure SaysMore (less more : Denial) : Prop where
  before : less.before ⊆ more.before
  after : less.after ⊆ more.after
  window : less.window ≤ more.window
  prefixes : less.prefixes ⊆ more.prefixes

theorem Denies.mono {less more : Denial} {left right : List Char} (saysMore : SaysMore less more)
    (denies : Denies less left right) : Denies more left right := by
  cases denies with
  | before runs isNear listed =>
    exact .before runs (Int.lt_of_lt_of_le isNear saysMore.window) (saysMore.before listed)
  | after runs isNear listed =>
    exact .after runs (Int.lt_of_lt_of_le isNear saysMore.window) (saysMore.after listed)
  | attached ends listed => exact .attached ends (saysMore.prefixes listed)

/-- What a note affirms in spite of a denial it affirms in spite of one that says less. -/
theorem affirms_antitone {less more : Denial} (saysMore : SaysMore less more)
    {note keyword : String} (affirmed : affirms more note keyword = true) :
    affirms less note keyword = true := by
  obtain ⟨outer, left, right, beyond, whole, isStretch, undenied⟩ := affirmsFrom_nil_iff.mp affirmed
  exact affirmsFrom_nil_iff.mpr
    ⟨outer, left, right, beyond, whole, isStretch, fun denies => undenied (denies.mono saysMore)⟩

/-- A timelock that is one thing and not another is affirmed by a denial that looks nowhere, since it
is by one that looks three words far on both sides. -/
theorem timelock_affirmed_antitone :
    SaysMore ⟨["no"], [], -2, []⟩ ⟨["no", "not"], ["none", "not"], 3, ["non"]⟩ ∧
      affirms ⟨["no"], [], -2, []⟩ "A strict Timelock, not a single key." "timelock" = true := by
  have saysMore : SaysMore ⟨["no"], [], -2, []⟩ ⟨["no", "not"], ["none", "not"], 3, ["non"]⟩ :=
    ⟨by decide, by decide, by decide, by decide⟩
  exact ⟨saysMore, affirms_antitone saysMore (by decide +kernel)⟩

/-! ### Clauses -/

/-- The clauses of a note: what stands between the marks that end one. -/
def clausesOf (note : String) : List String :=
  (note.toList.splitOnP endsClause).map String.ofList

theorem eq_nil_of_marked {text : List Char} (unbroken : ∀ c ∈ text, endsClause c = false)
    (marked : ∀ c ∈ text.head?, endsClause c = true) : text = [] := by
  cases text with
  | nil => rfl
  | cons c text => exact absurd (marked c rfl) (ne_true_of_eq_false (unbroken c List.mem_cons_self))

/-- Nothing lies beyond a stretch in a text without marks. -/
theorem IsStretch.eq_nil {outer left right beyond : List Char}
    (isStretch : IsStretch outer left right beyond)
    (unbroken : ∀ c ∈ outer ++ beyond, endsClause c = false) : outer = [] ∧ beyond = [] := by
  constructor
  · refine List.reverse_eq_nil_iff.mp (eq_nil_of_marked (fun c member => ?_) ?_)
    · exact unbroken c (List.mem_append_left beyond (List.mem_reverse.mp member))
    · rw [List.head?_reverse]
      exact isStretch.starts
  · exact eq_nil_of_marked (fun c member => unbroken c (List.mem_append_right outer member))
      isStretch.stops

/-- A keyword without a mark stands within a clause wherever it stands, and the stretch around it
is the rest of the clause. -/
theorem affirmsFrom_iff_clause {denial : Denial} {keyword text : List Char}
    (unbroken : ∀ c ∈ keyword, endsClause c = false) :
    affirmsFrom denial keyword [] text = true ↔
      ∃ clause ∈ text.splitOnP endsClause, affirmsFrom denial keyword [] clause = true := by
  simp only [affirmsFrom_nil_iff, Text.mem_splitOnP_iff]
  constructor
  · rintro ⟨outer, left, right, beyond, rfl, isStretch, undenied⟩
    have inClause : ∀ c ∈ left ++ (keyword ++ right), endsClause c = false := by
      intro c member
      rcases List.mem_append.mp member with isLeft | isLater
      · exact isStretch.unbroken c (List.mem_append_left right isLeft)
      · rcases List.mem_append.mp isLater with isKeyword | isRight
        · exact unbroken c isKeyword
        · exact isStretch.unbroken c (List.mem_append_right left isRight)
    refine ⟨left ++ (keyword ++ right), ⟨outer, beyond, ?_, inClause, isStretch.starts,
      isStretch.stops⟩, [], left, right, [], ?_, ⟨isStretch.unbroken, nofun, nofun⟩, undenied⟩
    · simp only [List.append_assoc]
    · rw [List.append_nil, List.nil_append]
  · rintro ⟨clause, ⟨before, after, rfl, inClause, starts, stops⟩, outer, left, right, beyond, rfl,
      isStretch, undenied⟩
    obtain ⟨rfl, rfl⟩ := isStretch.eq_nil fun c member => inClause c (by
      rcases List.mem_append.mp member with isOuter | isBeyond <;> simp [*])
    refine ⟨before, left, right, after, ?_, ⟨isStretch.unbroken, starts, stops⟩, undenied⟩
    simp only [List.append_assoc, List.nil_append]

/-- The marks that end a clause stand below the letters. -/
theorem toNat_lt_of_endsClause {c : Char} (marked : endsClause c = true) : c.toNat < 64 := by
  simp only [endsClause, Bool.or_eq_true, beq_iff_eq] at marked
  rcases marked with (((rfl | rfl) | rfl) | rfl) | rfl <;> decide

/-- A note in small letters affirms a keyword without a mark exactly if one of its clauses does. -/
theorem affirms_iff_some_clause (denial : Denial) {note keyword : String}
    (small : Text.lowered note = note) (unbroken : ∀ c ∈ keyword.toList, endsClause c = false) :
    affirms denial note keyword = true ↔
      ∃ clause ∈ clausesOf note, affirms denial clause keyword = true := by
  have stillUnbroken : ∀ c ∈ Text.lower keyword.toList, endsClause c = false := by
    intro c member
    by_contra marked
    rw [Bool.not_eq_false] at marked
    rw [unbroken c (Text.mem_of_mem_lower (toNat_lt_of_endsClause marked) member)] at marked
    cases marked
  have noteSmall : Text.lower note.toList = note.toList := by
    rw [← String.toList_ofList (l := Text.lower note.toList)]
    exact congrArg String.toList small
  unfold affirms clausesOf
  rw [noteSmall, affirmsFrom_iff_clause stillUnbroken]
  simp only [List.mem_map, exists_exists_and_eq_and, String.toList_ofList]
  refine exists_congr fun clause => and_congr_right fun member => ?_
  obtain ⟨before, after, isPiece⟩ := Text.mem_splitOnP_iff.mp member
  have isInfix : clause <:+: note.toList := ⟨before, after, by rw [isPiece.whole, List.append_assoc]⟩
  rw [Text.lower_eq_self_of_infix noteSmall isInfix]

/-- The second clause of a note affirms the timelock that the first one denies. -/
theorem timelock_affirmed_by_clause :
    Text.lowered "no timelock on deposit, but withdrawals use a timelock" =
        "no timelock on deposit, but withdrawals use a timelock" ∧
      (∀ c ∈ "timelock".toList, endsClause c = false) ∧
      ∃ clause ∈ clausesOf "no timelock on deposit, but withdrawals use a timelock",
        affirms ⟨["no"], ["not"], 3, ["non"]⟩ clause "timelock" = true := by
  have small : Text.lowered "no timelock on deposit, but withdrawals use a timelock" =
      "no timelock on deposit, but withdrawals use a timelock" := by decide +kernel
  have unbroken : ∀ c ∈ "timelock".toList, endsClause c = false := by simp [endsClause]
  exact ⟨small, unbroken, (affirms_iff_some_clause _ small unbroken).mp (by decide +kernel)⟩

end MoveAudit.Scoring
