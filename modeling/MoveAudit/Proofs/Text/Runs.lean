/-
This file says what parts of a text a kind of character makes up or sets apart. The longest runs of
a kind are given by a relation that reads the text from the left, gap by gap and run by run, and
every text has exactly one list of them. The pieces between breaks are the parts without a break
that go on to a break, or to an end of the text, on both sides.
-/

import Mathlib.Data.List.Basic
import Mathlib.Data.List.DropRight

namespace MoveAudit.Text

/-! ### Runs -/

/-- The longest runs of characters of a kind, in order. A gap holds no such character, and a run
goes on until the text ends or a character of another kind follows. -/
inductive HasRuns (isOf : Char → Bool) : List Char → List (List Char) → Prop where
  | none {gap : List Char} (outside : ∀ c ∈ gap, isOf c = false) : HasRuns isOf gap []
  | run {gap word rest : List Char} {runs : List (List Char)}
      (outside : ∀ c ∈ gap, isOf c = false) (nonempty : word ≠ [])
      (inside : ∀ c ∈ word, isOf c = true) (stops : ∀ c ∈ rest.head?, isOf c = false)
      (others : HasRuns isOf rest runs) : HasRuns isOf (gap ++ (word ++ rest)) (word :: runs)

/-- What is left of a text that is split at all other characters, without the empty parts. -/
def runsOf (isOf : Char → Bool) (text : List Char) : List (List Char) :=
  (text.splitOnP fun c => !isOf c).filter (!·.isEmpty)

section Runs

variable {isOf : Char → Bool}

/-- No run goes across a character of another kind. -/
theorem runsOf_append_cons {c : Char} (outside : isOf c = false) (before after : List Char) :
    runsOf isOf (before ++ c :: after) = runsOf isOf before ++ runsOf isOf after := by
  unfold runsOf
  rw [List.splitOnP_append_cons before after (by rw [outside]; rfl), List.filter_append]

theorem runsOf_gap {gap : List Char} (outside : ∀ c ∈ gap, isOf c = false) (rest : List Char) :
    runsOf isOf (gap ++ rest) = runsOf isOf rest := by
  induction gap with
  | nil => rfl
  | cons c gap inductionHypothesis =>
    obtain ⟨here, later⟩ := List.forall_mem_cons.mp outside
    exact (runsOf_append_cons here [] (gap ++ rest)).trans (inductionHypothesis later)

theorem runsOf_run {word rest : List Char} (nonempty : word ≠ [])
    (inside : ∀ c ∈ word, isOf c = true) (stops : ∀ c ∈ rest.head?, isOf c = false) :
    runsOf isOf (word ++ rest) = word :: runsOf isOf rest := by
  have alone : runsOf isOf word = [word] := by
    unfold runsOf
    rw [List.splitOnP_eq_singleton fun c member => by rw [inside c member]; rfl]
    exact List.filter_eq_self.mpr (by simpa using nonempty)
  cases rest with
  | nil => rw [List.append_nil, alone]; rfl
  | cons c rest =>
    have outside : isOf c = false := stops c rfl
    have skips : runsOf isOf (c :: rest) = runsOf isOf rest := runsOf_append_cons outside [] rest
    rw [runsOf_append_cons outside, alone, skips, List.singleton_append]

/-- A run that begins the text. -/
theorem HasRuns.first {word rest : List Char} {runs : List (List Char)} (nonempty : word ≠ [])
    (inside : ∀ c ∈ word, isOf c = true) (stops : ∀ c ∈ rest.head?, isOf c = false)
    (others : HasRuns isOf rest runs) : HasRuns isOf (word ++ rest) (word :: runs) :=
  @HasRuns.run isOf [] word rest runs nofun nonempty inside stops others

theorem exists_hasRuns (isOf : Char → Bool) (text : List Char) :
    ∃ runs, HasRuns isOf text runs := by
  induction text with
  | nil => exact ⟨[], .none nofun⟩
  | cons c text inductionHypothesis =>
    obtain ⟨runs, hasRuns⟩ := inductionHypothesis
    cases kind : isOf c with
    | false =>
      -- The character widens the first gap.
      cases hasRuns with
      | none outside => exact ⟨[], .none (List.forall_mem_cons.mpr ⟨kind, outside⟩)⟩
      | @run gap word rest runs outside nonempty inside stops others =>
        have wider : ∀ d ∈ c :: gap, isOf d = false := List.forall_mem_cons.mpr ⟨kind, outside⟩
        exact ⟨word :: runs, .run wider nonempty inside stops others⟩
    | true =>
      have alone : ∀ d ∈ [c], isOf d = true := List.forall_mem_singleton.mpr kind
      cases hasRuns with
      | none outside =>
        have stops : ∀ d ∈ text.head?, isOf d = false := fun d isHead =>
          outside d (List.mem_of_head? isHead)
        exact ⟨[[c]], .first (List.cons_ne_nil c []) alone stops (.none outside)⟩
      | @run gap word rest runs outside nonempty inside stops others =>
        cases gap with
        | nil =>
          -- The character lengthens the first run.
          have longer : ∀ d ∈ c :: word, isOf d = true := List.forall_mem_cons.mpr ⟨kind, inside⟩
          exact ⟨(c :: word) :: runs, .first (List.cons_ne_nil c word) longer stops others⟩
        | cons other gap =>
          have ends : ∀ d ∈ (other :: gap ++ (word ++ rest)).head?, isOf d = false := by
            intro d isHead
            cases isHead
            exact outside other List.mem_cons_self
          exact ⟨[c] :: word :: runs, .first (List.cons_ne_nil c []) alone ends
            (.run outside nonempty inside stops others)⟩

theorem HasRuns.eq_runsOf {text : List Char} {runs : List (List Char)}
    (hasRuns : HasRuns isOf text runs) : runs = runsOf isOf text := by
  induction hasRuns with
  | @none gap outside => rw [← List.append_nil gap, runsOf_gap outside]; rfl
  | run outside nonempty inside stops others inductionHypothesis =>
    rw [runsOf_gap outside, runsOf_run nonempty inside stops, ← inductionHypothesis]

/-- Every text has exactly one list of runs, which is split off it. -/
theorem hasRuns_iff {text : List Char} {runs : List (List Char)} :
    HasRuns isOf text runs ↔ runs = runsOf isOf text := by
  refine ⟨HasRuns.eq_runsOf, ?_⟩
  rintro rfl
  obtain ⟨runs, hasRuns⟩ := exists_hasRuns isOf text
  exact hasRuns.eq_runsOf ▸ hasRuns

end Runs

/-! ### Pieces -/

/-- A part of a text between two breaks, or between a break and an end of the text. -/
structure IsPiece (isBreak : Char → Bool) (text before piece after : List Char) : Prop where
  whole : text = before ++ (piece ++ after)
  unbroken : ∀ c ∈ piece, isBreak c = false
  starts : ∀ c ∈ before.getLast?, isBreak c = true
  stops : ∀ c ∈ after.head?, isBreak c = true

section Pieces

variable {isBreak : Char → Bool}

/-- Every text begins with what stands before its first break. -/
theorem exists_first_piece (isBreak : Char → Bool) (text : List Char) :
    ∃ piece after, text = piece ++ after ∧ (∀ c ∈ piece, isBreak c = false) ∧
      ∀ c ∈ after.head?, isBreak c = true := by
  refine ⟨_, _, (List.takeWhile_append_dropWhile (p := (!isBreak ·))).symm, ?_, ?_⟩
  · intro c member
    simpa using List.mem_takeWhile_imp member
  · intro c isHead
    have stops := List.head?_dropWhile_not (!isBreak ·) text
    rw [isHead] at stops
    simpa using stops

/-- Every text ends with what stands after its last break. -/
theorem exists_last_piece (isBreak : Char → Bool) (text : List Char) :
    ∃ before piece, text = before ++ piece ∧ (∀ c ∈ piece, isBreak c = false) ∧
      ∀ c ∈ before.getLast?, isBreak c = true := by
  refine ⟨_, _, (List.rdropWhile_append_rtakeWhile (p := (!isBreak ·))).symm, ?_, ?_⟩
  · intro c member
    simpa using List.mem_rtakeWhile_imp member
  · intro c isLast
    rw [List.rdropWhile, List.getLast?_reverse] at isLast
    have stops := List.head?_dropWhile_not (!isBreak ·) text.reverse
    rw [isLast] at stops
    simpa using stops

theorem IsPiece.mem_splitOnP {text before piece after : List Char}
    (isPiece : IsPiece isBreak text before piece after) : piece ∈ text.splitOnP isBreak := by
  obtain ⟨rfl, unbroken, starts, stops⟩ := isPiece
  have first : piece ∈ (piece ++ after).splitOnP isBreak := by
    cases after with
    | nil =>
      rw [List.append_nil, List.splitOnP_eq_singleton unbroken]
      exact List.mem_singleton_self piece
    | cons c after =>
      rw [List.splitOnP_append_cons_of_forall_mem unbroken c (stops c rfl)]
      exact List.mem_cons_self
  rcases List.eq_nil_or_concat' before with rfl | ⟨earlier, c, rfl⟩
  · exact first
  · have ends : isBreak c = true := starts c List.getLast?_concat
    rw [List.append_assoc, List.singleton_append, List.splitOnP_append_cons _ _ ends]
    exact List.mem_append_right _ first

/-- The text is read from the left; `start` is what has been read of a piece. -/
theorem exists_isPiece_of_start {start text piece : List Char}
    (unbroken : ∀ c ∈ start, isBreak c = false)
    (member : piece ∈ (start ++ text).splitOnP isBreak) :
    ∃ before after, IsPiece isBreak (start ++ text) before piece after := by
  induction text generalizing start with
  | nil =>
    rw [List.append_nil] at member ⊢
    rw [List.splitOnP_eq_singleton unbroken] at member
    cases List.mem_singleton.mp member
    exact ⟨[], [], (List.append_nil _).symm, unbroken, nofun, nofun⟩
  | cons c text inductionHypothesis =>
    cases kind : isBreak c with
    | false =>
      rw [List.append_cons] at member ⊢
      exact inductionHypothesis (by simpa [or_imp, forall_and, kind] using unbroken) member
    | true =>
      rw [List.splitOnP_append_cons_of_forall_mem unbroken c kind] at member
      rcases List.mem_cons.mp member with rfl | later
      · refine ⟨[], c :: text, rfl, unbroken, nofun, fun d isHead => ?_⟩
        cases isHead
        exact kind
      · obtain ⟨before, after, whole, inside, starts, stops⟩ :=
          @inductionHypothesis [] nofun later
        rw [List.nil_append] at whole
        refine ⟨start ++ c :: before, after, ?_, inside, fun d isLast => ?_, stops⟩
        · rw [whole, List.append_assoc, List.cons_append]
        · rw [List.getLast?_append_cons] at isLast
          cases before with
          | nil =>
            cases isLast
            exact kind
          | cons first before => exact starts d (by simpa using isLast)

/-- The pieces of a text that is split at its breaks are its parts from one break to the next. -/
theorem mem_splitOnP_iff {text piece : List Char} :
    piece ∈ text.splitOnP isBreak ↔ ∃ before after, IsPiece isBreak text before piece after :=
  ⟨@exists_isPiece_of_start isBreak [] text piece nofun,
    fun ⟨_, _, isPiece⟩ => isPiece.mem_splitOnP⟩

end Pieces

end MoveAudit.Text
