/-
This file says what a knowledge base that was read from a document can be relied on for. Its
patterns are those of the document, no two of them have one identifier, and their points lie in
their ranges. A pattern is found under its identifier however that is written, also when another
pattern declares the identifier as an alias, and nothing but patterns of the document is found under
any name.
-/

import MoveAudit.Proofs.Knowledge.Accepted
import MoveAudit.Proofs.Text.Alike

namespace MoveAudit

open Json Record

/-! ### Points -/

namespace RiskPattern

/-- The points of a pattern lie in its range, and the range lies between 0 and 100. -/
structure IsInRange (pattern : RiskPattern) : Prop where
  start : 0 ≤ pattern.range.1
  above : pattern.range.1 ≤ pattern.points
  below : pattern.points ≤ pattern.range.2
  stop : pattern.range.2 ≤ 100

/-- Points that were settled lie in their range, whether they were given or are its middle. -/
theorem bounds_of_pointsIn {id : String} {low high points : Int} {given : Option Int}
    (settled : pointsIn id (low, high) given = .ok points) :
    0 ≤ low ∧ low ≤ points ∧ points ≤ high ∧ high ≤ 100 := by
  unfold pointsIn at settled
  dsimp only at settled
  split at settled
  · cases settled
  · next isRange =>
    have inOrder : (0 ≤ low ∧ low ≤ high) ∧ high ≤ 100 := by simpa using isRange
    cases given with
    | none =>
      cases settled
      rw [Int.fdiv_eq_ediv_of_nonneg _ (by decide)]
      omega
    | some number =>
      dsimp only at settled
      split at settled
      · next within =>
        cases settled
        have between : low ≤ points ∧ points ≤ high := by simpa using within
        omega
      · cases settled

theorem isInRange_of_check {value : Value} {pattern : RiskPattern}
    (fits : check value = .ok pattern) : pattern.IsInRange := by
  unfold check at fits
  obtain ⟨⟨given, read⟩, -, settled⟩ := Checked.andThen_eq_ok_iff.mp fits
  obtain ⟨points, isSettled, rfl⟩ := Checked.map_eq_ok_iff.mp settled
  obtain ⟨start, above, below, stop⟩ := bounds_of_pointsIn (rule_eq_ok_iff.mp isSettled)
  exact ⟨start, above, below, stop⟩

end RiskPattern

namespace KnowledgeBase

/-! ### Knowledge bases -/

/-- A knowledge base is what its document says, and lookups by name agree with it. -/
structure IsSound (base : KnowledgeBase) (document : Value) : Prop where
  listed : List.Forall₂ (fun item pattern => RiskPattern.check item = .ok pattern)
    (document.part "patterns").items base.patterns
  distinct : (base.patterns.map fun pattern => Text.raised (Text.trimmed pattern.id)).Nodup
  inRange : ∀ pattern ∈ base.patterns, pattern.IsInRange
  /-- Neither case nor blanks count, and no alias goes before an identifier. -/
  byId : ∀ pattern ∈ base.patterns, ∀ name, Text.IsAlike name pattern.id →
    base.get? name = some pattern
  known : ∀ name pattern, base.get? name = some pattern → pattern ∈ base.patterns
  points : ∀ name severity points, base.pointsFor name severity = (points, true) →
    0 ≤ points ∧ points ≤ 100

/-- Points that are known are those of the pattern that is found. -/
theorem exists_of_pointsFor {base : KnowledgeBase} {name : String} {severity : Severity}
    {points : Int} (known : base.pointsFor name severity = (points, true)) :
    ∃ pattern, base.get? name = some pattern ∧ pattern.points = points := by
  unfold pointsFor at known
  cases found : base.get? name with
  | none => simp [found] at known
  | some pattern =>
    rw [found] at known
    exact ⟨pattern, rfl, congrArg Prod.fst known⟩

/-- A knowledge base that was read from a document is sound. -/
theorem isSound_of_ofDocument {document : Value} {base : KnowledgeBase}
    (accepted : ofDocument document = .ok base) : base.IsSound document := by
  have distinct := hasDistinctIds_of_ofDocument accepted
  have plain : ∀ pattern ∈ base.patterns, Text.raised (Text.trimmed pattern.id) = pattern.id :=
    fun pattern member => hasPlainId_of_ofDocument accepted member
  have inRange (pattern : RiskPattern) (member : pattern ∈ base.patterns) : pattern.IsInRange := by
    obtain ⟨item, -, fits⟩ := exists_of_mem_list (list_check_of_ofDocument accepted) member
    exact RiskPattern.isInRange_of_check fits
  refine ⟨?_, ?_, inRange, ?_, fun name pattern => mem_of_get?_eq_some, ?_⟩
  · obtain ⟨items, isArray, fit⟩ := list_eq_ok_iff.mp (list_check_of_ofDocument accepted)
    rw [isArray]
    exact fit
  · rw [List.map_congr_left plain]
    exact distinct
  · intro pattern member name alike
    refine (get?_eq_some_iff distinct).mpr (.byId member ?_)
    rw [alike.raised_eq, plain pattern member]
  · intro name severity points known
    obtain ⟨pattern, found, rfl⟩ := exists_of_pointsFor known
    have fits := inRange pattern (mem_of_get?_eq_some found)
    exact ⟨Int.le_trans fits.start fits.above, Int.le_trans fits.below fits.stop⟩

/-- A document whose second pattern declares the identifier of the first as an alias. -/
def crossedDocument : Value :=
  .object [("patterns", .array [
    .object [("pattern_id", .string " a-1"), ("name", .string "First"),
      ("severity", .string "high"), ("base_score_range", .array [.int 20, .int 41])],
    .object [("pattern_id", .string "b-1"), ("name", .string "Second"),
      ("severity", .string "low"), ("base_score_range", .array [.int 0, .int 9]),
      ("base_score", .int 9), ("aliases", .array [.string "a-1"])]])]

/-- The knowledge base of the document. -/
def crossedBase : KnowledgeBase :=
  { version := .number 1
    patterns := [
      { id := "A-1", name := "First", severity := .high, range := (20, 41), points := 30 },
      { id := "B-1", name := "Second", severity := .low, range := (0, 9), points := 9,
        aliases := ["a-1"] }]
    scoring := {} }

theorem isSound_crossed :
    ofDocument crossedDocument = .ok crossedBase ∧ crossedBase.IsSound crossedDocument :=
  ⟨rfl, isSound_of_ofDocument rfl⟩

end KnowledgeBase

end MoveAudit
