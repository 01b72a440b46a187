/-
This file says what a review of findings changes. It settles the pattern, the severity and whether
the evidence is verified, and leaves everything else as it was. A finding stands for the pattern that
its name stood for, so it is worth the same as before, and a review of what was reviewed changes
nothing.
-/

import MoveAudit.Proofs.Knowledge.Accepted
import MoveAudit.Proofs.Scoring.Rules
import MoveAudit.Risk.Evidence

namespace MoveAudit.Evidence

open Move

variable {base : KnowledgeBase} {functions : List String} {code : String} {finding : Finding}
  {pattern : RiskPattern}

/-- Whether the evidence of a finding stands in the code. -/
def isProven (code : String) (finding : Finding) : Bool :=
  finding.hasEvidence && isInCode finding.snippet code

theorem finding_of_unknown (unknown : base.get? finding.patternId = none) :
    (reviewOne base functions code finding).finding =
      { finding with isVerified := isProven code finding } := by
  unfold reviewOne
  rw [unknown]
  rfl

theorem finding_of_known (known : base.get? finding.patternId = some pattern) :
    (reviewOne base functions code finding).finding =
      { finding with
        patternId := pattern.id, severity := pattern.severity,
        isVerified := isProven code finding } := by
  unfold reviewOne
  rw [known]
  rfl

theorem isVerified_reviewOne (base : KnowledgeBase) (functions : List String) (code : String)
    (finding : Finding) :
    (reviewOne base functions code finding).finding.isVerified = isProven code finding := by
  cases found : base.get? finding.patternId with
  | none => rw [finding_of_unknown found]
  | some pattern => rw [finding_of_known found]

/-- Every finding is reviewed by itself. -/
theorem exists_reviewed_eq_map (base : KnowledgeBase) (package : Package) :
    ∃ functions, ∀ findings, reviewed base package findings =
      findings.map fun finding =>
        (reviewOne base functions (allCode package.disassembly) finding).finding := by
  refine ⟨package.functions.map fun function => Text.lowered function.name, fun findings => ?_⟩
  unfold reviewed review
  rw [List.map_map]
  rfl

/-- What a review makes of a finding. -/
structure IsSettled (base : KnowledgeBase) (before after : Finding) : Prop where
  /-- Nothing but the pattern, the severity and the verdict on the evidence may change. -/
  others : after =
    { before with
      patternId := after.patternId, severity := after.severity, isVerified := after.isVerified }
  /-- A name that is known becomes the identifier of its pattern, with the severity of it. -/
  known : ∀ pattern, base.Names before.patternId pattern →
    after.patternId = pattern.id ∧ after.severity = pattern.severity
  unknown : (∀ pattern, ¬ base.Names before.patternId pattern) →
    after.patternId = before.patternId ∧ after.severity = before.severity
  points : base.pointsFor after.patternId after.severity =
    base.pointsFor before.patternId before.severity
  pausing : base.isPausing after.patternId = base.isPausing before.patternId

section Plain

variable (distinct : base.HasDistinctIds)
  (plain : ∀ pattern ∈ base.patterns, pattern.HasPlainId)
include distinct plain

theorem isSettled_reviewOne (functions : List String) (code : String) (finding : Finding) :
    IsSettled base finding (reviewOne base functions code finding).finding := by
  cases found : base.get? finding.patternId with
  | none =>
    rw [finding_of_unknown found]
    refine ⟨rfl, fun pattern names => ?_, fun _ => ⟨rfl, rfl⟩, rfl, rfl⟩
    rw [(KnowledgeBase.get?_eq_some_iff distinct).mpr names] at found
    cases found
  | some pattern =>
    have again := KnowledgeBase.get?_id_of_found distinct plain found
    have names := (KnowledgeBase.get?_eq_some_iff distinct).mp found
    rw [finding_of_known found]
    refine ⟨rfl, fun other namesToo => ?_, fun unnamed => absurd names (unnamed pattern), ?_, ?_⟩
    · rw [names.unique distinct namesToo]
      exact ⟨rfl, rfl⟩
    · unfold KnowledgeBase.pointsFor
      rw [again, found]
    · unfold KnowledgeBase.isPausing
      rw [again, found]

/-- A finding that was reviewed stays as it is. -/
theorem reviewOne_again (functions : List String) (code : String) (finding : Finding) :
    (reviewOne base functions code (reviewOne base functions code finding).finding).finding =
      (reviewOne base functions code finding).finding := by
  cases found : base.get? finding.patternId with
  | none =>
    rw [finding_of_unknown found]
    exact finding_of_unknown found
  | some pattern =>
    rw [finding_of_known found]
    exact finding_of_known (KnowledgeBase.get?_id_of_found distinct plain found)

/-- A finding of a known pattern has the severity of that pattern once it is reviewed. -/
theorem severity_eq_of_reviewed {package : Package} {findings : List Finding}
    (isReviewed : finding ∈ reviewed base package findings)
    (names : base.Names finding.patternId pattern) : finding.severity = pattern.severity := by
  obtain ⟨functions, each⟩ := exists_reviewed_eq_map base package
  rw [each] at isReviewed
  obtain ⟨original, -, rfl⟩ := List.mem_map.mp isReviewed
  have settled := isSettled_reviewOne distinct plain functions (allCode package.disassembly)
    (reviewOne base functions (allCode package.disassembly) original).finding
  rw [reviewOne_again distinct plain] at settled
  exact (settled.known pattern names).2

end Plain

/-- A review settles every finding in its place, and a further review changes nothing. -/
theorem review_settles {document : Json.Value}
    (accepted : KnowledgeBase.ofDocument document = .ok base) (package : Package)
    (findings : List Finding) :
    List.Forall₂ (IsSettled base) findings (reviewed base package findings) ∧
      reviewed base package (reviewed base package findings) =
        reviewed base package findings := by
  have distinct := KnowledgeBase.hasDistinctIds_of_ofDocument accepted
  have plain : ∀ pattern ∈ base.patterns, pattern.HasPlainId := fun pattern member =>
    KnowledgeBase.hasPlainId_of_ofDocument accepted member
  obtain ⟨functions, each⟩ := exists_reviewed_eq_map base package
  constructor
  · rw [each, List.forall₂_map_right_iff, List.forall₂_same]
    exact fun finding _ => isSettled_reviewOne distinct plain _ _ finding
  · rw [each, each, List.map_map]
    exact List.map_congr_left fun finding _ => reviewOne_again distinct plain _ _ finding

/-- A package whose module calls something with a capability. -/
def haltPackage : Package :=
  ⟨[], [], [("vault", .string "halt (cap)\nret")]⟩

/-- A halt that was reported under an alias and as critical, and a finding that quotes nothing and
claims that its evidence was verified. -/
def haltReported : List Finding :=
  [⟨"vault::halt", "", "Stop", .critical, ["Anyone."], "halt  (cap)", false⟩,
    ⟨"drain", "", "NEW", .critical, [], noEvidence, true⟩]

/-- The first becomes a finding of its pattern, with its evidence verified, and the second loses its
verdict. -/
theorem halt_reported_settles :
    reviewed Scoring.haltingBase haltPackage haltReported =
        [⟨"vault::halt", "", "HALT", .high, ["Anyone."], "halt  (cap)", true⟩,
          ⟨"drain", "", "NEW", .critical, [], noEvidence, false⟩] ∧
      List.Forall₂ (IsSettled Scoring.haltingBase) haltReported
        (reviewed Scoring.haltingBase haltPackage haltReported) ∧
      reviewed Scoring.haltingBase haltPackage
          (reviewed Scoring.haltingBase haltPackage haltReported) =
        reviewed Scoring.haltingBase haltPackage haltReported :=
  ⟨by decide +kernel, review_settles Scoring.ofDocument_halting haltPackage haltReported⟩

end MoveAudit.Evidence
