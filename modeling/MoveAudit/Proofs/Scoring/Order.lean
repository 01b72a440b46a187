/-
This file proves that a score does not depend on the order in which things are told. All that a
score takes from a finding is its share: its points, its severity, whether it is of a pausing
pattern, and what its notes say for or against it. Notes matter to a share only by what is among
them, and shares matter to a score only by their sum and by how many of a kind there are. Two
different places for a pausing finding and a severe one are a matter of numbers too: there is one of
each, and there are two findings that are one or the other.
-/

import Mathlib.Algebra.BigOperators.Group.List.Basic
import Mathlib.Tactic.Tauto
import MoveAudit.Proofs.Scoring.Rules

namespace MoveAudit.Scoring

/-! ### Telling findings again -/

/-- A finding told again differs at most in its notes, and the same notes are among them. -/
inductive IsRetold (finding : Finding) : Finding → Prop where
  | of {notes : List String} (same : ∀ note, note ∈ notes ↔ note ∈ finding.notes) :
    IsRetold finding { finding with notes := notes }

/-- Findings told again come in any order, each with its notes in any order and any number. -/
def AreRetold (findings retold : List Finding) : Prop :=
  ∃ ordered, findings.Perm ordered ∧ List.Forall₂ IsRetold ordered retold

/-- Two breakdowns differ at most in the contributions that they list. -/
structure Breakdown.Agrees (first second : Breakdown) : Prop where
  sum : first.sum = second.sum
  effects : first.effects = second.effects
  total : first.total = second.total
  score : first.score = second.score
  certainty : first.certainty = second.certainty
  reason : first.reason = second.reason

/-! ### Shares -/

/-- What a score takes from a finding. -/
structure Share where
  points : Int
  severity : Severity
  isPausing : Bool
  isMitigated : Bool
  isComplex : Bool

/-- The share of a finding. -/
def shareOf (base : KnowledgeBase) (finding : Finding) : Share where
  points := (contributionOf base finding).total
  severity := finding.severity
  isPausing := base.isPausing finding.patternId
  isMitigated := (contributionOf base finding).isMitigated
  isComplex := (contributionOf base finding).isComplex

section Retold

variable {finding retold : Finding}

theorem IsRetold.applies_iff {scoring : ScoringRules} {rule : KeywordRule}
    (isRetold : IsRetold finding retold) :
    Applies scoring rule retold ↔ Applies scoring rule finding := by
  cases isRetold with
  | of same => simp only [Applies, same]

theorem IsRetold.isMarked_iff {scoring : ScoringRules} {name : String}
    (isRetold : IsRetold finding retold) :
    IsMarked scoring name retold ↔ IsMarked scoring name finding := by
  simp only [IsMarked, isRetold.applies_iff]

theorem IsRetold.shareOf_eq (base : KnowledgeBase) (isRetold : IsRetold finding retold) :
    shareOf base retold = shareOf base finding := by
  have hasRule (name : String) : (contributionOf base retold).hasRule name =
      (contributionOf base finding).hasRule name := by
    rw [Bool.eq_iff_iff, hasRule_contributionOf, hasRule_contributionOf, isRetold.isMarked_iff]
  have points : (contributionOf base retold).total = (contributionOf base finding).total := by
    rw [total_contributionOf, total_contributionOf]
    simp only [isRetold.applies_iff]
    cases isRetold with
    | of same => rfl
  unfold shareOf Contribution.isMitigated Contribution.isComplex
  rw [points, hasRule, hasRule]
  cases isRetold with
  | of same => rfl

end Retold

/-- Findings with the same shares, in any order. -/
def AreAlike (base : KnowledgeBase) (first second : List Finding) : Prop :=
  (first.map (shareOf base)).Perm (second.map (shareOf base))

theorem AreRetold.areAlike (base : KnowledgeBase) {findings retold : List Finding}
    (areRetold : AreRetold findings retold) : AreAlike base findings retold := by
  obtain ⟨ordered, perm, each⟩ := areRetold
  have sameShares : ordered.map (shareOf base) = retold.map (shareOf base) := by
    clear perm
    induction each with
    | nil => rfl
    | cons isRetold _ inductionHypothesis =>
      rw [List.map_cons, List.map_cons, isRetold.shareOf_eq base, inductionHypothesis]
  unfold AreAlike
  rw [← sameShares]
  exact perm.map (shareOf base)

/-! ### Numbers of findings -/

/-- Two different places are told by numbers: there is a pausing finding and a severe one, and two
that are pausing or severe. -/
theorem pausesBesideSevere_iff_countP {isPausing : Finding → Bool} {findings : List Finding} :
    pausesBesideSevere isPausing findings = true ↔
      0 < findings.countP isPausing ∧ 0 < findings.countP (·.severity.isSevere) ∧
        1 < findings.countP fun finding => isPausing finding || finding.severity.isSevere := by
  induction findings with
  | nil => simp [pausesBesideSevere]
  | cons first rest inductionHypothesis =>
    have any (isSuch : Finding → Bool) : rest.any isSuch = true ↔ 0 < rest.countP isSuch := by
      rw [List.any_eq_true, List.countP_pos_iff]
    have either : 0 < rest.countP (fun finding => isPausing finding || finding.severity.isSevere) ↔
        0 < rest.countP isPausing ∨ 0 < rest.countP (·.severity.isSevere) := by
      simp only [List.countP_pos_iff, Bool.or_eq_true, and_or_left, exists_or]
    unfold pausesBesideSevere
    rw [Bool.or_eq_true, Bool.or_eq_true, Bool.and_eq_true, Bool.and_eq_true, any, any,
      inductionHypothesis, List.countP_cons, List.countP_cons, List.countP_cons]
    clear inductionHypothesis any
    cases isPausing first <;> cases first.severity.isSevere <;>
      simp only [if_true, if_false, Bool.false_eq_true, Bool.or_false, Bool.or_true, true_and,
        false_and, false_or, or_false, Nat.add_zero] <;> omega

section Alike

variable {base : KnowledgeBase} {first second : List Finding}

theorem AreAlike.countP_eq (alike : AreAlike base first second) (isSuch : Share → Bool) :
    first.countP (isSuch ∘ shareOf base) = second.countP (isSuch ∘ shareOf base) := by
  rw [← List.countP_map, ← List.countP_map]
  exact List.Perm.countP_eq isSuch alike

theorem AreAlike.any_eq (alike : AreAlike base first second) (isSuch : Share → Bool) :
    first.any (isSuch ∘ shareOf base) = second.any (isSuch ∘ shareOf base) := by
  rw [← List.any_map, ← List.any_map]
  exact List.Perm.any_eq alike

theorem AreAlike.all_eq (alike : AreAlike base first second) (isSuch : Share → Bool) :
    first.all (isSuch ∘ shareOf base) = second.all (isSuch ∘ shareOf base) := by
  rw [← List.all_map, ← List.all_map]
  exact List.Perm.all_eq alike

theorem AreAlike.sum_eq (alike : AreAlike base first second) :
    (breakdown base first).sum = (breakdown base second).sum := by
  have sum (findings : List Finding) : (breakdown base findings).sum =
      ((findings.map (shareOf base)).map (·.points)).sum := by
    rw [List.map_map]
    exact sum_breakdown base findings
  rw [sum, sum]
  exact (List.Perm.map (·.points) alike).sum_eq

theorem AreAlike.countOf_eq (alike : AreAlike base first second) (severity : Severity) :
    countOf severity (first.map (contributionOf base)) =
      countOf severity (second.map (contributionOf base)) := by
  rw [countOf_contributions, countOf_contributions]
  exact alike.countP_eq fun share => share.severity = severity

theorem AreAlike.clusterEffect?_eq (alike : AreAlike base first second)
    (rules : CombinationRules) : clusterEffect? rules (first.map (contributionOf base)) =
      clusterEffect? rules (second.map (contributionOf base)) := by
  unfold clusterEffect?
  rw [alike.countOf_eq, alike.countOf_eq]

theorem AreAlike.pauseEffect?_eq (alike : AreAlike base first second) :
    pauseEffect? base first = pauseEffect? base second := by
  have pauses : pausesBesideSevere (fun finding => base.isPausing finding.patternId) first =
      pausesBesideSevere (fun finding => base.isPausing finding.patternId) second := by
    rw [Bool.eq_iff_iff, pausesBesideSevere_iff_countP, pausesBesideSevere_iff_countP]
    have pausing := alike.countP_eq (·.isPausing)
    have severe := alike.countP_eq (·.severity.isSevere)
    have either := alike.countP_eq fun share => share.isPausing || share.severity.isSevere
    exact and_congr (iff_of_eq (congrArg _ pausing)) (and_congr (iff_of_eq (congrArg _ severe))
      (iff_of_eq (congrArg _ either)))
  unfold pauseEffect?
  rw [pauses]

theorem AreAlike.certaintyOf_eq (alike : AreAlike base first second) (rules : CertaintyRules)
    (score : Int) : certaintyOf rules (first.map (contributionOf base)) score =
      certaintyOf rules (second.map (contributionOf base)) score := by
  have severe : (first.map (contributionOf base)).any (·.finding.severity.isSevere) =
      (second.map (contributionOf base)).any (·.finding.severity.isSevere) := by
    rw [List.any_map, List.any_map]
    exact alike.any_eq (·.severity.isSevere)
  have weakened : ((first.map (contributionOf base)).any fun c => c.isComplex || c.isMitigated) =
      (second.map (contributionOf base)).any fun c => c.isComplex || c.isMitigated := by
    rw [List.any_map, List.any_map]
    exact alike.any_eq fun share => share.isComplex || share.isMitigated
  have harmless : ((first.map (contributionOf base)).all fun c =>
      c.finding.severity == .low || c.isMitigated) =
      (second.map (contributionOf base)).all fun c =>
        c.finding.severity == .low || c.isMitigated := by
    rw [List.all_map, List.all_map]
    exact alike.all_eq fun share => share.severity == .low || share.isMitigated
  unfold certaintyOf
  rw [severe, weakened, harmless]

/-- A score is made of nothing but shares. -/
theorem AreAlike.agrees (alike : AreAlike base first second) :
    (breakdown base first).Agrees (breakdown base second) := by
  have effects : (breakdown base first).effects = (breakdown base second).effects := by
    show (massEffect? _ (breakdown base first).sum).toList ++ _ ++ _ =
      (massEffect? _ (breakdown base second).sum).toList ++ _ ++ _
    rw [alike.sum_eq, alike.clusterEffect?_eq, alike.pauseEffect?_eq]
  have total : (breakdown base first).total = (breakdown base second).total := by
    show (breakdown base first).sum + sumOf ((breakdown base first).effects.map (·.bonus)) =
      (breakdown base second).sum + sumOf ((breakdown base second).effects.map (·.bonus))
    rw [alike.sum_eq, effects]
  have score : (breakdown base first).score = (breakdown base second).score := by
    rw [score_breakdown, score_breakdown, total]
  have judged : ((breakdown base first).certainty, (breakdown base first).reason) =
      ((breakdown base second).certainty, (breakdown base second).reason) := by
    rw [judged_breakdown, judged_breakdown, score, alike.certaintyOf_eq]
  obtain ⟨certainty, reason⟩ := Prod.mk.inj judged
  exact ⟨alike.sum_eq, effects, total, score, certainty, reason⟩

end Alike

/-! ### Findings told again -/

/-- Breakdowns that agree are both told, or there is none for the same reason. -/
theorem account_of_agrees {base : KnowledgeBase} {first second : List Finding}
    (agrees : (breakdown base first).Agrees (breakdown base second)) :
    (∃ fault, account base first = .error fault ∧ account base second = .error fault) ∨
      account base first = .ok (breakdown base first) ∧
        account base second = .ok (breakdown base second) := by
  have inRange : (breakdown base first).isInRange = (breakdown base second).isInRange := by
    unfold Breakdown.isInRange
    rw [agrees.total]
  unfold account
  dsimp only
  rw [agrees.sum, inRange]
  cases isMassTold base.scoring.combinations (breakdown base second).sum with
  | false => exact .inl ⟨_, rfl, rfl⟩
  | true =>
    cases (breakdown base second).isInRange with
    | false => exact .inl ⟨_, rfl, rfl⟩
    | true => exact .inr ⟨rfl, rfl⟩

/-- Findings that are told again get the same score for the same reasons, or both get none for the
same reason, and whenever their total is an exact binary64 number, both scores are in range. -/
theorem retold_findings_agree (base : KnowledgeBase) {findings retold : List Finding}
    (areRetold : AreRetold findings retold) :
    (breakdown base findings).Agrees (breakdown base retold) ∧
      ((breakdown base findings).total.natAbs < 2 ^ 53 →
        (breakdown base findings).isInRange = true ∧ (breakdown base retold).isInRange = true) ∧
      ((∃ fault, account base findings = .error fault ∧ account base retold = .error fault) ∨
        account base findings = .ok (breakdown base findings) ∧
          account base retold = .ok (breakdown base retold)) := by
  have agrees := (areRetold.areAlike base).agrees
  refine ⟨agrees, fun bounded => ⟨isInRange_of_short bounded, isInRange_of_short ?_⟩,
    account_of_agrees agrees⟩
  rwa [← agrees.total]

/-- A halt behind a timelock, under an alias of its pattern, and a drain of an unknown pattern. -/
def haltTold : List Finding :=
  [⟨"pause", "", "Stop", .high, ["Behind a timelock.", "Owner only."], "", true⟩,
    ⟨"drain", "", "NEW", .critical, ["There is no timelock."], "", true⟩]

/-- The drain comes first, and the notes of the halt in another order, one of them twice. -/
def haltRetold : List Finding :=
  [⟨"drain", "", "NEW", .critical, ["There is no timelock."], "", true⟩,
    ⟨"pause", "", "Stop", .high, ["Owner only.", "Behind a timelock.", "Owner only."], "", true⟩]

theorem areRetold_halt : AreRetold haltTold haltRetold := by
  refine ⟨_, List.Perm.swap _ _ [], .cons (.of fun note => Iff.rfl) (.cons (.of fun note => ?_) .nil)⟩
  simp only [List.mem_cons, List.not_mem_nil, or_false]
  tauto

/-- Told either way, the halt and the drain score 55. -/
theorem halt_told_again_agrees :
    AreRetold haltTold haltRetold ∧ (breakdown haltingBase haltTold).total.natAbs < 2 ^ 53 ∧
      (breakdown haltingBase haltTold).Agrees (breakdown haltingBase haltRetold) ∧
      (breakdown haltingBase haltTold).isInRange = true ∧
      (breakdown haltingBase haltRetold).isInRange = true := by
  have bounded : (breakdown haltingBase haltTold).total.natAbs < 2 ^ 53 := by decide +kernel
  obtain ⟨agrees, inRange, _⟩ := retold_findings_agree haltingBase areRetold_halt
  exact ⟨areRetold_halt, bounded, agrees, inRange bounded⟩

end MoveAudit.Scoring
