/-
This file proves that findings are scored by the rules of the knowledge base. The rules are said
here without regard to how a score is computed: what a finding starts from and what each keyword
rule changes, which bonuses are added to the sum, between which bounds the score lies, and when it
is certain. Nothing is lost to rounding, since a total is brought between the bounds afterwards:
small totals are exact, and what lies beyond a bound stays beyond it. But a bonus for the critical
mass is told with the numbers that were compared, and where one of those cannot be spelled, there is
no score at all.
-/

import MoveAudit.Knowledge.Bundled
import MoveAudit.Proofs.Knowledge.Lookup
import MoveAudit.Proofs.Number.Rounding
import MoveAudit.Scoring.Score

namespace MoveAudit.Scoring

/-! ### The rules -/

/-- A keyword rule applies to a finding of one of its severities when some note of the finding
affirms some keyword of the rule. -/
def Applies (scoring : ScoringRules) (rule : KeywordRule) (finding : Finding) : Prop :=
  finding.severity ∈ rule.severities ∧ ∃ note ∈ finding.notes, ∃ keyword ∈ rule.keywords,
    affirms (denialOf scoring) note keyword = true

instance (scoring : ScoringRules) (rule : KeywordRule) (finding : Finding) :
    Decidable (Applies scoring rule finding) :=
  inferInstanceAs (Decidable (_ ∧ ∃ note ∈ finding.notes, ∃ keyword ∈ rule.keywords, _ = true))

/-- Some rule of a name applies to a finding. -/
def IsMarked (scoring : ScoringRules) (name : String) (finding : Finding) : Prop :=
  ∃ rule ∈ scoring.rules, rule.name = name ∧ Applies scoring rule finding

/-- The points that a finding starts from: those of its pattern, or else those of its severity. -/
inductive StartsFrom (base : KnowledgeBase) (finding : Finding) : Int → Prop where
  | known {pattern : RiskPattern} (names : base.Names finding.patternId pattern) :
    StartsFrom base finding pattern.points
  | unknown (unnamed : ∀ pattern, ¬ base.Names finding.patternId pattern) :
    StartsFrom base finding ((Entries.get? base.scoring.points finding.severity).getD 0)

/-- A contribution is that of a finding: what it starts from, with the delta of each rule that
applies, once. -/
def IsContributionOf (base : KnowledgeBase) (finding : Finding) (contribution : Contribution) :
    Prop :=
  contribution.finding = finding ∧ ∃ points, StartsFrom base finding points ∧
    contribution.total = points + (base.scoring.rules.map fun rule =>
      if Applies base.scoring rule finding then rule.delta else 0).sum

/-- There are enough findings of high severity, and none of critical severity. -/
def IsCluster (rules : CombinationRules) (findings : List Finding) : Prop :=
  rules.clusterMinimum ≤ (findings.countP (·.severity = .high) : Int) ∧
    ∀ finding ∈ findings, finding.severity ≠ .critical

/-- A finding of a pausing pattern and a severe finding stand at two different places. -/
def PausesBesideSevere (base : KnowledgeBase) (findings : List Finding) : Prop :=
  ∃ (i j : Nat) (pausing severe : Finding), i ≠ j ∧ findings[i]? = some pausing ∧
    findings[j]? = some severe ∧
    (∃ pattern, base.Names pausing.patternId pattern ∧ pattern.isPausing = true) ∧
    (severe.severity = .critical ∨ severe.severity = .high)

/-- A score is certain: it is high, some finding is severe and nothing weakens any, or it is low and
every finding is of low severity or mitigated. -/
def IsCertain (scoring : ScoringRules) (findings : List Finding) (score : Int) : Prop :=
  (scoring.certainty.highFrom ≤ score ∧
      (∃ finding ∈ findings, finding.severity = .critical ∨ finding.severity = .high) ∧
      ∀ finding ∈ findings, ¬ IsMarked scoring "mitigation" finding ∧
        ¬ IsMarked scoring "complex_logic" finding) ∨
    (score < scoring.certainty.lowBelow ∧
      ∀ finding ∈ findings, finding.severity = .low ∨ IsMarked scoring "mitigation" finding)

open Classical in
/-- A breakdown follows the rules. -/
structure Breakdown.FollowsRules (base : KnowledgeBase) (findings : List Finding)
    (result : Breakdown) : Prop where
  contributions : List.Forall₂ (IsContributionOf base) findings result.contributions
  sum : result.sum = (result.contributions.map (·.total)).sum
  total : result.total = result.sum +
    (if base.scoring.combinations.massThreshold ≤ result.sum
      then base.scoring.combinations.massBonus else 0) +
    (if IsCluster base.scoring.combinations findings
      then base.scoring.combinations.clusterBonus else 0) +
    (if PausesBesideSevere base findings then base.scoring.combinations.pauseBonus else 0)
  score : result.score = max 0 (min 100 result.total)
  bounds : 0 ≤ result.score ∧ result.score ≤ 100
  certain : result.certainty = .high ↔ IsCertain base.scoring findings result.score
  uncertain : result.certainty = .medium ↔ ¬ IsCertain base.scoring findings result.score

/-! ### Contributions -/

theorem sumOf_eq_sum (points : List Int) : sumOf points = points.sum := rfl

theorem isSome_noteFor? (scoring : ScoringRules) (rule : KeywordRule) (finding : Finding) :
    (noteFor? scoring rule finding).isSome = true ↔ Applies scoring rule finding := by
  unfold noteFor? Applies
  split
  · next covered =>
    have member : finding.severity ∈ rule.severities := List.contains_iff_mem.mp covered
    rw [List.find?_isSome]
    simp only [List.any_eq_true, member, true_and]
  · next uncovered =>
    have notMember : finding.severity ∉ rule.severities :=
      fun member => uncovered (List.contains_iff_mem.mpr member)
    simp [notMember]

theorem sum_appliedTo (scoring : ScoringRules) (finding : Finding) :
    ((appliedTo scoring finding).map (·.delta)).sum =
      (scoring.rules.map fun rule =>
        if Applies scoring rule finding then rule.delta else 0).sum := by
  unfold appliedTo
  induction scoring.rules with
  | nil => rfl
  | cons rule rest inductionHypothesis =>
    rw [List.filterMap_cons, List.map_cons, List.sum_cons, ← inductionHypothesis]
    have applies := isSome_noteFor? scoring rule finding
    cases found : noteFor? scoring rule finding with
    | none =>
      rw [found] at applies
      rw [if_neg fun holds => Bool.false_ne_true (applies.mpr holds), Option.map_none, Int.zero_add]
    | some note =>
      rw [found] at applies
      rw [if_pos (applies.mp rfl), Option.map_some, List.map_cons, List.sum_cons]

theorem total_contributionOf (base : KnowledgeBase) (finding : Finding) :
    (contributionOf base finding).total =
      (base.pointsFor finding.patternId finding.severity).1 + (base.scoring.rules.map fun rule =>
        if Applies base.scoring rule finding then rule.delta else 0).sum := by
  rw [← sum_appliedTo]
  rfl

theorem hasRule_contributionOf (base : KnowledgeBase) (finding : Finding) (name : String) :
    (contributionOf base finding).hasRule name = true ↔ IsMarked base.scoring name finding := by
  show (appliedTo base.scoring finding).any (·.rule == name) = true ↔ _
  unfold appliedTo IsMarked
  rw [List.any_filterMap, List.any_eq_true]
  refine exists_congr fun rule => and_congr_right fun _ => ?_
  have applies := isSome_noteFor? base.scoring rule finding
  cases found : noteFor? base.scoring rule finding with
  | none =>
    rw [found] at applies
    have notApplies : ¬ Applies base.scoring rule finding :=
      fun holds => Bool.false_ne_true (applies.mpr holds)
    simp [notApplies]
  | some note =>
    rw [found] at applies
    simp [applies.mp rfl]

theorem startsFrom_pointsFor {base : KnowledgeBase} (distinct : base.HasDistinctIds)
    (finding : Finding) :
    StartsFrom base finding (base.pointsFor finding.patternId finding.severity).1 := by
  unfold KnowledgeBase.pointsFor
  cases found : base.get? finding.patternId with
  | some pattern => exact .known ((KnowledgeBase.get?_eq_some_iff distinct).mp found)
  | none =>
    refine .unknown fun pattern names => ?_
    rw [(KnowledgeBase.get?_eq_some_iff distinct).mpr names] at found
    cases found

/-- What a finding is taken to contribute is its contribution by the rules. -/
theorem isContributionOf_contributionOf {base : KnowledgeBase} (distinct : base.HasDistinctIds)
    (finding : Finding) : IsContributionOf base finding (contributionOf base finding) := by
  refine ⟨rfl, _, startsFrom_pointsFor distinct finding, ?_⟩
  rw [← sum_appliedTo]
  rfl

/-! ### Combinations -/

theorem isSevere_iff {severity : Severity} :
    severity.isSevere = true ↔ severity = .critical ∨ severity = .high := by
  cases severity <;> simp [Severity.isSevere]

/-- Two different places are the first one and a later one, either way round, or both later. -/
theorem pausesBesideSevere_iff {isPausing : Finding → Bool} {findings : List Finding} :
    pausesBesideSevere isPausing findings = true ↔
      ∃ (i j : Nat) (pausing severe : Finding), i ≠ j ∧ findings[i]? = some pausing ∧
        findings[j]? = some severe ∧ isPausing pausing = true ∧
        severe.severity.isSevere = true := by
  induction findings with
  | nil => simp [pausesBesideSevere]
  | cons first rest inductionHypothesis =>
    unfold pausesBesideSevere
    rw [Bool.or_eq_true, Bool.or_eq_true, Bool.and_eq_true, Bool.and_eq_true, List.any_eq_true,
      List.any_eq_true, inductionHypothesis]
    constructor
    · rintro ((⟨pauses, severe, member, isSevere⟩ | ⟨isSevere, pausing, member, pauses⟩) |
        ⟨i, j, pausing, severe, differ, isPausing, isSevere, holds⟩)
      · obtain ⟨j, found⟩ := List.mem_iff_getElem?.mp member
        exact ⟨0, j + 1, first, severe, by omega, rfl, found, pauses, isSevere⟩
      · obtain ⟨i, found⟩ := List.mem_iff_getElem?.mp member
        exact ⟨i + 1, 0, pausing, first, by omega, found, rfl, pauses, isSevere⟩
      · exact ⟨i + 1, j + 1, pausing, severe, by omega, isPausing, isSevere, holds⟩
    · rintro ⟨i, j, pausing, severe, differ, isPausing, isSevere, pauses, holds⟩
      cases i with
      | zero =>
        cases j with
        | zero => exact absurd rfl differ
        | succ j =>
          cases isPausing
          exact Or.inl (Or.inl ⟨pauses, severe, List.mem_of_getElem? isSevere, holds⟩)
      | succ i =>
        cases j with
        | zero =>
          cases isSevere
          exact Or.inl (Or.inr ⟨holds, pausing, List.mem_of_getElem? isPausing, pauses⟩)
        | succ j =>
          exact Or.inr ⟨i, j, pausing, severe, by omega, isPausing, isSevere, pauses, holds⟩

theorem isPausing_iff {base : KnowledgeBase} (distinct : base.HasDistinctIds) {name : String} :
    base.isPausing name = true ↔ ∃ pattern, base.Names name pattern ∧ pattern.isPausing = true := by
  unfold KnowledgeBase.isPausing
  rw [Option.any_eq_true]
  simp only [KnowledgeBase.get?_eq_some_iff distinct]

theorem pausesBesideSevere_base_iff {base : KnowledgeBase} (distinct : base.HasDistinctIds)
    (findings : List Finding) :
    pausesBesideSevere (fun finding => base.isPausing finding.patternId) findings = true ↔
      PausesBesideSevere base findings := by
  rw [pausesBesideSevere_iff]
  simp only [isPausing_iff distinct, isSevere_iff]
  rfl

theorem countOf_contributions (base : KnowledgeBase) (severity : Severity)
    (findings : List Finding) :
    countOf severity (findings.map (contributionOf base)) =
      findings.countP (·.severity = severity) := by
  unfold countOf
  rw [← List.countP_eq_length_filter, List.countP_map]
  rfl

/-- The points that an effect adds, if there is one. -/
def bonusOf (effect? : Option Effect) : Int :=
  (effect?.map (·.bonus)).getD 0

theorem sum_effects (base : KnowledgeBase) (findings : List Finding) :
    sumOf ((breakdown base findings).effects.map (·.bonus)) =
      bonusOf (massEffect? base.scoring.combinations (breakdown base findings).sum) +
      bonusOf (clusterEffect? base.scoring.combinations (findings.map (contributionOf base))) +
      bonusOf (pauseEffect? base findings) := by
  have single (effect? : Option Effect) : (effect?.toList.map (·.bonus)).sum = bonusOf effect? := by
    cases effect? with
    | none => rfl
    | some effect => simp [bonusOf]
  show (List.map _ (_ ++ _ ++ _)).sum = _
  rw [List.map_append, List.map_append, List.sum_append, List.sum_append, single, single, single]
  rfl

theorem sum_breakdown (base : KnowledgeBase) (findings : List Finding) :
    (breakdown base findings).sum =
      (findings.map fun finding => (contributionOf base finding).total).sum := by
  show sumOf ((findings.map (contributionOf base)).map (·.total)) = _
  rw [sumOf_eq_sum, List.map_map]
  rfl

theorem total_breakdown (base : KnowledgeBase) (findings : List Finding) :
    (breakdown base findings).total = (breakdown base findings).sum +
      bonusOf (massEffect? base.scoring.combinations (breakdown base findings).sum) +
      bonusOf (clusterEffect? base.scoring.combinations (findings.map (contributionOf base))) +
      bonusOf (pauseEffect? base findings) := by
  have adds : (breakdown base findings).total = (breakdown base findings).sum +
    sumOf ((breakdown base findings).effects.map (·.bonus)) := rfl
  rw [adds, sum_effects]
  omega

section Bonuses

open Classical

theorem bonusOf_massEffect? (rules : CombinationRules) (sum : Int) :
    bonusOf (massEffect? rules sum) = if rules.massThreshold ≤ sum then rules.massBonus else 0 := by
  unfold massEffect?
  split <;> rfl

theorem bonusOf_clusterEffect? (base : KnowledgeBase) (rules : CombinationRules)
    (findings : List Finding) :
    bonusOf (clusterEffect? rules (findings.map (contributionOf base))) =
      if IsCluster rules findings then rules.clusterBonus else 0 := by
  have clusters : (decide (rules.clusterMinimum ≤
      countOf .high (findings.map (contributionOf base))) &&
        countOf .critical (findings.map (contributionOf base)) == 0) = true ↔
      IsCluster rules findings := by
    unfold IsCluster
    rw [Bool.and_eq_true, decide_eq_true_iff, beq_iff_eq, countOf_contributions,
      countOf_contributions, List.countP_eq_zero]
    simp only [decide_eq_true_eq, ne_eq]
  unfold clusterEffect?
  dsimp only
  by_cases isCluster : IsCluster rules findings
  · rw [if_pos (clusters.mpr isCluster), if_pos isCluster]
    rfl
  · rw [if_neg fun holds => isCluster (clusters.mp holds), if_neg isCluster]
    rfl

theorem bonusOf_pauseEffect? {base : KnowledgeBase} (distinct : base.HasDistinctIds)
    (findings : List Finding) :
    bonusOf (pauseEffect? base findings) =
      if PausesBesideSevere base findings then base.scoring.combinations.pauseBonus else 0 := by
  have pauses := pausesBesideSevere_base_iff distinct findings
  unfold pauseEffect?
  by_cases holds : PausesBesideSevere base findings
  · rw [if_pos (pauses.mpr holds), if_pos holds]
    rfl
  · rw [if_neg fun found => holds (pauses.mp found), if_neg holds]
    rfl

end Bonuses

/-! ### Scores -/

theorem clampScore_mono {less more : Int} (grows : less ≤ more) :
    clampScore less ≤ clampScore more := by
  unfold clampScore
  omega

/-- A score is no different for the rounding of its total. -/
theorem clampScore_roundTotal (total : Int) : clampScore (roundTotal total) = clampScore total := by
  unfold roundTotal
  cases rounded : (Double.ofInt total).roundHalfUp? with
  | none => rfl
  | some number =>
    rw [Option.getD_some]
    unfold clampScore
    rcases lt_or_ge total 0 with negative | notNegative
    · have := Double.roundHalfUp?_nonpos negative rounded
      omega
    obtain ⟨whole, rfl⟩ := Int.eq_ofNat_of_zero_le notNegative
    -- A power of two between 100 and the size at which halves are lost tells the two cases apart.
    rcases Nat.lt_or_ge whole (2 ^ 7) with small | great
    · rw [Double.roundHalfUp?_ofInt_of_short (by omega)] at rounded
      cases rounded
      rfl
    · have := Double.pow_le_roundHalfUp? great rounded
      omega

theorem score_breakdown (base : KnowledgeBase) (findings : List Finding) :
    (breakdown base findings).score = clampScore (breakdown base findings).total :=
  clampScore_roundTotal _

theorem isInRange_of_short {result : Breakdown} (short : result.total.natAbs < 2 ^ 53) :
    result.isInRange = true :=
  congrArg Double.isFinite (Double.ofInt_of_short short)

theorem eq_breakdown_of_account {base : KnowledgeBase} {findings : List Finding} {result : Breakdown}
    (isOk : account base findings = .ok result) : result = breakdown base findings := by
  unfold account at isOk
  dsimp only at isOk
  split at isOk
  · cases isOk
  split at isOk
  · cases isOk
  · exact (Except.ok.inj isOk).symm

theorem Breakdown.eq_toReport_of_report {result : Breakdown} {own : ScoreReport}
    (isOk : result.report = .ok own) : own = result.toReport := by
  unfold Breakdown.report at isOk
  split at isOk
  · exact (Except.ok.inj isOk).symm
  · cases isOk

section Short

variable {base : KnowledgeBase} {findings : List Finding}
  (short : (breakdown base findings).total.natAbs < 2 ^ 53)
include short

theorem account_of_short : account base findings =
    if isMassTold base.scoring.combinations (breakdown base findings).sum then
      .ok (breakdown base findings)
    else .error .unspellable := by
  unfold account
  dsimp only
  rw [isInRange_of_short short]
  cases isMassTold base.scoring.combinations (breakdown base findings).sum <;> rfl

theorem report_of_short : report base findings =
    if isMassTold base.scoring.combinations (breakdown base findings).sum &&
      Numeral.areSpellable (breakdown base findings).numbers then
      .ok (breakdown base findings).toReport
    else .error .unspellable := by
  unfold report
  rw [account_of_short short]
  cases isMassTold base.scoring.combinations (breakdown base findings).sum with
  | false => rfl
  | true =>
    rw [Bool.true_and]
    rfl

end Short

/-! ### Certainty -/

section Certainty

variable (base : KnowledgeBase) (findings : List Finding)

theorem any_isSevere_contributions :
    (findings.map (contributionOf base)).any (·.finding.severity.isSevere) = true ↔
      ∃ finding ∈ findings, finding.severity = .critical ∨ finding.severity = .high := by
  rw [List.any_map, List.any_eq_true]
  exact exists_congr fun finding => and_congr_right fun _ => isSevere_iff

theorem any_isWeakened_contributions :
    ((findings.map (contributionOf base)).any fun c => c.isComplex || c.isMitigated) = false ↔
      ∀ finding ∈ findings, ¬ IsMarked base.scoring "mitigation" finding ∧
        ¬ IsMarked base.scoring "complex_logic" finding := by
  rw [List.any_map, List.any_eq_false]
  refine forall_congr' fun finding => imp_congr_right fun _ => ?_
  rw [Function.comp_apply, Bool.or_eq_true, not_or, and_comm]
  exact and_congr (not_congr (hasRule_contributionOf base finding _))
    (not_congr (hasRule_contributionOf base finding _))

theorem all_isHarmless_contributions :
    ((findings.map (contributionOf base)).all fun c =>
      c.finding.severity == .low || c.isMitigated) = true ↔
      ∀ finding ∈ findings,
        finding.severity = .low ∨ IsMarked base.scoring "mitigation" finding := by
  rw [List.all_map, List.all_eq_true]
  refine forall_congr' fun finding => imp_congr_right fun _ => ?_
  rw [Function.comp_apply, Bool.or_eq_true, beq_iff_eq]
  exact or_congr Iff.rfl (hasRule_contributionOf base finding _)

open Classical in
/-- A score is held to be certain when it is certain by the rules, and to be of medium certainty
otherwise. -/
theorem fst_certaintyOf (score : Int) :
    (certaintyOf base.scoring.certainty (findings.map (contributionOf base)) score).1 =
      if IsCertain base.scoring findings score then .high else .medium := by
  -- The two tests are the two sides of the rule, as truth values.
  have certain : IsCertain base.scoring findings score ↔
      (decide (base.scoring.certainty.highFrom ≤ score) &&
        (findings.map (contributionOf base)).any (·.finding.severity.isSevere) &&
        !(findings.map (contributionOf base)).any fun c => c.isComplex || c.isMitigated) = true ∨
      (decide (score < base.scoring.certainty.lowBelow) &&
        (findings.map (contributionOf base)).all fun c =>
          c.finding.severity == .low || c.isMitigated) = true := by
    unfold IsCertain
    rw [Bool.and_eq_true, Bool.and_eq_true, Bool.and_eq_true, Bool.not_eq_true',
      decide_eq_true_iff, decide_eq_true_iff, any_isSevere_contributions,
      any_isWeakened_contributions, all_isHarmless_contributions, and_assoc]
  rw [if_congr certain rfl rfl]
  unfold certaintyOf
  dsimp only
  rw [apply_ite Prod.fst, apply_ite Prod.fst]
  split_ifs with isHigh either isLow either either
  · rfl
  · exact absurd (Or.inl isHigh) either
  · rfl
  · exact absurd (Or.inr isLow) either
  · exact absurd either (not_or.mpr ⟨isHigh, isLow⟩)
  · rfl

/-- The pair of a certainty and its reason is taken as it stands, so that nothing has to be known of
the score to read it. -/
theorem judged_breakdown :
    ((breakdown base findings).certainty, (breakdown base findings).reason) =
      certaintyOf base.scoring.certainty (findings.map (contributionOf base))
        (breakdown base findings).score := by
  have score : (breakdown base findings).score =
    clampScore (roundTotal (breakdown base findings).total) := rfl
  have judged (pair : Certainty × String) {contributions sum effects total score} :
    ((Breakdown.mk contributions sum effects total score pair.1 pair.2).certainty,
      (Breakdown.mk contributions sum effects total score pair.1 pair.2).reason) = pair := rfl
  rw [score]
  exact judged _

theorem certainty_breakdown :
    (breakdown base findings).certainty =
      (certaintyOf base.scoring.certainty (findings.map (contributionOf base))
        (breakdown base findings).score).1 :=
  (Prod.mk.inj ((judged_breakdown base findings).trans Prod.mk.eta.symm)).1

end Certainty

/-! ### Breakdowns -/

/-- The breakdown of findings follows the rules of a knowledge base without repeated identifiers. -/
theorem followsRules_breakdown {base : KnowledgeBase} (distinct : base.HasDistinctIds)
    (findings : List Finding) : (breakdown base findings).FollowsRules base findings := by
  constructor
  case contributions =>
    show List.Forall₂ _ findings (findings.map (contributionOf base))
    rw [List.forall₂_map_right_iff]
    exact List.forall₂_same.mpr fun finding _ => isContributionOf_contributionOf distinct finding
  case sum => exact sumOf_eq_sum _
  case total =>
    rw [total_breakdown, bonusOf_massEffect?, bonusOf_clusterEffect?, bonusOf_pauseEffect? distinct]
  case score => exact score_breakdown base findings
  case bounds =>
    rw [score_breakdown]
    unfold clampScore
    omega
  case certain =>
    rw [certainty_breakdown, fst_certaintyOf]
    split <;> simp [*]
  case uncertain =>
    rw [certainty_breakdown, fst_certaintyOf]
    split <;> simp [*]

/-- By a knowledge base, findings get a score that follows its rules. -/
def IsScoredByRules (base : KnowledgeBase) (findings : List Finding) : Prop :=
  ∃ result, account base.orBundled findings = .ok result ∧ result.FollowsRules base findings

/-- A sum has reached the critical mass, and one of the two has too many digits to be spelled. -/
def IsMassUntold (rules : CombinationRules) (sum : Int) : Prop :=
  rules.massThreshold ≤ sum ∧
    (10 ^ Numeral.digitLimit ≤ sum.natAbs ∨ 10 ^ Numeral.digitLimit ≤ rules.massThreshold.natAbs)

theorem isMassTold_eq_false_iff {rules : CombinationRules} {sum : Int} :
    isMassTold rules sum = false ↔ IsMassUntold rules sum := by
  simp [isMassTold, IsMassUntold, Numeral.areSpellable, Numeral.isSpellable, imp_iff_not_or]

/-- By every knowledge base with patterns that is read from a document, findings whose total is an
exact binary64 number get a score that follows the rules, exactly unless they reach a critical mass
that cannot be told; then they get none. -/
theorem scored_by_rules_iff {document : Json.Value} {base : KnowledgeBase}
    (accepted : KnowledgeBase.ofDocument document = .ok base) (hasPatterns : base.patterns ≠ [])
    {findings : List Finding}
    (bounded : (breakdown base.orBundled findings).total.natAbs < 2 ^ 53) :
    (IsScoredByRules base findings ↔
      ¬ IsMassUntold base.scoring.combinations (breakdown base findings).sum) ∧
    (IsMassUntold base.scoring.combinations (breakdown base findings).sum →
      account base.orBundled findings = .error .unspellable) := by
  have isOwn : base.orBundled = base := KnowledgeBase.orBundled_of_patterns hasPatterns
  unfold IsScoredByRules
  rw [isOwn] at bounded ⊢
  rw [account_of_short bounded]
  by_cases isUntold : IsMassUntold base.scoring.combinations (breakdown base findings).sum
  · rw [isMassTold_eq_false_iff.mpr isUntold, if_neg Bool.false_ne_true]
    refine ⟨iff_of_false ?_ (not_not_intro isUntold), fun _ => rfl⟩
    rintro ⟨result, isOk, _⟩
    cases isOk
  · have isTold := Bool.eq_true_of_not_eq_false (mt isMassTold_eq_false_iff.mp isUntold)
    rw [isTold, if_pos rfl]
    have follows := followsRules_breakdown
      (KnowledgeBase.hasDistinctIds_of_ofDocument accepted) findings
    exact ⟨iff_of_true ⟨_, rfl, follows⟩ isUntold, fun untold => absurd untold isUntold⟩

/-- A document with one pattern, which lets someone halt the package, and one keyword rule. -/
def haltingDocument : Json.Value :=
  .object [("patterns", .array [.object [("pattern_id", .string "halt"), ("name", .string "Halt"),
      ("severity", .string "high"), ("base_score_range", .array [.int 20, .int 40]),
      ("aliases", .array [.string "stop"]), ("pausing", .bool true)]]),
    ("scoring", .object [("rules", .array [.object [("name", .string "mitigation"),
      ("delta", .int (-30)), ("keywords", .array [.string "timelock"])]])])]

/-- The knowledge base of the document. -/
def haltingBase : KnowledgeBase :=
  { version := .number 1
    patterns := [{ id := "HALT", name := "Halt", severity := .high, range := (20, 40), points := 30,
                   aliases := ["stop"], isPausing := true }]
    scoring := { rules := [{ name := "mitigation", delta := -30, keywords := ["timelock"] }] } }

theorem ofDocument_halting : KnowledgeBase.ofDocument haltingDocument = .ok haltingBase := rfl

/-- A halt behind a timelock, under an alias of its pattern, and a critical finding of an unknown
pattern without one. -/
def haltingFindings : List Finding :=
  [⟨"pause", "", "Stop", .high, ["Behind a timelock."], "", true⟩,
    ⟨"drain", "", "NEW", .critical, ["There is no timelock."], "", true⟩]

/-- The halt adds 30 points and loses them to the timelock; the critical finding adds 50, and 5 more
for standing beside the halt. -/
theorem halting_scored_by_rules :
    (breakdown haltingBase.orBundled haltingFindings).score = 55 ∧
      IsScoredByRules haltingBase haltingFindings := by
  have hasPatterns : haltingBase.patterns ≠ [] := List.cons_ne_nil _ _
  have total : (breakdown haltingBase.orBundled haltingFindings).total = 55 := by decide +kernel
  have bounded : (breakdown haltingBase.orBundled haltingFindings).total.natAbs < 2 ^ 53 := by
    rw [total]
    decide
  have isTold :
      isMassTold haltingBase.scoring.combinations (breakdown haltingBase haltingFindings).sum =
        true := by
    decide +kernel
  refine ⟨?_, (scored_by_rules_iff ofDocument_halting hasPatterns bounded).1.mpr ?_⟩
  · rw [score_breakdown, total]
    rfl
  · exact fun untold => Bool.false_ne_true ((isMassTold_eq_false_iff.mpr untold).symm.trans isTold)

/-- A threshold that every sum has reached, with more digits than can be spelled. -/
def bottomless : Int :=
  -16 ^ 4000

/-- A document with one pattern and that threshold. -/
def bottomlessDocument : Json.Value :=
  .object [("patterns", .array [.object [("pattern_id", .string "halt"), ("name", .string "Halt"),
      ("severity", .string "high"), ("base_score_range", .array [.int 20, .int 40])]]),
    ("scoring", .object [("combinations",
      .object [("critical_mass_threshold", .int bottomless)])])]

/-- The knowledge base of the document. -/
def bottomlessBase : KnowledgeBase :=
  { version := .number 1
    patterns := [{ id := "HALT", name := "Halt", severity := .high, range := (20, 40), points := 30 }]
    scoring := { combinations := { massThreshold := bottomless } } }

/-- No findings come to 0 points, which have reached the threshold. Neither they nor the bonus are
any trouble, but the threshold cannot be spelled beside them. -/
theorem bottomless_scores_nothing : ¬ ∀ (document : Json.Value) (base : KnowledgeBase)
    (findings : List Finding), KnowledgeBase.ofDocument document = .ok base → base.patterns ≠ [] →
    (∀ contribution ∈ (breakdown base findings).contributions,
      contribution.total.natAbs < 2 ^ 53) →
    (breakdown base findings).sum.natAbs < 2 ^ 53 → (breakdown base findings).total.natAbs < 2 ^ 53 →
    IsScoredByRules base findings := by
  intro always
  have accepted : KnowledgeBase.ofDocument bottomlessDocument = .ok bottomlessBase := rfl
  obtain ⟨result, isOk, _⟩ := always _ _ [] accepted (List.cons_ne_nil _ _)
    (fun _ member => nomatch member) (by decide +kernel) (by decide +kernel)
  have fails : account bottomlessBase.orBundled [] = .error .unspellable := by decide +kernel
  rw [fails] at isOk
  cases isOk

end MoveAudit.Scoring
