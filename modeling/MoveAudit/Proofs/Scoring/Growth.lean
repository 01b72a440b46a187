/-
This file says which findings can be reported further without a score going down, by the bundled
knowledge base. A finding adds what it is worth, which is negative when its modifiers take away more
than it starts from, and a critical finding takes the bonus away from a cluster of high ones.
Nothing else goes down: the sum, the count of high findings and the places at which a pausing
finding stands beside a severe one only grow. So a finding that is worth as much as it may take away
is safe to report, no other one is, and those that a review leaves are safe but for mitigated ones
of unknown patterns.
-/

import MoveAudit.Proofs.Risk.Review

namespace MoveAudit.Scoring

open KnowledgeBase (bundled bundledScoring)

/-! ### What a finding is worth -/

/-- What a finding adds to the sum by the bundled knowledge base. -/
def worth (finding : Finding) : Int :=
  (contributionOf bundled finding).total

/-- A finding is worth what it may take away from others: nothing, or the bonus for a cluster that
it breaks up. -/
def Outweighs (finding : Finding) (others : List Finding) : Prop :=
  0 ≤ worth finding ∧
    (finding.severity = .critical → IsCluster bundledScoring.combinations others →
      bundledScoring.combinations.clusterBonus ≤ worth finding)

/-- A finding is worth what it may take away from any others. -/
def IsSteady (finding : Finding) : Prop :=
  0 ≤ worth finding ∧
    (finding.severity = .critical → bundledScoring.combinations.clusterBonus ≤ worth finding)

/-- Reporting a finding, at any place among any others, does not lower the score. -/
def NeverLowers (finding : Finding) : Prop :=
  ∀ before after : List Finding, (breakdown bundled (before ++ after)).score ≤
    (breakdown bundled (before ++ finding :: after)).score

/-- A high finding of an unknown pattern, weakened by something that keeps it in check. -/
def IsMitigatedUnknown (finding : Finding) : Prop :=
  (∀ pattern, ¬ bundled.Names finding.patternId pattern) ∧ finding.severity = .high ∧
    IsMarked bundledScoring "mitigation" finding

theorem hasDistinctIds_bundled : bundled.HasDistinctIds := by
  unfold KnowledgeBase.HasDistinctIds
  decide

/-! ### What grows -/

theorem sum_breakdown_insert (before after : List Finding) (finding : Finding) :
    (breakdown bundled (before ++ finding :: after)).sum =
      (breakdown bundled (before ++ after)).sum + worth finding := by
  have sum (findings : List Finding) :
      (breakdown bundled findings).sum = (findings.map worth).sum := sum_breakdown bundled findings
  rw [sum, sum, List.map_append, List.map_append, List.map_cons, List.sum_append, List.sum_append,
    List.sum_cons]
  omega

theorem pausesBesideSevere_of_sublist {isPausing : Finding → Bool} {fewer more : List Finding}
    (sublist : fewer.Sublist more) (pauses : pausesBesideSevere isPausing fewer = true) :
    pausesBesideSevere isPausing more = true := by
  have any_of_sublist {holds : Finding → Bool} {fewer more : List Finding}
      (sublist : fewer.Sublist more) (any : fewer.any holds = true) : more.any holds = true := by
    obtain ⟨finding, member, isSuch⟩ := List.any_eq_true.mp any
    exact List.any_eq_true.mpr ⟨finding, sublist.subset member, isSuch⟩
  induction sublist with
  | slnil => exact pauses
  | cons new sublist inductionHypothesis =>
    unfold pausesBesideSevere
    rw [inductionHypothesis pauses, Bool.or_true]
  | cons_cons finding sublist inductionHypothesis =>
    unfold pausesBesideSevere at pauses ⊢
    rw [Bool.or_eq_true, Bool.or_eq_true, Bool.and_eq_true, Bool.and_eq_true] at pauses ⊢
    refine pauses.imp (Or.imp (And.imp_right ?_) (And.imp_right ?_)) inductionHypothesis
    · exact any_of_sublist sublist
    · exact any_of_sublist sublist

theorem pausesBesideSevere_insert {before after : List Finding} (finding : Finding)
    (pauses : PausesBesideSevere bundled (before ++ after)) :
    PausesBesideSevere bundled (before ++ finding :: after) := by
  rw [← pausesBesideSevere_base_iff hasDistinctIds_bundled] at pauses ⊢
  have sublist : (before ++ after).Sublist (before ++ finding :: after) :=
    (List.sublist_cons_self finding after).append_left before
  exact pausesBesideSevere_of_sublist sublist pauses

theorem isCluster_insert {rules : CombinationRules} {before after : List Finding}
    {finding : Finding} (notCritical : finding.severity ≠ .critical)
    (cluster : IsCluster rules (before ++ after)) :
    IsCluster rules (before ++ finding :: after) := by
  obtain ⟨enough, noCritical⟩ := cluster
  constructor
  · rw [List.countP_append] at enough ⊢
    rw [List.countP_cons]
    omega
  · intro other member
    rcases List.mem_append.mp member with inBefore | inRest
    · exact noCritical other (List.mem_append_left _ inBefore)
    · rcases List.mem_cons.mp inRest with rfl | inAfter
      · exact notCritical
      · exact noCritical other (List.mem_append_right _ inAfter)

theorem not_isCluster_insert {rules : CombinationRules} {before after : List Finding}
    {finding : Finding} (critical : finding.severity = .critical) :
    ¬ IsCluster rules (before ++ finding :: after) :=
  fun cluster => cluster.2 finding (List.mem_append_right _ (List.mem_cons_self ..)) critical

/-! ### Findings that do not lower a score -/

open Classical in
/-- The total by the bundled rules. -/
theorem total_bundled (findings : List Finding) :
    (breakdown bundled findings).total = (breakdown bundled findings).sum +
      (if 90 ≤ (breakdown bundled findings).sum then 5 else 0) +
      (if IsCluster bundledScoring.combinations findings then 10 else 0) +
      (if PausesBesideSevere bundled findings then 5 else 0) :=
  (followsRules_breakdown hasDistinctIds_bundled findings).total

open Classical in
/-- The cluster is all that a finding can take away, and only a critical one can. -/
theorem clusterBonus_le_insert {before after : List Finding} {finding : Finding}
    (outweighs : Outweighs finding (before ++ after)) :
    (if IsCluster bundledScoring.combinations (before ++ after) then (10 : Int) else 0) ≤
      (if IsCluster bundledScoring.combinations (before ++ finding :: after) then 10 else 0) +
        worth finding := by
  obtain ⟨notNegative, breaksUp⟩ := outweighs
  by_cases critical : finding.severity = .critical
  · rw [if_neg (not_isCluster_insert critical)]
    split
    · next cluster =>
      have enough : (10 : Int) ≤ worth finding := breaksUp critical cluster
      omega
    · omega
  · split
    · next cluster =>
      rw [if_pos (isCluster_insert critical cluster)]
      omega
    · split <;> omega

/-- A finding that outweighs the others does not lower their score. -/
theorem score_le_of_outweighs {before after : List Finding} {finding : Finding}
    (outweighs : Outweighs finding (before ++ after)) :
    (breakdown bundled (before ++ after)).score ≤
      (breakdown bundled (before ++ finding :: after)).score := by
  classical
  have notNegative : 0 ≤ worth finding := outweighs.1
  have cluster := clusterBonus_le_insert outweighs
  have pauses : (if PausesBesideSevere bundled (before ++ after) then (5 : Int) else 0) ≤
      if PausesBesideSevere bundled (before ++ finding :: after) then 5 else 0 := by
    split
    · next pausesBefore => rw [if_pos (pausesBesideSevere_insert finding pausesBefore)]
    · split <;> decide
  rw [score_breakdown, score_breakdown]
  refine clampScore_mono ?_
  rw [total_bundled, total_bundled, sum_breakdown_insert]
  have mass : (if 90 ≤ (breakdown bundled (before ++ after)).sum then (5 : Int) else 0) ≤
      if 90 ≤ (breakdown bundled (before ++ after)).sum + worth finding then 5 else 0 := by
    split
    · next reached => rw [if_pos (by omega)]
    · split <;> decide
  omega

/-! ### Findings that lower some score -/

/-- A mitigated pause and two high findings of an unknown pattern. -/
def fragileFindings : List Finding :=
  [⟨"pause", "", "HIGH-02", .high, ["Behind a timelock.", "Complex logic."], "", true⟩,
    ⟨"mint", "", "NEW", .high, [], "", true⟩, ⟨"burn", "", "NEW", .high, [], "", true⟩]

theorem sum_fragile : (breakdown bundled fragileFindings).sum = 80 := by decide +kernel

theorem pausesBesideSevere_fragile : PausesBesideSevere bundled fragileFindings := by
  rw [← pausesBesideSevere_base_iff hasDistinctIds_bundled]
  decide +kernel

theorem isCluster_fragile : IsCluster bundledScoring.combinations fragileFindings := by
  unfold IsCluster
  decide

theorem score_fragile : (breakdown bundled fragileFindings).score = 95 := by
  rw [score_breakdown, total_bundled, sum_fragile, if_neg (by decide), if_pos isCluster_fragile,
    if_pos pausesBesideSevere_fragile]
  rfl

open Classical in
theorem total_fragile_insert (finding : Finding) :
    (breakdown bundled (finding :: fragileFindings)).total = 80 + worth finding +
      (if 90 ≤ 80 + worth finding then 5 else 0) +
      (if IsCluster bundledScoring.combinations (finding :: fragileFindings) then 10 else 0) +
      5 := by
  have sum : (breakdown bundled (finding :: fragileFindings)).sum = 80 + worth finding := by
    rw [← sum_fragile]
    exact sum_breakdown_insert [] fragileFindings finding
  have pauses : PausesBesideSevere bundled (finding :: fragileFindings) :=
    @pausesBesideSevere_insert [] fragileFindings finding pausesBesideSevere_fragile
  rw [total_bundled, sum, if_pos pauses]

/-- The fragile findings have the highest score that they can have, short of the bounds, so that
they show every loss. -/
theorem isSteady_of_neverLowers {finding : Finding} (never : NeverLowers finding) :
    IsSteady finding := by
  classical
  have grows : (95 : Int) ≤ (breakdown bundled (finding :: fragileFindings)).score := by
    rw [← score_fragile]
    exact never [] fragileFindings
  rw [score_breakdown, total_fragile_insert] at grows
  unfold clampScore at grows
  -- A finding worth less than 10 does not bring the sum of 80 to the critical mass of 90.
  constructor
  · split_ifs at grows <;> omega
  · intro critical
    show (10 : Int) ≤ _
    have broken : ¬ IsCluster bundledScoring.combinations (finding :: fragileFindings) :=
      @not_isCluster_insert _ [] fragileFindings finding critical
    rw [if_neg broken] at grows
    split_ifs at grows <;> omega

theorem neverLowers_iff {finding : Finding} : NeverLowers finding ↔ IsSteady finding := by
  refine ⟨isSteady_of_neverLowers, fun steady before after => ?_⟩
  exact score_le_of_outweighs ⟨steady.1, fun critical _ => steady.2 critical⟩

/-! ### Findings that a review leaves -/

/-- What the bundled rules make of the notes of a finding. -/
def deltaOf (finding : Finding) : Int :=
  (bundledScoring.rules.map fun rule =>
    if Applies bundledScoring rule finding then rule.delta else 0).sum

theorem exists_worth_eq (finding : Finding) :
    ∃ points, StartsFrom bundled finding points ∧ worth finding = points + deltaOf finding := by
  obtain ⟨_, points, starts, total⟩ :=
    isContributionOf_contributionOf hasDistinctIds_bundled finding
  exact ⟨points, starts, total⟩

/-- Two of the bundled rules lower a finding, and both are for severe ones. -/
theorem deltaOf_eq (finding : Finding) :
    deltaOf finding =
      (if Applies bundledScoring bundledScoring.rules[0] finding then (-30 : Int) else 0) +
      ((if Applies bundledScoring bundledScoring.rules[1] finding then (10 : Int) else 0) +
      ((if Applies bundledScoring bundledScoring.rules[2] finding then (5 : Int) else 0) +
      ((if Applies bundledScoring bundledScoring.rules[3] finding then (-5 : Int) else 0) + 0))) :=
  rfl

theorem le_deltaOf (finding : Finding) : -35 ≤ deltaOf finding := by
  rw [deltaOf_eq]
  split_ifs <;> omega

theorem le_deltaOf_of_not_mitigated {finding : Finding}
    (notMitigated : ¬ IsMarked bundledScoring "mitigation" finding) : -5 ≤ deltaOf finding := by
  have notApplies : ¬ Applies bundledScoring bundledScoring.rules[0] finding :=
    fun applies => notMitigated ⟨_, List.getElem_mem _, rfl, applies⟩
  rw [deltaOf_eq, if_neg notApplies]
  split_ifs <;> omega

theorem deltaOf_nonneg {finding : Finding} (mild : finding.severity.isSevere = false) :
    0 ≤ deltaOf finding := by
  have notFor (rule : KeywordRule) (severe : rule.severities = [.critical, .high]) :
      ¬ Applies bundledScoring rule finding := by
    rintro ⟨member, _⟩
    rw [severe] at member
    cases isSeverity : finding.severity <;> simp_all [Severity.isSevere]
  rw [deltaOf_eq, if_neg (notFor bundledScoring.rules[0] rfl),
    if_neg (notFor bundledScoring.rules[3] rfl)]
  split_ifs <;> omega

/-- The points of a known pattern make up for everything that can be taken from them. -/
theorem le_points {pattern : RiskPattern} (known : pattern ∈ bundled.patterns) :
    0 ≤ pattern.points ∧ (pattern.severity.isSevere = true → 45 ≤ pattern.points) := by
  have all : ∀ pattern ∈ bundled.patterns,
      0 ≤ pattern.points ∧ (pattern.severity.isSevere = true → 45 ≤ pattern.points) := by
    decide
  exact all pattern known

theorem hasPlainId_bundled : ∀ pattern ∈ bundled.patterns, pattern.HasPlainId := by
  unfold RiskPattern.HasPlainId
  decide +kernel

/-- A finding that a review leaves is steady, unless it is a mitigated one of an unknown pattern. -/
theorem isSteady_of_reviewed {package : Move.Package} {findings : List Finding} {finding : Finding}
    (reviewed : finding ∈ Evidence.reviewed bundled package findings)
    (notExcused : ¬ IsMitigatedUnknown finding) : IsSteady finding := by
  obtain ⟨points, starts, worth⟩ := exists_worth_eq finding
  have least := le_deltaOf finding
  have bonus : bundledScoring.combinations.clusterBonus = 10 := rfl
  unfold IsSteady
  rw [worth, bonus]
  cases starts with
  | known names =>
    obtain ⟨notNegative, severe⟩ := le_points names.member
    rw [← Evidence.severity_eq_of_reviewed hasDistinctIds_bundled hasPlainId_bundled reviewed names]
      at severe
    cases isSevere : finding.severity.isSevere with
    | true =>
      have enough := severe isSevere
      omega
    | false =>
      have mild := deltaOf_nonneg isSevere
      refine ⟨by omega, fun critical => ?_⟩
      rw [critical] at isSevere
      cases isSevere
  | unknown unnamed =>
    cases isSeverity : finding.severity with
    | critical =>
      show 0 ≤ (50 : Int) + deltaOf finding ∧ (_ → (10 : Int) ≤ 50 + deltaOf finding)
      omega
    | high =>
      have small := le_deltaOf_of_not_mitigated fun mitigated =>
        notExcused ⟨unnamed, isSeverity, mitigated⟩
      show 0 ≤ (20 : Int) + deltaOf finding ∧ _
      exact ⟨by omega, nofun⟩
    | medium =>
      have mild := deltaOf_nonneg (congrArg Severity.isSevere isSeverity)
      show 0 ≤ (5 : Int) + deltaOf finding ∧ _
      exact ⟨by omega, nofun⟩
    | low =>
      have mild := deltaOf_nonneg (congrArg Severity.isSevere isSeverity)
      show 0 ≤ (1 : Int) + deltaOf finding ∧ _
      exact ⟨by omega, nofun⟩

/-- Reporting a finding further never lowers the score of findings that it outweighs, at whatever
place; it never lowers any score exactly if it is worth as much as it may take away from any others;
and a finding that a review leaves is worth that, unless it is a mitigated one of an unknown
pattern. -/
theorem reporting_never_lowers_iff (finding : Finding) :
    (∀ before after, Outweighs finding (before ++ after) →
      (breakdown bundled (before ++ after)).score ≤
        (breakdown bundled (before ++ finding :: after)).score) ∧
      (NeverLowers finding ↔ IsSteady finding) ∧
      ∀ package findings, finding ∈ Evidence.reviewed bundled package findings →
        ¬ IsMitigatedUnknown finding → NeverLowers finding :=
  ⟨fun _ _ outweighs => score_le_of_outweighs outweighs, neverLowers_iff,
    fun _ _ reviewed notExcused => neverLowers_iff.mpr (isSteady_of_reviewed reviewed notExcused)⟩

/-- A mitigated finding of an unknown pattern, reported beside an unlimited mint, brings its score
down from 80 to 70. -/
theorem mitigated_unknown_lowers : ¬ ∀ finding, NeverLowers finding := by
  intro never
  have lowers := never ⟨"mint_reward", "", "NEW", .high, ["Behind a timelock."], "", true⟩
    [⟨"mint", "", "HIGH-01", .high, [], "", true⟩] []
  rw [score_breakdown, score_breakdown] at lowers
  revert lowers
  decide +kernel

end MoveAudit.Scoring
