/-
This file says what a further note does to a score. It takes nothing away: a rule that some note of
the finding set off is still set off, by the same note. So the sum of the points moves by the deltas
of the rules that only the further note sets off, and the critical mass is reached no later at a
greater sum. How many findings there are of a kind, and where the pausing ones stand, is the same as
before. When all those deltas point one way and the critical mass takes nothing away, the score does
not move the other way.
-/

import Mathlib.Algebra.Order.BigOperators.Group.List
import MoveAudit.Proofs.Scoring.Order

namespace MoveAudit.Scoring

/-- A finding with a further note. -/
def noted (finding : Finding) (note : String) : Finding :=
  { finding with notes := finding.notes ++ [note] }

/-- A rule applies to a finding with a further note, and not without it. -/
def IsSetOffBy (scoring : ScoringRules) (rule : KeywordRule) (finding : Finding) (note : String) :
    Prop :=
  Applies scoring rule (noted finding note) ∧ ¬ Applies scoring rule finding

instance (scoring : ScoringRules) (rule : KeywordRule) (finding : Finding) (note : String) :
    Decidable (IsSetOffBy scoring rule finding note) :=
  inferInstanceAs (Decidable (_ ∧ _))

/-! ### Rules that applied before -/

section Rules

variable {scoring : ScoringRules} {finding : Finding} {note : String}

theorem Applies.noted {rule : KeywordRule} (applies : Applies scoring rule finding) :
    Applies scoring rule (noted finding note) := by
  obtain ⟨covered, mentioning, member, affirmed⟩ := applies
  exact ⟨covered, mentioning, List.mem_append_left _ member, affirmed⟩

/-- The note that set a rule off is still the first one that does. -/
theorem noteFor?_noted {rule : KeywordRule} {first : String}
    (found : noteFor? scoring rule finding = some first) :
    noteFor? scoring rule (noted finding note) = some first := by
  unfold noteFor? at found ⊢
  split at found
  · next covered =>
    refine (if_pos covered).trans ?_
    show (finding.notes ++ [note]).find? _ = some first
    rw [List.find?_append, found]
    rfl
  · cases found

theorem appliedTo_sublist_noted :
    (appliedTo scoring finding).Sublist (appliedTo scoring (noted finding note)) := by
  unfold appliedTo
  induction scoring.rules with
  | nil => exact List.Sublist.slnil
  | cons rule rest inductionHypothesis =>
    rw [List.filterMap_cons, List.filterMap_cons]
    cases found : noteFor? scoring rule finding with
    | none =>
      refine inductionHypothesis.trans ?_
      cases noteFor? scoring rule (noted finding note) with
      | none => exact List.Sublist.refl _
      | some first => exact List.sublist_cons_self _ _
    | some first =>
      rw [noteFor?_noted found]
      exact inductionHypothesis.cons_cons _

end Rules

/-! ### Points -/

/-- What the rules make of a further note. -/
def shiftOf (scoring : ScoringRules) (finding : Finding) (note : String) : Int :=
  (scoring.rules.map fun rule => if IsSetOffBy scoring rule finding note then rule.delta else 0).sum

section Points

variable {finding : Finding} {note : String}

theorem total_noted (base : KnowledgeBase) (finding : Finding) (note : String) :
    (contributionOf base (noted finding note)).total =
      (contributionOf base finding).total + shiftOf base.scoring finding note := by
  have each (rule : KeywordRule) :
      (if Applies base.scoring rule (noted finding note) then rule.delta else 0) =
        (if Applies base.scoring rule finding then rule.delta else 0) +
          if IsSetOffBy base.scoring rule finding note then rule.delta else 0 := by
    unfold IsSetOffBy
    by_cases applies : Applies base.scoring rule finding
    · simp [applies, applies.noted]
    · simp [applies]
  rw [total_contributionOf, total_contributionOf, Int.add_assoc]
  unfold shiftOf
  rw [← List.sum_map_add]
  simp only [each]
  rfl

theorem shiftOf_nonpos {scoring : ScoringRules} (lowers : ∀ rule ∈ scoring.rules,
    IsSetOffBy scoring rule finding note → rule.delta ≤ 0) : shiftOf scoring finding note ≤ 0 := by
  rw [← List.sum_map_zero (l := scoring.rules)]
  refine List.sum_le_sum fun rule member => ?_
  split
  · next setOff => exact lowers rule member setOff
  · exact Int.le_refl 0

theorem shiftOf_nonneg {scoring : ScoringRules} (raises : ∀ rule ∈ scoring.rules,
    IsSetOffBy scoring rule finding note → 0 ≤ rule.delta) : 0 ≤ shiftOf scoring finding note := by
  rw [← List.sum_map_zero (l := scoring.rules)]
  refine List.sum_le_sum fun rule member => ?_
  split
  · next setOff => exact raises rule member setOff
  · exact Int.le_refl 0

end Points

/-! ### Findings that differ in a note -/

section Beside

variable {base : KnowledgeBase} {before after : List Finding} {finding : Finding} {note : String}

theorem countP_noted {isSuch : Finding → Bool} (same : isSuch (noted finding note) = isSuch finding) :
    (before ++ noted finding note :: after).countP isSuch =
      (before ++ finding :: after).countP isSuch := by
  rw [List.countP_append, List.countP_append, List.countP_cons, List.countP_cons, same]

theorem clusterEffect?_noted (rules : CombinationRules) :
    clusterEffect? rules ((before ++ noted finding note :: after).map (contributionOf base)) =
      clusterEffect? rules ((before ++ finding :: after).map (contributionOf base)) := by
  unfold clusterEffect?
  simp only [countOf_contributions]
  rw [countP_noted rfl, countP_noted rfl]

theorem pauseEffect?_noted :
    pauseEffect? base (before ++ noted finding note :: after) =
      pauseEffect? base (before ++ finding :: after) := by
  have pauses : pausesBesideSevere (fun finding => base.isPausing finding.patternId)
      (before ++ noted finding note :: after) =
        pausesBesideSevere (fun finding => base.isPausing finding.patternId)
          (before ++ finding :: after) := by
    rw [Bool.eq_iff_iff, pausesBesideSevere_iff_countP, pausesBesideSevere_iff_countP,
      countP_noted rfl, countP_noted rfl, countP_noted rfl]
  unfold pauseEffect?
  rw [pauses]

end Beside

/-! ### Scores -/

section Scores

variable {base : KnowledgeBase} {before after : List Finding} {finding : Finding} {note : String}

theorem sum_noted :
    (breakdown base (before ++ noted finding note :: after)).sum =
      (breakdown base (before ++ finding :: after)).sum + shiftOf base.scoring finding note := by
  rw [sum_breakdown, sum_breakdown, List.map_append, List.map_append, List.map_cons, List.map_cons,
    List.sum_append, List.sum_append, List.sum_cons, List.sum_cons, total_noted]
  omega

/-- Between findings with the same clusters and pauses, the greater sum has the greater score, since
the critical mass takes nothing away from it. -/
theorem score_le_of_sum_le {first second : List Finding}
    (notNegative : 0 ≤ base.scoring.combinations.massBonus)
    (grows : (breakdown base first).sum ≤ (breakdown base second).sum)
    (cluster : clusterEffect? base.scoring.combinations (first.map (contributionOf base)) =
      clusterEffect? base.scoring.combinations (second.map (contributionOf base)))
    (pause : pauseEffect? base first = pauseEffect? base second) :
    (breakdown base first).score ≤ (breakdown base second).score := by
  rw [score_breakdown, score_breakdown]
  refine clampScore_mono ?_
  rw [total_breakdown, total_breakdown, cluster, pause, bonusOf_massEffect?, bonusOf_massEffect?]
  split_ifs <;> omega

end Scores

/-- Small sums are told beside a threshold, or none of them is: a threshold that cannot be spelled has
been reached by all of them or by none. -/
theorem isMassTold_eq_of_short (rules : CombinationRules) {sum other : Int}
    (short : sum.natAbs < 2 ^ 53) (shortToo : other.natAbs < 2 ^ 53) :
    isMassTold rules sum = isMassTold rules other := by
  have most : (2 : Nat) ^ 53 ≤ 10 ^ Numeral.digitLimit := by decide +kernel
  rw [Bool.eq_iff_iff, ← not_iff_not, Bool.not_eq_true, Bool.not_eq_true, isMassTold_eq_false_iff,
    isMassTold_eq_false_iff]
  unfold IsMassUntold
  generalize 10 ^ Numeral.digitLimit = limit at most ⊢
  omega

/-- A further note at a finding lets every rule apply that applied before, by the same note. Where the
critical mass takes nothing away, a note that sets off no rule that raises points does not raise the
score, and one that sets off no rule that lowers them does not lower it; and whenever a total is an
exact binary64 number, its score is reported unless a number is too long to be spelled. Small sums
lie on one side of every such number, so that with or without the note there is a score, or there is
none. -/
theorem further_note_moves_score {base : KnowledgeBase}
    (notNegative : 0 ≤ base.scoring.combinations.massBonus) (before after : List Finding)
    (finding : Finding) (note : String) :
    ((∀ rule ∈ base.scoring.rules, IsSetOffBy base.scoring rule finding note → rule.delta ≤ 0) →
        (breakdown base (before ++ noted finding note :: after)).score ≤
          (breakdown base (before ++ finding :: after)).score) ∧
      ((∀ rule ∈ base.scoring.rules, IsSetOffBy base.scoring rule finding note → 0 ≤ rule.delta) →
        (breakdown base (before ++ finding :: after)).score ≤
          (breakdown base (before ++ noted finding note :: after)).score) ∧
      (∀ rule, Applies base.scoring rule finding →
        Applies base.scoring rule (noted finding note)) ∧
      (contributionOf base finding).applied.Sublist
        (contributionOf base (noted finding note)).applied ∧
      (∀ findings ∈ [before ++ finding :: after, before ++ noted finding note :: after],
        (breakdown base findings).total.natAbs < 2 ^ 53 →
          account base findings =
              (if isMassTold base.scoring.combinations (breakdown base findings).sum then
                .ok (breakdown base findings)
              else .error .unspellable) ∧
            report base findings =
              if isMassTold base.scoring.combinations (breakdown base findings).sum &&
                Numeral.areSpellable (breakdown base findings).numbers then
                .ok (breakdown base findings).toReport
              else .error .unspellable) ∧
      ((breakdown base (before ++ finding :: after)).sum.natAbs < 2 ^ 53 →
        (breakdown base (before ++ noted finding note :: after)).sum.natAbs < 2 ^ 53 →
        isMassTold base.scoring.combinations (breakdown base (before ++ finding :: after)).sum =
          isMassTold base.scoring.combinations
            (breakdown base (before ++ noted finding note :: after)).sum) := by
  refine ⟨fun lowers => ?_, fun raises => ?_, fun _ applies => applies.noted,
    appliedTo_sublist_noted, fun _ _ short => ⟨account_of_short short, report_of_short short⟩,
    isMassTold_eq_of_short _⟩
  · have moves := shiftOf_nonpos lowers
    refine score_le_of_sum_le notNegative ?_ (clusterEffect?_noted _) pauseEffect?_noted
    rw [sum_noted]
    omega
  · have moves := shiftOf_nonneg raises
    refine score_le_of_sum_le notNegative ?_ (clusterEffect?_noted _).symm pauseEffect?_noted.symm
    rw [sum_noted]
    omega

/-- The drain of an unknown pattern turns out to be behind a timelock as well, which takes 30 points
from the score of 55. -/
theorem timelock_noted_lowers :
    0 ≤ haltingBase.scoring.combinations.massBonus ∧
      (breakdown haltingBase (haltTold.take 1 ++
        noted haltTold[1] "The drain has a timelock." :: [])).score = 25 ∧
      (breakdown haltingBase (haltTold.take 1 ++
        noted haltTold[1] "The drain has a timelock." :: [])).score ≤
        (breakdown haltingBase (haltTold.take 1 ++ haltTold[1] :: [])).score := by
  have notNegative : 0 ≤ haltingBase.scoring.combinations.massBonus := by decide
  have lowers : ∀ rule ∈ haltingBase.scoring.rules,
      IsSetOffBy haltingBase.scoring rule haltTold[1] "The drain has a timelock." →
        rule.delta ≤ 0 := by
    decide +kernel
  refine ⟨notNegative, ?_, (further_note_moves_score notNegative _ _ _ _).1 lowers⟩
  rw [score_breakdown]
  decide +kernel

end MoveAudit.Scoring
