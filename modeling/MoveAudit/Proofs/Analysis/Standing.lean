/-
This file proves what the card of an analysis stands on. Its score and its level are those of the
reviewed findings, whatever else was found out, written or asked on the way, so two analyses with
the same findings come to the same score. The functions that it warns of are those of its draft that
some finding is about, with nothing added and nothing else left out.
-/

import MoveAudit.Proofs.Analysis.Ends

namespace MoveAudit.Analysis

open Json Chain

variable {World Reason : Type}

/-- An analysis that succeeds has gone down a lane. -/
theorem exists_lane {setting : Setting World Reason} {session : String} {snapshot : Snapshot}
    {world : World} {result : Result}
    (came : ((run setting session snapshot).outcome world).1 = .ok result) :
    ∃ lane : Lane, result.history = lane.stages ∧
      lane.Yields setting.base snapshot (exchangesOf setting session snapshot world) result := by
  have ends := run_ends setting session snapshot world
  rw [came] at ends
  obtain ⟨last, goes, stands⟩ := ends
  have accounts := goes.accounts
  unfold Run.Accounts at accounts
  rw [stands] at accounts
  obtain ⟨lane, history, _, yields⟩ := accounts
  exact ⟨lane, history, yields⟩

/-- What an analysis comes to when it has gone through every stage. -/
theorem yields_of_finalized {setting : Setting World Reason} {session : String}
    {snapshot : Snapshot} {world : World} {result : Result}
    (came : ((run setting session snapshot).outcome world).1 = .ok result)
    (finalized : result.stage = .finalized) :
    ∃ isMended, result.history = (Lane.full isMended).stages ∧
      Lane.Yields setting.base snapshot (exchangesOf setting session snapshot world) result
        (.full isMended) := by
  obtain ⟨lane, history, yields⟩ := exists_lane came
  unfold Result.stage at finalized
  rw [history] at finalized
  cases lane with
  | noFunctions => cases finalized
  | cleanTriage => cases finalized
  | full isMended => exact ⟨isMended, history, yields⟩

/-! ### Scores stand on findings -/

/-- The findings of an analysis are those that its technical analysis came to, reviewed, and its
card has their score by the rules and the level of that score. -/
def StandsOnFindings (base : KnowledgeBase) (snapshot : Snapshot)
    (exchanges : List (Exchange Reason)) (result : Result) : Prop :=
  ∃ package analysis own, packageOf snapshot = .ok package ∧
    latest? Exchange.analysis? exchanges = some analysis ∧
    result.findings = Evidence.reviewed base package analysis.findings ∧
    Scoring.report base result.findings = .ok own ∧
    result.card.score = own.score ∧ result.card.level = .ofScore own.score

theorem standsOnFindings {setting : Setting World Reason} {session : String} {snapshot : Snapshot}
    {world : World} {result : Result}
    (came : ((run setting session snapshot).outcome world).1 = .ok result)
    (finalized : result.stage = .finalized) :
    StandsOnFindings setting.base snapshot (exchangesOf setting session snapshot world) result := by
  obtain ⟨_, _, known, draft, critique, found, ⟨own, fits, score⟩, _, _, _, card, findings⟩ :=
    yields_of_finalized came finalized
  obtain ⟨package, _, analysis, read, _, _, _, answered, reviewed⟩ := found
  refine ⟨package, analysis, own, read, answered, findings.trans reviewed, ?_, ?_, ?_⟩
  · rw [findings]
    exact fits
  · rw [card]
    exact score
  · rw [card, ← score]
    rfl

/-- The same findings have the same score. -/
theorem StandsOnFindings.unique {OtherReason : Type} {base : KnowledgeBase}
    {snapshot otherSnapshot : Snapshot} {exchanges : List (Exchange Reason)}
    {otherExchanges : List (Exchange OtherReason)} {result other : Result}
    (stands : StandsOnFindings base snapshot exchanges result)
    (standsToo : StandsOnFindings base otherSnapshot otherExchanges other)
    (same : result.findings = other.findings) :
    result.card.score = other.card.score ∧ result.card.level = other.card.level := by
  obtain ⟨_, _, own, _, _, _, fits, score, level⟩ := stands
  obtain ⟨_, _, otherOwn, _, _, _, fitsToo, scoreToo, levelToo⟩ := standsToo
  rw [same, fitsToo] at fits
  cases fits
  exact ⟨score.trans scoreToo.symm, level.trans levelToo.symm⟩

/-- Whatever else two analyses by one knowledge base were told, each scores its reviewed findings by
the rules alone, so that the same findings come to the same score and level. -/
theorem score_stands_on_findings {base : KnowledgeBase} (hasPatterns : base.patterns ≠ [])
    {OtherWorld OtherReason : Type} {setting : Setting World Reason}
    {otherSetting : Setting OtherWorld OtherReason} {session otherSession : String}
    {snapshot otherSnapshot : Snapshot} {world : World} {otherWorld : OtherWorld}
    {result other : Result} (isBase : setting.base = base.orBundled)
    (isBaseToo : otherSetting.base = base.orBundled)
    (came : ((run setting session snapshot).outcome world).1 = .ok result)
    (cameToo : ((run otherSetting otherSession otherSnapshot).outcome otherWorld).1 = .ok other)
    (finalized : result.stage = .finalized) (finalizedToo : other.stage = .finalized) :
    StandsOnFindings base snapshot (exchangesOf setting session snapshot world) result ∧
      StandsOnFindings base otherSnapshot
        (exchangesOf otherSetting otherSession otherSnapshot otherWorld) other ∧
      (result.findings = other.findings →
        result.card.score = other.card.score ∧ result.card.level = other.card.level) := by
  have isOwn : base.orBundled = base := by
    unfold KnowledgeBase.orBundled
    rw [if_neg fun isEmpty => hasPatterns (List.isEmpty_iff.mp isEmpty)]
  rw [isOwn] at isBase isBaseToo
  have stands := standsOnFindings came finalized
  have standsToo := standsOnFindings cameToo finalizedToo
  rw [isBase] at stands
  rw [isBaseToo] at standsToo
  exact ⟨stands, standsToo, stands.unique standsToo⟩

/-- With the reasoner asked for a score or not, and its report mended or not, the small package has
one score. -/
theorem vault_scores_agree : ∃ result other : Result,
    ((run (vaultSetting 1 true true) "" vaultSnapshot).outcome ()).1 = .ok result ∧
      ((run (vaultSetting 1 false false) "" vaultSnapshot).outcome ()).1 = .ok other ∧
      result.card.score = other.card.score ∧ result.card.level = other.card.level := by
  obtain ⟨result, came, seen⟩ := exists_result_of_map (show
    ((run (vaultSetting 1 true true) "" vaultSnapshot).outcome ()).1.toOption.map
      (fun result => (result.stage, result.findings)) = some (.finalized, [drainFinding]) by
    decide +kernel)
  obtain ⟨other, cameToo, seenToo⟩ := exists_result_of_map (show
    ((run (vaultSetting 1 false false) "" vaultSnapshot).outcome ()).1.toOption.map
      (fun result => (result.stage, result.findings)) = some (.finalized, [drainFinding]) by
    decide +kernel)
  have finalized := Prod.mk.inj seen
  have finalizedToo := Prod.mk.inj seenToo
  have hasPatterns : (vaultSetting 1 true true).base.patterns ≠ [] := List.cons_ne_nil _ _
  have isBase : (vaultSetting 1 true true).base = (vaultSetting 1 true true).base.orBundled := rfl
  have isBaseToo : (vaultSetting 1 false false).base = (vaultSetting 1 true true).base.orBundled :=
    rfl
  have agree := (score_stands_on_findings hasPatterns isBase isBaseToo came cameToo finalized.1
    finalizedToo.1).2.2 (finalized.2.trans finalizedToo.2.symm)
  exact ⟨result, other, came, cameToo, agree⟩

/-! ### Risky functions stand on findings -/

/-- A finding is about a function when their short names are the same. -/
theorem isBacked_iff {findings : List Finding} {function : RiskyFunction} :
    Draft.isBacked findings function = true ↔ ∃ finding ∈ findings,
      Evidence.shortName function.name = Evidence.shortName finding.functionName := by
  unfold Draft.isBacked
  rw [List.contains_iff_mem, List.mem_map]
  exact exists_congr fun finding => and_congr_right fun _ => eq_comm

/-- A draft keeps the functions that some finding is about. -/
theorem riskyFunctions_backedBy (findings : List Finding) (draft : Draft) :
    (draft.backedBy findings).riskyFunctions = draft.riskyFunctions.filter fun function =>
      ∃ finding ∈ findings,
        Evidence.shortName function.name = Evidence.shortName finding.functionName := by
  refine List.filter_congr fun function _ => ?_
  rw [Bool.eq_iff_iff, isBacked_iff, decide_eq_true_iff]

/-- There is nothing to warn of on a short lane. -/
theorem riskyFunctions_of_not_finalized {setting : Setting World Reason} {session : String}
    {snapshot : Snapshot} {world : World} {result : Result}
    (came : ((run setting session snapshot).outcome world).1 = .ok result)
    (unfinished : result.stage ≠ .finalized) : result.card.riskyFunctions = [] := by
  obtain ⟨lane, history, yields⟩ := exists_lane came
  cases lane with
  | noFunctions =>
    obtain ⟨_, card, _⟩ := yields
    rw [card]
    rfl
  | cleanTriage =>
    obtain ⟨_, _, card, _⟩ := yields
    rw [card]
    rfl
  | full isMended =>
    refine absurd ?_ unfinished
    unfold Result.stage
    rw [history]
    cases isMended <;> rfl

/-- The functions that the card of an analysis warns of are those of the draft that it came from, as
it was written at first or once it was mended, that some reviewed finding is about, in order and
unchanged; there are none without findings or on a short lane. -/
theorem risky_functions_stand_on_findings {setting : Setting World Reason} {session : String}
    {snapshot : Snapshot} {world : World} {result : Result}
    (came : ((run setting session snapshot).outcome world).1 = .ok result) :
    (∀ function ∈ result.card.riskyFunctions, ∃ finding ∈ result.findings,
        Evidence.shortName function.name = Evidence.shortName finding.functionName) ∧
      (result.stage = .finalized →
        IsFound setting.base snapshot (exchangesOf setting session snapshot world)
          result.findings ∧
        ∃ draft, latest? (Exchange.draft? result.isCorrected)
            (exchangesOf setting session snapshot world) = some draft ∧
          result.card.riskyFunctions.Sublist draft.riskyFunctions ∧
          result.card.riskyFunctions = draft.riskyFunctions.filter fun function =>
            ∃ finding ∈ result.findings,
              Evidence.shortName function.name = Evidence.shortName finding.functionName) ∧
      (result.findings = [] ∨ result.stage ≠ .finalized → result.card.riskyFunctions = []) := by
  by_cases finalized : result.stage = .finalized
  · obtain ⟨isMended, history, known, draft, critique, found, _, ⟨given, written, rfl⟩, _, _, card,
      findings⟩ := yields_of_finalized came finalized
    have isCorrected : result.isCorrected = isMended := by
      unfold Result.isCorrected
      rw [history]
      cases isMended <;> rfl
    have functions : result.card.riskyFunctions = given.riskyFunctions.filter fun function =>
        ∃ finding ∈ result.findings,
          Evidence.shortName function.name = Evidence.shortName finding.functionName := by
      rw [card, findings]
      exact riskyFunctions_backedBy known.findings given
    have backed : ∀ function ∈ result.card.riskyFunctions, ∃ finding ∈ result.findings,
        Evidence.shortName function.name = Evidence.shortName finding.functionName := by
      intro function member
      rw [functions] at member
      exact of_decide_eq_true (List.mem_filter.mp member).2
    refine ⟨backed, fun _ => ⟨findings ▸ found, given, isCorrected ▸ written, ?_, functions⟩, ?_⟩
    · rw [functions]
      exact List.filter_sublist
    · rintro (none | unfinished)
      · refine List.eq_nil_iff_forall_not_mem.mpr fun function member => ?_
        obtain ⟨finding, isFinding, _⟩ := backed function member
        rw [none] at isFinding
        cases isFinding
      · exact absurd finalized unfinished
  · have none := riskyFunctions_of_not_finalized came finalized
    refine ⟨?_, fun isFinalized => absurd isFinalized finalized, fun _ => none⟩
    rw [none]
    exact fun function member => nomatch member

/-- Of the mended report on the small package, the function stays that a finding is about. -/
theorem vault_warns_of_drain : ∃ result : Result,
    ((run (vaultSetting 1 false false) "" vaultSnapshot).outcome ()).1 = .ok result ∧
      result.card.riskyFunctions = [⟨" drain ", ""⟩] ∧
      ∀ function ∈ result.card.riskyFunctions, ∃ finding ∈ result.findings,
        Evidence.shortName function.name = Evidence.shortName finding.functionName := by
  obtain ⟨result, came, functions⟩ := exists_result_of_map (show
    ((run (vaultSetting 1 false false) "" vaultSnapshot).outcome ()).1.toOption.map
      (fun result => result.card.riskyFunctions) = some [⟨" drain ", ""⟩] by decide +kernel)
  exact ⟨result, came, functions, (risky_functions_stand_on_findings came).1⟩

end MoveAudit.Analysis
