/-
This file says when prompting and scoring share one source. The texts that stand in the prompts are
written from the knowledge base that was given, and findings are scored by it unless it has no
patterns; then they are scored by the bundled one, whatever rules it has of its own. With patterns,
all that goes into a score can be read in the texts.
-/

import Mathlib.Data.List.Infix
import MoveAudit.Knowledge.Display
import MoveAudit.Proofs.Analysis.Standing
import MoveAudit.Proofs.Knowledge.Lookup

namespace MoveAudit

open Json

/-- The lines of a passage stand in a text, one below the other. -/
def Text.HasPassage (text : String) (passage : List String) : Prop :=
  ∃ lines, text = unlines lines ∧ passage <:+: lines

namespace KnowledgeBase

open Text Scoring Analysis

/-! ### Texts -/

/-- A line of a text ends with a number that is added to the score. -/
def SaysBonus (text : String) (bonus : Int) : Prop :=
  ∃ start : String, "current_score += ".toList <:+ start.toList ∧
    HasPassage text [start ++ Numeral.intText bonus ++ "."]

theorem hasPassage_of_mem {lines : List String} {line : String} (member : line ∈ lines) :
    HasPassage (unlines lines) [line] :=
  ⟨lines, rfl, (List.singleton_infix_iff _ _).mpr member⟩

theorem hasPassage_patternLines {base : KnowledgeBase} {pattern : RiskPattern}
    (member : pattern ∈ base.patterns) :
    HasPassage base.displayPatterns (patternLines pattern) := by
  have isOfGroup : pattern ∈ base.patterns.filter (·.severity == pattern.severity) :=
    List.mem_filter.mpr ⟨member, beq_self_eq_true _⟩
  have inGroup : patternLines pattern <:+: base.severityLines pattern.severity := by
    unfold severityLines
    rw [if_neg fun isEmpty => List.ne_nil_of_mem isOfGroup (List.isEmpty_iff.mp isEmpty)]
    exact (List.infix_of_mem_flatten (List.mem_map_of_mem isOfGroup)).trans
      (List.suffix_append _ _).isInfix
  have isSeverity : pattern.severity ∈ Severity.all := by
    cases pattern.severity <;> decide
  have inAll : patternLines pattern <:+: Severity.all.flatMap base.severityLines :=
    inGroup.trans (List.infix_of_mem_flatten (List.mem_map_of_mem isSeverity))
  refine ⟨_, rfl, inAll.trans ?_⟩
  simp only [List.append_assoc]
  exact List.infix_append' _ _ _

theorem hasPassage_pointsLine {base : KnowledgeBase} {severity : Severity} {line : String}
    (isLine : pointsLine? base.scoring severity = some line) :
    HasPassage base.displayPatterns [line] := by
  have isSeverity : severity ∈ Severity.all := by
    cases severity <;> decide
  have member : line ∈ Severity.all.filterMap (pointsLine? base.scoring) :=
    List.mem_filterMap.mpr ⟨severity, isSeverity, isLine⟩
  exact hasPassage_of_mem (by simp only [List.mem_append, member, or_true, true_or])

theorem hasPassage_ruleLine {scoring : ScoringRules} {rule : KeywordRule}
    (member : rule ∈ scoring.rules) :
    HasPassage (displayAlgorithm scoring) [ruleLine rule] :=
  hasPassage_of_mem
    (List.mem_append_left _ (List.mem_append_right _ (List.mem_map_of_mem member)))

/-- Each bonus has its line in the algorithm. -/
theorem saysBonuses (scoring : ScoringRules) :
    SaysBonus (displayAlgorithm scoring) scoring.combinations.massBonus ∧
      SaysBonus (displayAlgorithm scoring) scoring.combinations.clusterBonus ∧
      SaysBonus (displayAlgorithm scoring) scoring.combinations.pauseBonus := by
  have ends (start : String) {last : String} (isLast : "current_score += ".toList <:+ last.toList) :
      "current_score += ".toList <:+ (start ++ last).toList := by
    rw [String.toList_append]
    exact isLast.trans (List.suffix_append _ _)
  have stands {before after : List String} {start : String} {bonus : Int} (place : Nat)
      (isLine : after[place]? = some (start ++ Numeral.intText bonus ++ ".")) :
      HasPassage (unlines (before ++ after)) [start ++ Numeral.intText bonus ++ "."] :=
    hasPassage_of_mem (List.mem_append_right _ (List.mem_of_getElem? isLine))
  exact ⟨⟨_, ends _ (by decide), stands 9 rfl⟩, ⟨_, ends _ (by decide), stands 10 rfl⟩,
    ⟨_, ends _ (by decide), stands 11 rfl⟩⟩

theorem saysBonus_of_mem_effects {base : KnowledgeBase} {findings : List Finding} {effect : Effect}
    (member : effect ∈ (breakdown base findings).effects) :
    SaysBonus (displayAlgorithm base.scoring) effect.bonus := by
  obtain ⟨mass, cluster, pause⟩ := saysBonuses base.scoring
  have isEffect : effect ∈ (massEffect? base.scoring.combinations _).toList ++
    (clusterEffect? base.scoring.combinations _).toList ++ (pauseEffect? base findings).toList :=
      member
  simp only [List.mem_append, Option.mem_toList] at isEffect
  rcases isEffect with (isMass | isCluster) | isPause
  · obtain ⟨-, isEffect⟩ := Option.ite_none_right_eq_some.mp isMass
    cases isEffect
    exact mass
  · obtain ⟨-, isEffect⟩ := Option.ite_none_right_eq_some.mp isCluster
    cases isEffect
    exact cluster
  · obtain ⟨-, isEffect⟩ := Option.ite_none_right_eq_some.mp isPause
    cases isEffect
    exact pause

/-! ### Prompts -/

theorem hasPassage_scoring (findings : List Finding) (knowledge algorithm : String) :
    HasPassage (Prompt.scoring findings knowledge algorithm) [knowledge] ∧
      HasPassage (Prompt.scoring findings knowledge algorithm) [algorithm] := by
  unfold Prompt.scoring
  exact ⟨hasPassage_of_mem (by simp only [List.mem_cons, true_or, or_true]),
    hasPassage_of_mem (by simp only [List.mem_cons, true_or, or_true])⟩

theorem hasPassage_technicalAnalysis (context : Prompt.Context) (flagged : List String)
    (knowledge : String) (patternIds : List String) :
    HasPassage (Prompt.technicalAnalysis context flagged knowledge patternIds) [knowledge] := by
  unfold Prompt.technicalAnalysis
  exact hasPassage_of_mem (by simp only [List.mem_cons, true_or, or_true])

section Needed

open Reasoning

variable {Outcome : Type} {base : KnowledgeBase} (ask : String → Act Desk CallFailure Outcome)

/-- A question that needs the text of the patterns is put with that text, if it can be had. -/
theorem bind_needed_patternText? : (Reasoner.needed base.patternText? >>= ask) =
    if Numeral.areSpellable base.patternNumbers then ask base.displayPatterns
    else throw (.halt .unspellable) := by
  unfold patternText?
  cases Numeral.areSpellable base.patternNumbers <;> rfl

theorem bind_needed_algorithmText? :
    (Reasoner.needed (algorithmText? base.scoring) >>= ask) =
      if Numeral.areSpellable (algorithmNumbers base.scoring) then
        ask (displayAlgorithm base.scoring)
      else throw (.halt .unspellable) := by
  unfold algorithmText?
  cases Numeral.areSpellable (algorithmNumbers base.scoring) <;> rfl

end Needed

/-! ### Contributions -/

/-- All that a contribution is made of can be read in the texts of a knowledge base. -/
structure IsTold (base : KnowledgeBase) (contribution : Contribution) : Prop where
  /-- The points of a known pattern stand with the pattern. -/
  known : contribution.isKnown = true → ∃ pattern ∈ base.patterns,
    base.get? contribution.finding.patternId = some pattern ∧
      contribution.base = pattern.points ∧
      HasPassage base.displayPatterns (patternLines pattern)
  /-- Any other finding has the points of its severity, or none. -/
  unknown : contribution.isKnown = false →
    base.get? contribution.finding.patternId = none ∧
      contribution.base =
        (Entries.get? base.scoring.points contribution.finding.severity).getD 0 ∧
      ∀ line, pointsLine? base.scoring contribution.finding.severity = some line →
        HasPassage base.displayPatterns [line]
  applied : ∀ applied ∈ contribution.applied, ∃ rule ∈ base.scoring.rules,
    applied.rule = rule.name ∧ applied.delta = rule.delta ∧
      HasPassage (displayAlgorithm base.scoring) [ruleLine rule]

theorem isTold_contributionOf (base : KnowledgeBase) (finding : Finding) :
    base.IsTold (contributionOf base finding) := by
  have applied : ∀ applied ∈ (contributionOf base finding).applied, ∃ rule ∈ base.scoring.rules,
      applied.rule = rule.name ∧ applied.delta = rule.delta ∧
        HasPassage (displayAlgorithm base.scoring) [ruleLine rule] := by
    intro applied member
    obtain ⟨rule, isRule, isApplied⟩ := List.mem_filterMap.mp member
    obtain ⟨note, -, rfl⟩ := Option.map_eq_some_iff.mp isApplied
    exact ⟨rule, isRule, rfl, rfl, hasPassage_ruleLine isRule⟩
  cases found : base.get? finding.patternId with
  | some pattern =>
    have starts : base.pointsFor finding.patternId finding.severity = (pattern.points, true) := by
      rw [pointsFor, found]
    have isKnown : (contributionOf base finding).isKnown = true := congrArg Prod.snd starts
    have member := mem_of_get?_eq_some found
    refine ⟨fun _ => ⟨pattern, member, found, congrArg Prod.fst starts, ?_⟩, ?_, applied⟩
    · exact hasPassage_patternLines member
    · exact fun isUnknown => absurd isKnown (ne_true_of_eq_false isUnknown)
  | none =>
    have starts : base.pointsFor finding.patternId finding.severity =
        ((Entries.get? base.scoring.points finding.severity).getD 0, false) := by
      rw [pointsFor, found]
    have isUnknown : (contributionOf base finding).isKnown = false := congrArg Prod.snd starts
    refine ⟨fun isKnown => absurd isKnown (ne_true_of_eq_false isUnknown), ?_, applied⟩
    exact fun _ => ⟨found, congrArg Prod.fst starts, fun line => hasPassage_pointsLine⟩

/-! ### One source -/

/-- Prompting and scoring share a knowledge base as their source. -/
structure IsOneSource (base : KnowledgeBase) : Prop where
  /-- A model that is asked for findings has the patterns before it, and is not asked at all when one
  of their numbers cannot be spelled. -/
  askedForFindings : ∀ (settings : Reasoning.Settings) (session : String)
    (context : Prompt.Context) (flagged : List String), ∃ request,
      (Reasoner.ofModel settings base).analyse session context flagged =
        (if Numeral.areSpellable base.patternNumbers then
          Reasoning.call settings Reasoner.technicalSchema request
        else throw (.halt .unspellable)) ∧
      HasPassage request.prompt [base.displayPatterns]
  /-- A model that is asked for a score has the patterns and the algorithm before it, and is not asked
  at all when one of their numbers cannot be spelled. -/
  askedForScore : ∀ (settings : Reasoning.Settings) (session : String) (findings : List Finding),
    ∃ request,
      (Reasoner.ofModel settings base).score session findings =
        (if Numeral.areSpellable base.patternNumbers &&
            Numeral.areSpellable (algorithmNumbers base.scoring) then
          Reasoning.call settings Reasoner.scoreSchema request
        else throw (.halt .unspellable)) ∧
      HasPassage request.prompt [base.displayPatterns] ∧
      HasPassage request.prompt [displayAlgorithm base.scoring]
  /-- A scorer that is given the knowledge base scores by it. -/
  scorer : ∀ findings, breakdown base.orBundled findings = breakdown base findings
  /-- What it scores by can be read in those texts. -/
  told : ∀ findings, ∀ contribution ∈ (breakdown base.orBundled findings).contributions,
    base.IsTold contribution
  bonuses : ∀ findings, ∀ effect ∈ (breakdown base.orBundled findings).effects,
    SaysBonus (displayAlgorithm base.scoring) effect.bonus
  /-- An analysis that is given the knowledge base reviews and scores its findings by it. -/
  analyses : ∀ {World Reason : Type} (setting : Analysis.Setting World Reason) (session : String)
    (snapshot : Chain.Snapshot) (world : World) (result : Result),
    setting.base = base.orBundled →
      ((run setting session snapshot).outcome world).1 = .ok result → result.stage = .finalized →
        StandsOnFindings base snapshot (exchangesOf setting session snapshot world) result

theorem isOneSource_of_patterns {base : KnowledgeBase} (hasPatterns : base.patterns ≠ []) :
    base.IsOneSource := by
  have isOwn := orBundled_of_patterns hasPatterns
  constructor
  · intro settings session context flagged
    exact ⟨Reasoner.technicalQuestion base session context flagged base.displayPatterns,
      bind_needed_patternText? _, hasPassage_technicalAnalysis context flagged _ _⟩
  · intro settings session findings
    refine ⟨Reasoner.scoringQuestion session findings base.displayPatterns
      (displayAlgorithm base.scoring), ?_, hasPassage_scoring findings _ _⟩
    refine (bind_needed_patternText? _).trans ?_
    rw [bind_needed_algorithmText?]
    cases Numeral.areSpellable base.patternNumbers with
    | true => simp only [Bool.true_and, if_true]
    | false => rfl
  · intro findings
    rw [isOwn]
  · rw [isOwn]
    intro findings contribution member
    obtain ⟨finding, -, rfl⟩ := List.mem_map.mp member
    exact isTold_contributionOf base finding
  · rw [isOwn]
    exact fun findings effect => saysBonus_of_mem_effects
  · intro World Reason setting session snapshot world result isBase came finalized
    rw [isOwn] at isBase
    rw [← isBase]
    exact standsOnFindings came finalized

/-- A finding of a pattern that the bundled knowledge base has. -/
def bundledFinding : Finding :=
  ⟨"drain", "", "CRITICAL-01", .critical, [], "", true⟩

theorem isKnown_bundledFinding : (contributionOf bundled bundledFinding).isKnown = true := by
  decide +kernel

/-- A knowledge base is the one source of prompting and scoring exactly if it has patterns. -/
theorem is_one_source_iff {base : KnowledgeBase} : base.IsOneSource ↔ base.patterns ≠ [] := by
  refine ⟨fun isSource noPatterns => ?_, isOneSource_of_patterns⟩
  have scored := isSource.scorer [bundledFinding]
  rw [orBundled_of_no_patterns noPatterns] at scored
  have same : contributionOf bundled bundledFinding = contributionOf base bundledFinding :=
    List.singleton_inj.mp (congrArg Breakdown.contributions scored)
  have isKnown : (contributionOf base bundledFinding).isKnown = true := by
    rw [← same, isKnown_bundledFinding]
  obtain ⟨pattern, member, -⟩ := (isTold_contributionOf base bundledFinding).known isKnown
  rw [noPatterns] at member
  cases member

/-- A document without patterns and with points for findings of low severity. -/
def emptyDocument : Value :=
  .object [("patterns", .array []), ("scoring", .object [("severity_points",
    .object [("Low", .int 7)])])]

/-- The knowledge base of the document. -/
def emptyBase : KnowledgeBase :=
  { version := .number 1, patterns := [], scoring := { points := [(.low, 7)] } }

/-- A finding of low severity. -/
def lowFinding : Finding :=
  ⟨"f", "r", "NEW", .low, [], noEvidence, false⟩

/-- The model is told of 7 points for the finding, and it is scored with the bundled 1. -/
theorem empty_is_not_the_source : ofDocument emptyDocument = .ok emptyBase ∧
    (breakdown emptyBase [lowFinding]).sum = 7 ∧
    (breakdown emptyBase.orBundled [lowFinding]).sum = 1 ∧ ¬ emptyBase.IsOneSource := by
  have own : (breakdown emptyBase [lowFinding]).sum = 7 := by decide +kernel
  have scored : (breakdown emptyBase.orBundled [lowFinding]).sum = 1 := by decide +kernel
  refine ⟨rfl, own, scored, fun isSource => ?_⟩
  rw [isSource.scorer, own] at scored
  exact absurd scored (by decide)

end KnowledgeBase

end MoveAudit
