/-
This file says which risks dependencies pass on when the cache is a store in memory that holds
verdicts. A dependency counts with its score on the network that is asked for, or with its highest
score on any network; it passes on a risk exactly if that score is one of the two levels in the
middle, and each dependency does so once, where it is mentioned first.
-/

import Mathlib.Tactic.Choose
import MoveAudit.Dependency.Risk
import MoveAudit.Proofs.Cache.Kept

namespace MoveAudit.Dependency

open Json

/-! ### The score that counts -/

/-- The score in the document of a card. -/
def scoreIn? (document : Value) : Option Int :=
  match document.part "risk_score" with
  | .int score => some score
  | _ => none

/-- The score that is kept for a package on a network. -/
def scoreOn? (values : Members) (package : String) (network : Network) : Option Int :=
  (Entries.get? values (Cache.key package network.word)).bind scoreIn?

/-- The score that counts for a package: the one on a network, or the highest on any. -/
def countingScore? (values : Members) (mode : Mode) (network : Network) (package : String) :
    Option Int :=
  match mode with
  | .network => scoreOn? values package network
  | .anyNetwork => (Network.all.filterMap (scoreOn? values package)).max?

/-- The risk that a package passes on with a score. -/
def passedOnAt? (package : String) (score : Int) : Option DependencyRisk :=
  if 30 ≤ score ∧ score ≤ 69 then some ⟨.string package, score, .ofScore score⟩ else none

theorem isPassedOn_ofScore (score : Int) :
    isPassedOn (.ofScore score) = true ↔ 30 ≤ score ∧ score ≤ 69 := by
  unfold RiskLevel.ofScore
  split
  · simp [isPassedOn]; omega
  split
  · simp [isPassedOn]; omega
  split
  · simp [isPassedOn]; omega
  · simp [isPassedOn]; omega

/-- The highest score is that of the first card that has it. -/
theorem score_worst? (cards : List Card) :
    (worst? cards).map (·.score) = (cards.map (·.score)).max? := by
  cases cards with
  | nil => rfl
  | cons first rest =>
    unfold worst?
    rw [List.foldl_cons, List.map_cons, List.max?_cons']
    dsimp only
    induction rest generalizing first with
    | nil => rfl
    | cons card rest inductionHypothesis =>
      rw [List.foldl_cons, List.map_cons, List.foldl_cons]
      dsimp only
      by_cases higher : first.score < card.score
      · rw [if_pos higher, inductionHypothesis, Int.max_eq_right (Int.le_of_lt higher)]
      · rw [if_neg higher, inductionHypothesis, Int.max_eq_left (Int.not_lt.mp higher)]

theorem worst?_mem {cards : List Card} {card : Card} (isWorst : worst? cards = some card) :
    card ∈ cards := by
  cases cards with
  | nil => cases isWorst
  | cons first rest =>
    unfold worst? at isWorst
    rw [List.foldl_cons] at isWorst
    dsimp only at isWorst
    induction rest generalizing first with
    | nil =>
      cases isWorst
      exact List.mem_cons_self
    | cons other rest inductionHypothesis =>
      rw [List.foldl_cons] at isWorst
      dsimp only at isWorst
      split at isWorst
      · exact List.mem_cons_of_mem _ (inductionHypothesis other isWorst)
      · rcases List.mem_cons.mp (inductionHypothesis first isWorst) with rfl | isLater
        · exact List.mem_cons_self
        · exact List.mem_cons_of_mem _ (List.mem_cons_of_mem _ isLater)

/-- Lists with the same members have the same highest member. -/
theorem max?_eq_of_mem_iff {scores others : List Int}
    (same : ∀ score, score ∈ scores ↔ score ∈ others) : scores.max? = others.max? := by
  cases highest : scores.max? with
  | none =>
    rw [List.max?_eq_none_iff] at highest
    subst highest
    have none : others = [] :=
      List.eq_nil_iff_forall_not_mem.mpr fun score member => nomatch (same score).mpr member
    rw [none]
    rfl
  | some score =>
    rw [List.max?_eq_some_iff] at highest
    refine (List.max?_eq_some_iff.mpr ⟨(same score).mp highest.1, fun other member => ?_⟩).symm
    exact highest.2 other ((same other).mpr member)

/-- A text counts as no other value. -/
theorem eq_of_string_beq {text : String} {other : Value}
    (same : (Value.string text == other) = true) : Value.string text = other := by
  cases other with
  | string otherText =>
    exact congrArg Value.string (eq_of_beq (show (text == otherText) = true from same))
  | float number =>
    have differs : (Value.string text).countsAs (.float number) = true := same
    cases whole : number.whole? <;> simp [Value.countsAs, Value.counted, whole] at differs
  | _ => cases same

/-! ### Looking up leaves a store alone -/

theorem keeps_riskOf? {values : Members} (mode : Mode) (network : String) (dependency : Value) :
    (riskOf? mode network dependency).Keeps fun store => store = .memory values := by
  unfold riskOf?
  refine .bind (.settle ?_) fun card? => ?_
  · cases mode with
    | network => exact Cache.keeps_get _
    | anyNetwork => exact .bind (Cache.keeps_findAnyNetwork dependency) fun _ => .pure _
  · split
    · exact .bind (.note _) fun _ => .pure _
    · exact .pure _
    · exact .pure _

theorem keeps_risks {values : Members} (mode : Mode) (network : String) (dependencies : List Value) :
    (risks mode network dependencies).Keeps fun store => store = .memory values := by
  unfold risks
  split
  · exact .bind (.throw _) fun _ => .bind (.mapM _ (keeps_riskOf? mode network)) fun _ =>
      .bind (.note _) fun _ => .pure _
  · exact .bind (.mapM _ (keeps_riskOf? mode network)) fun _ => .bind (.note _) fun _ => .pure _

/-! ### Looking up in a store of verdicts -/

section Verdicts

variable {values : Members} (verdicts : Cache.AreVerdicts values)
include verdicts

theorem scoreOn?_eq (package : String) (network : Network) :
    scoreOn? values package network =
      (Cache.cardUnder? values (Cache.key package network.word)).map (·.score) := by
  unfold scoreOn?
  cases found : Entries.get? values (Cache.key package network.word) with
  | none =>
    unfold Cache.cardUnder?
    rw [found]
    rfl
  | some document =>
    obtain ⟨card, rfl, _, isUnder⟩ := verdicts.exists_card found
    rw [isUnder]
    rfl

theorem mem_scores_iff {package : String} {found : List (String × Card)}
    (isFound : ∀ name card, (name, card) ∈ found ↔ ∃ network : Network, name = network.word ∧
      Cache.cardUnder? values (Cache.key package network.word) = some card) (score : Int) :
    score ∈ (found.map (·.2)).map (·.score) ↔
      score ∈ Network.all.filterMap (scoreOn? values package) := by
  simp only [List.mem_map, List.mem_filterMap, scoreOn?_eq verdicts, Option.map_eq_some_iff,
    Prod.exists]
  constructor
  · rintro ⟨card, ⟨name, other, member, rfl⟩, rfl⟩
    obtain ⟨network, _, isUnder⟩ := (isFound name _).mp member
    exact ⟨network, by cases network <;> decide, _, isUnder, rfl⟩
  · rintro ⟨network, _, card, isUnder, rfl⟩
    exact ⟨card, ⟨network.word, card, (isFound _ _).mpr ⟨network, rfl, isUnder⟩, rfl⟩, rfl⟩

/-- The card that is found has the score that counts. -/
theorem run_cardOf (mode : Mode) (network : Network) (package : String)
    (notices : List Notice) : ∃ card? : Option Card,
      (cardOf mode network.word (.string package)).run ⟨.memory values, notices⟩ =
        (.ok card?, ⟨.memory values, notices⟩) ∧
      card?.map (·.score) = countingScore? values mode network package ∧
      ∀ card, card? = some card → card.IsSound := by
  cases mode with
  | network =>
    exact ⟨_, verdicts.run_get _ notices, (scoreOn?_eq verdicts package network).symm,
      fun card isUnder => verdicts.isSound isUnder⟩
  | anyNetwork =>
    obtain ⟨found, ran, isFound⟩ := verdicts.run_findAnyNetwork package notices
    refine ⟨worst? (found.map (·.2)), Act.run_bind_ok _ ran, ?_, fun card isWorst => ?_⟩
    · rw [score_worst?]
      exact max?_eq_of_mem_iff (mem_scores_iff verdicts isFound)
    · obtain ⟨⟨name, card⟩, member, rfl⟩ := List.mem_map.mp (worst?_mem isWorst)
      obtain ⟨other, _, isUnder⟩ := (isFound name card).mp member
      exact verdicts.isSound isUnder

theorem run_riskOf? (mode : Mode) (network : Network) (package : String)
    (notices : List Notice) :
    (riskOf? mode network.word (.string package)).run ⟨.memory values, notices⟩ =
      (.ok ((countingScore? values mode network package).bind (passedOnAt? package)),
        ⟨.memory values, notices⟩) := by
  obtain ⟨card?, ran, score, sound⟩ := run_cardOf verdicts mode network package notices
  unfold riskOf?
  rw [Act.run_bind_ok _ (Act.run_settle ran), ← score]
  cases card? with
  | none => rfl
  | some card =>
    have level := (sound card rfl).2
    show (Except.ok (if isPassedOn card.level = true then
      some (DependencyRisk.mk (.string package) card.score card.level) else none), _) =
        (Except.ok (passedOnAt? package card.score), _)
    rw [level]
    unfold passedOnAt?
    by_cases passes : isPassedOn (.ofScore card.score) = true
    · rw [if_pos passes, if_pos ((isPassedOn_ofScore _).mp passes)]
    · rw [if_neg passes, if_neg fun inRange => passes ((isPassedOn_ofScore _).mpr inRange)]

/-- The risks that packages pass on are those at the scores that count, each package once, where it
is mentioned first. -/
theorem run_risks (mode : Mode) (network : Network) (packages : List String)
    (notices : List Notice) : ∃ more,
      (risks mode network.word (packages.map .string)).run ⟨.memory values, notices⟩ =
        (.ok (packages.eraseDups.filterMap fun package =>
          (countingScore? values mode network package).bind (passedOnAt? package)),
          ⟨.memory values, more⟩) := by
  have plain : (packages.map Value.string).all Chain.isPlain = true := by
    rw [List.all_map]
    exact List.all_eq_true.mpr fun _ _ => rfl
  have once : Entries.distinct (packages.map Value.string) = packages.eraseDups.map .string := by
    have told (one other : String) : (Value.string one == .string other) = (one == other) := rfl
    rw [Entries.distinct_map told, Entries.distinct_eq_eraseDups]
  let passedOn := fun package =>
    (countingScore? values mode network package).bind (passedOnAt? package)
  have found : (packages.eraseDups.mapM (riskOf? mode network.word ∘ Value.string)).run
      ⟨.memory values, notices⟩ =
        (.ok (packages.eraseDups.map passedOn), ⟨.memory values, notices⟩) :=
    Act.run_mapM _ fun package _ => run_riskOf? verdicts mode network package notices
  have whole : packages.eraseDups.filterMap passedOn =
      (packages.eraseDups.map passedOn).filterMap id := by
    rw [List.filterMap_map]
    rfl
  unfold risks
  rw [plain, once, List.mapM_map, whole]
  exact ⟨_, Act.run_bind_ok _ found⟩

/-- Whatever is looked up is found or not, and a risk that it passes on is its own. -/
theorem exists_run_riskOf? (mode : Mode) (network : Network) (dependency : Value)
    (notices : List Notice) : ∃ risk? : Option DependencyRisk,
      (riskOf? mode network.word dependency).run ⟨.memory values, notices⟩ =
        (.ok risk?, ⟨.memory values, notices⟩) ∧
      ∀ risk, risk? = some risk → risk.id = dependency := by
  have looked : ∃ card? : Option Card,
      (cardOf mode network.word dependency).run ⟨.memory values, notices⟩ =
        (.ok card?, ⟨.memory values, notices⟩) := by
    cases text : dependency.text? with
    | some package =>
      obtain rfl : dependency = .string package := by
        cases dependency with
        | string text => exact congrArg Value.string (Option.some.inj text)
        | _ => cases text
      obtain ⟨card?, ran, _⟩ := run_cardOf verdicts mode network package notices
      exact ⟨card?, ran⟩
    | none =>
      cases mode with
      | network => exact ⟨_, verdicts.run_get _ notices⟩
      | anyNetwork =>
        exact ⟨none, Act.run_bind_ok _ (Cache.AreVerdicts.run_findAnyNetwork_of_no_text text _)⟩
  obtain ⟨card?, ran⟩ := looked
  unfold riskOf?
  rw [Act.run_bind_ok _ (Act.run_settle ran)]
  cases card? with
  | none => exact ⟨none, rfl, nofun⟩
  | some card =>
    refine ⟨_, rfl, fun risk same => ?_⟩
    simp only [Option.ite_none_right_eq_some, Option.some.injEq] at same
    rw [← same.2]

/-- Among any dependencies that can be looked up, a package passes on the risk at its score exactly
if it is one of them. -/
theorem exists_run_risks (mode : Mode) (network : Network) {dependencies : List Value}
    (plain : dependencies.all Chain.isPlain = true) (notices : List Notice) :
    ∃ (found : List DependencyRisk) (more : List Notice),
      (risks mode network.word dependencies).run ⟨.memory values, notices⟩ =
        (.ok found, ⟨.memory values, more⟩) ∧
      ∀ (package : String) (risk : DependencyRisk), risk.id = .string package →
        (risk ∈ found ↔ .string package ∈ dependencies ∧
          (countingScore? values mode network package).bind (passedOnAt? package) =
            some risk) := by
  choose riskIn ran own using
    fun dependency => exists_run_riskOf? verdicts mode network dependency notices
  have found := Act.run_mapM (Entries.distinct dependencies) fun dependency _ => ran dependency
  obtain ⟨more, whole⟩ : ∃ more,
      (risks mode network.word dependencies).run ⟨.memory values, notices⟩ =
        (.ok (((Entries.distinct dependencies).map riskIn).filterMap id),
          ⟨.memory values, more⟩) := by
    unfold risks
    rw [plain]
    exact ⟨_, Act.run_bind_ok _ found⟩
  refine ⟨_, more, whole, fun package risk named => ?_⟩
  have isOwn : riskIn (.string package) =
      (countingScore? values mode network package).bind (passedOnAt? package) :=
    Except.ok.inj (congrArg Prod.fst
      ((ran (.string package)).symm.trans (run_riskOf? verdicts mode network package notices)))
  rw [← isOwn, ← Entries.mem_distinct_of_alone fun _ => eq_of_string_beq]
  simp only [List.mem_filterMap, List.mem_map, id, exists_eq_right]
  constructor
  · rintro ⟨dependency, member, isRisk⟩
    have same := own dependency risk isRisk
    rw [← named, same]
    exact ⟨member, isRisk⟩
  · exact fun holds => ⟨_, holds.1, holds.2⟩

end Verdicts

end MoveAudit.Dependency
