/-
This file proves how an analysis can end. One that succeeds was answered at every stage of its lane.
One that fails stops at the first stage that is not answered, and nothing is asked after that. There
is one more way to fail: when the findings have no score, since their points exceed every bound or
cannot be spelled, the analysis ends with neither a card nor a stage that was not answered.
-/

import MoveAudit.Proofs.Analysis.Lanes

namespace MoveAudit.Analysis

open Json Chain

variable {World Reason : Type}

/-! ### How an analysis ends -/

/-- What the technical analysis found has no score, for a reason. -/
def IsScoreless (base : KnowledgeBase) (snapshot : Snapshot) (exchanges : List (Exchange Reason))
    (fault : Scoring.Fault) : Prop :=
  ∃ package analysis, packageOf snapshot = .ok package ∧
    latest? Exchange.analysis? exchanges = some analysis ∧
    Scoring.report base (Evidence.reviewed base package analysis.findings) = .error fault

/-- An analysis breaks off at the first stage that was not answered. It asked what an analysis asks,
in order, and nothing after that; it had the package's functions analysed only when some were
flagged, and its report mended only when that did not agree with the findings. -/
def BreaksOff (asksForScore : Bool) (snapshot : Snapshot) (exchanges : List (Exchange Reason))
    (reason : Reason) : Prop :=
  (∃ before last, exchanges = before ++ [last] ∧
      (∀ exchange ∈ before, exchange.reason? = none) ∧ last.reason? = some reason) ∧
    exchanges.map Exchange.topic <+: (Lane.full true).topics asksForScore ∧
    (∃ package, packageOf snapshot = .ok package ∧ package.functions ≠ []) ∧
    (Topic.analysis ∈ exchanges.map Exchange.topic → ∃ triage,
      latest? Exchange.triage? exchanges = some triage ∧ triage.flagged ≠ []) ∧
    (Topic.correction ∈ exchanges.map Exchange.topic → ∃ critique,
      latest? Exchange.critique? exchanges = some critique ∧ critique.isConsistent = false)

/-- An analysis is done at the end of a lane, and every stage on it was answered: the short ones are
taken exactly when there are no functions, or when nothing was flagged, and the report was mended
exactly when it did not agree with the findings. -/
def Completes (asksForScore : Bool) (snapshot : Snapshot) (exchanges : List (Exchange Reason))
    (result : Result) : Prop :=
  (∀ exchange ∈ exchanges, exchange.reason? = none) ∧ ∃ lane : Lane,
    result.history = lane.stages ∧ exchanges.map Exchange.topic = lane.topics asksForScore ∧
    (lane = .noFunctions ↔ ∃ package, packageOf snapshot = .ok package ∧ package.functions = []) ∧
    (lane = .cleanTriage ↔
      (∃ package, packageOf snapshot = .ok package ∧ package.functions ≠ []) ∧
      ∃ triage, latest? Exchange.triage? exchanges = some triage ∧ triage.flagged = []) ∧
    ∀ isMended, lane = .full isMended → ∃ critique,
      latest? Exchange.critique? exchanges = some critique ∧ isMended = !critique.isConsistent

section Ends

variable {base : KnowledgeBase} {asksForScore : Bool} {snapshot : Snapshot}
  {exchanges before : List (Exchange Reason)} {last : Exchange Reason} {reason : Reason}
  {fault : Scoring.Fault}

/-- What was never asked was never answered. -/
theorem latest?_analysis_eq_none (absent : Topic.analysis ∉ exchanges.map Exchange.topic) :
    latest? Exchange.analysis? exchanges = none := by
  have none : exchanges.filterMap Exchange.analysis? = [] := by
    refine List.filterMap_eq_nil_iff.mpr fun exchange member => ?_
    cases exchange with
    | analysis answer => exact absurd (List.mem_map_of_mem member) absent
    | _ => rfl
  unfold latest?
  rw [none]
  rfl

theorem not_isScoreless_of_absent (absent : Topic.analysis ∉ exchanges.map Exchange.topic) :
    ¬ IsScoreless base snapshot exchanges fault := by
  rintro ⟨package, analysis, _, answered, _⟩
  rw [latest?_analysis_eq_none absent] at answered
  cases answered

/-- There is one reason only. -/
theorem IsScoreless.unique {other : Scoring.Fault}
    (scoreless : IsScoreless base snapshot exchanges fault)
    (scorelessToo : IsScoreless base snapshot exchanges other) : fault = other := by
  obtain ⟨package, analysis, read, answered, fails⟩ := scoreless
  obtain ⟨otherPackage, otherAnalysis, readToo, answeredToo, failsToo⟩ := scorelessToo
  rw [read] at readToo
  rw [answered] at answeredToo
  cases readToo
  cases answeredToo
  exact Except.error.inj (fails.symm.trans failsToo)

theorem IsFound.hasFunctions {findings : List Finding}
    (found : IsFound base snapshot exchanges findings) :
    ∃ package, packageOf snapshot = .ok package ∧ package.functions ≠ [] := by
  obtain ⟨package, _, _, read, hasFunctions, _⟩ := found
  exact ⟨package, read, hasFunctions⟩

theorem IsFound.flagged {findings : List Finding}
    (found : IsFound base snapshot exchanges findings) :
    ∃ triage, latest? Exchange.triage? exchanges = some triage ∧ triage.flagged ≠ [] := by
  obtain ⟨_, triage, _, _, _, answered, flagged, _⟩ := found
  exact ⟨triage, answered, flagged⟩

/-- Findings have no score as the rules say. -/
theorem IsFound.isScoreless_iff {findings : List Finding}
    (found : IsFound base snapshot exchanges findings) :
    IsScoreless base snapshot exchanges fault ↔ Scoring.report base findings = .error fault := by
  obtain ⟨package, triage, analysis, read, _, _, _, answered, rfl⟩ := found
  constructor
  · rintro ⟨otherPackage, otherAnalysis, readToo, answeredToo, fails⟩
    rw [read] at readToo
    rw [answered] at answeredToo
    cases readToo
    cases answeredToo
    exact fails
  · exact fun fails => ⟨package, analysis, read, answered, fails⟩

theorem IsFound.not_isScoreless {findings : List Finding} {own : ScoreReport}
    (found : IsFound base snapshot exchanges findings)
    (fits : Scoring.report base findings = .ok own) :
    ¬ IsScoreless base snapshot exchanges fault := by
  rw [found.isScoreless_iff, fits]
  nofun

/-- Who gives no answer gives neither the flagged functions nor a critique. -/
theorem Exchange.unanswered (failed : last.reason? = some reason) :
    last.triage? = none ∧ last.analysis? = none ∧ last.critique? = none := by
  cases last with
  | triage answer => cases answer with
    | ok triage => cases failed
    | error reason => exact ⟨rfl, rfl, rfl⟩
  | analysis answer => cases answer with
    | ok analysis => cases failed
    | error reason => exact ⟨rfl, rfl, rfl⟩
  | critique answer => cases answer with
    | ok critique => cases failed
    | error reason => exact ⟨rfl, rfl, rfl⟩
  | _ => exact ⟨rfl, rfl, rfl⟩

theorem isScoreless_concat_iff (failed : last.reason? = some reason) :
    IsScoreless base snapshot (before ++ [last]) fault ↔ IsScoreless base snapshot before fault := by
  unfold IsScoreless
  rw [latest?_concat_of_none (last.unanswered failed).2.1]

/-- An analysis breaks off where its next stage is not answered. -/
theorem BreaksOff.intro {topics : List Topic}
    (answered : ∀ exchange ∈ before, exchange.reason? = none) (failed : last.reason? = some reason)
    (asked : before.map Exchange.topic = topics)
    (inOrder : topics ++ [last.topic] <+: (Lane.full true).topics asksForScore)
    (hasFunctions : ∃ package, packageOf snapshot = .ok package ∧ package.functions ≠ [])
    (flagged : Topic.analysis ∈ topics ++ [last.topic] → ∃ triage,
      latest? Exchange.triage? before = some triage ∧ triage.flagged ≠ [])
    (inconsistent : Topic.correction ∈ topics ++ [last.topic] → ∃ critique,
      latest? Exchange.critique? before = some critique ∧ critique.isConsistent = false) :
    BreaksOff asksForScore snapshot (before ++ [last]) reason := by
  have allAsked : (before ++ [last]).map Exchange.topic = topics ++ [last.topic] := by
    rw [List.map_append, asked]
    rfl
  obtain ⟨noTriage, _, noCritique⟩ := last.unanswered failed
  unfold BreaksOff
  rw [allAsked, latest?_concat_of_none noTriage, latest?_concat_of_none noCritique]
  exact ⟨⟨before, last, rfl, answered, failed⟩, inOrder, hasFunctions, flagged, inconsistent⟩

end Ends

/-! ### What is known when a stage is not answered -/

section Awaits

variable {base : KnowledgeBase} {asksForScore : Bool} {snapshot : Snapshot}
  {exchanges : List (Exchange Reason)} {progress : Progress} {topic : Topic}
  (awaits : progress.Awaits topic)
include awaits

namespace Progress.Awaits

theorem left_ne_zero : progress.left ≠ 0 := by
  cases awaits <;> exact Nat.succ_ne_zero _

/-- Whatever is asked next is asked in order. -/
theorem inOrder :
    progress.topics asksForScore ++ [topic] <+: (Lane.full true).topics asksForScore := by
  cases awaits with
  | triage context => exact ⟨_, rfl⟩
  | analysis context some => exact ⟨_, rfl⟩
  | report known => cases asksForScore <;> exact ⟨[.critique, .correction], rfl⟩
  | critique known draft => cases asksForScore <;> exact ⟨[.correction], rfl⟩
  | correction known draft inconsistent => exact ⟨[], List.append_nil _⟩

variable (rests : progress.RestsOn base snapshot exchanges)
include rests

theorem hasFunctions : ∃ package, packageOf snapshot = .ok package ∧ package.functions ≠ [] := by
  cases awaits with
  | triage context =>
    obtain ⟨package, read, hasFunctions, _⟩ := rests
    exact ⟨package, read, hasFunctions⟩
  | analysis context some =>
    obtain ⟨⟨package, read, hasFunctions, _⟩, _⟩ := rests
    exact ⟨package, read, hasFunctions⟩
  | report known => exact IsFound.hasFunctions rests.1
  | critique known draft => exact IsFound.hasFunctions rests.1
  | correction known draft inconsistent => exact IsFound.hasFunctions rests.1

theorem flagged (asked : Topic.analysis ∈ progress.topics asksForScore ++ [topic]) :
    ∃ triage, latest? Exchange.triage? exchanges = some triage ∧ triage.flagged ≠ [] := by
  cases awaits with
  | triage context => simp [Progress.topics] at asked
  | analysis context some =>
    obtain ⟨_, triage, answered, isFlagged⟩ := rests
    exact ⟨triage, answered, fun none => some (isFlagged.trans (Entries.distinct_eq_nil.mpr none))⟩
  | report known => exact IsFound.flagged rests.1
  | critique known draft => exact IsFound.flagged rests.1
  | correction known draft inconsistent => exact IsFound.flagged rests.1

theorem inconsistent (asked : Topic.correction ∈ progress.topics asksForScore ++ [topic]) :
    ∃ critique, latest? Exchange.critique? exchanges = some critique ∧
      critique.isConsistent = false := by
  cases awaits with
  | correction known draft inconsistent =>
    obtain ⟨_, _, _, answered⟩ := rests
    exact ⟨_, answered, inconsistent⟩
  | _ => cases asksForScore <;> simp [Progress.topics] at asked

theorem not_isScoreless (topics : exchanges.map Exchange.topic = progress.topics asksForScore)
    (fault : Scoring.Fault) : ¬ IsScoreless base snapshot exchanges fault := by
  have fits {known : Scored} (found : IsFound base snapshot exchanges known.findings)
      (scored : IsScored base known) : ¬ IsScoreless base snapshot exchanges fault := by
    obtain ⟨own, fits, _⟩ := scored
    exact found.not_isScoreless fits
  cases awaits with
  | triage context =>
    refine not_isScoreless_of_absent ?_
    simp [topics, Progress.topics]
  | analysis context some =>
    refine not_isScoreless_of_absent ?_
    simp [topics, Progress.topics]
  | report known => exact fits rests.1 rests.2
  | critique known draft => exact fits rests.1 rests.2.1
  | correction known draft inconsistent => exact fits rests.1 rests.2.1

end Progress.Awaits

end Awaits

/-- A step that stops an analysis is a stage that was not answered, or findings without a score, as
long as what is needed of the package can be had. -/
theorem Stops.ends {setting : Setting World Reason} {session : String} {snapshot : Snapshot}
    {before more : List (Exchange Reason)} {run : Run} {failure : Failure Reason}
    {package : Move.Package} (stops : Stops setting run more failure)
    (goes : Goes setting (.begin_ session snapshot) before run)
    (read : packageOf snapshot = .ok package)
    (resolves : ∀ scene failure, ((gatherContext setting package).run scene).1 ≠ .error failure) :
    (∃ reason, failure = .reasoning reason ∧
        BreaksOff setting.asksForScore snapshot (before ++ more) reason ∧
        ∀ fault, ¬ IsScoreless setting.base snapshot (before ++ more) fault) ∨
      ∃ fault, failure = .unscored fault ∧
        IsScoreless setting.base snapshot (before ++ more) fault := by
  cases stops with
  | unread stands fails =>
    obtain ⟨_, _, rests⟩ := goes.accounts.underWay stands (Nat.succ_ne_zero _)
    obtain rfl : _ = snapshot := rests
    rw [read] at fails
    cases fails
  | unresolved stands some fails =>
    obtain ⟨_, _, readToo⟩ := goes.accounts.underWay stands (Nat.succ_ne_zero _)
    obtain ⟨scene, fails⟩ := fails
    obtain rfl : _ = package := Except.ok.inj (Eq.trans (Eq.symm readToo) read)
    exact absurd fails (resolves scene _)
  | scoreless stands fails =>
    obtain ⟨_, _, found⟩ := goes.accounts.underWay stands (Nat.succ_ne_zero _)
    rw [List.append_nil]
    exact Or.inr ⟨_, rfl, (IsFound.isScoreless_iff found).mpr fails⟩
  | @unscored known own reason stands fits asks =>
    obtain ⟨_, topics, found⟩ := goes.accounts.underWay stands (Nat.succ_ne_zero _)
    refine Or.inl ⟨reason, rfl, .intro goes.answered rfl topics ?_ (IsFound.hasFunctions found)
      (fun _ => IsFound.flagged found) nofun, ?_⟩
    · rw [asks]
      exact ⟨[.report, .critique, .correction], rfl⟩
    · exact fun fault => IsFound.not_isScoreless (IsFound.concat found rfl rfl) fits
  | @unanswered last reason awaits failed =>
    obtain ⟨_, topics, rests⟩ := goes.accounts.underWay rfl awaits.left_ne_zero
    refine Or.inl ⟨reason, rfl, ?_, ?_⟩
    · exact .intro goes.answered failed topics awaits.inOrder (awaits.hasFunctions rests)
        (awaits.flagged rests) (awaits.inconsistent rests)
    · intro fault
      rw [isScoreless_concat_iff failed]
      exact awaits.not_isScoreless rests topics fault

/-- An analysis that is done has gone down its lane to the end. -/
theorem Goes.completes {setting : Setting World Reason} {session : String} {snapshot : Snapshot}
    {exchanges : List (Exchange Reason)} {run : Run} {result : Result}
    (goes : Goes setting (.begin_ session snapshot) exchanges run)
    (stands : run.progress = .done result) :
    Completes setting.asksForScore snapshot exchanges result ∧
      ∀ fault, ¬ IsScoreless setting.base snapshot exchanges fault := by
  have accounts := goes.accounts
  unfold Run.Accounts at accounts
  rw [stands] at accounts
  obtain ⟨lane, history, topics, yields⟩ := accounts
  have only {package other : Move.Package} (read : packageOf snapshot = .ok package)
      (readToo : packageOf snapshot = .ok other) : other = package :=
    Except.ok.inj (readToo.symm.trans read)
  cases lane with
  | noFunctions =>
    obtain ⟨⟨package, read, none⟩, _⟩ := yields
    refine ⟨⟨goes.answered, .noFunctions, history, topics, ?_, ?_, ?_⟩, ?_⟩
    · exact iff_of_true rfl ⟨package, read, none⟩
    · refine iff_of_false Lane.noConfusion ?_
      rintro ⟨⟨other, readToo, some⟩, _⟩
      rw [only read readToo] at some
      exact some none
    · rintro isMended ⟨⟩
    · refine fun fault => not_isScoreless_of_absent ?_
      rw [topics]
      exact List.not_mem_nil
  | cleanTriage =>
    obtain ⟨⟨package, read, some⟩, triage, _⟩ := yields
    refine ⟨⟨goes.answered, .cleanTriage, history, topics, ?_, ?_, ?_⟩, ?_⟩
    · refine iff_of_false Lane.noConfusion ?_
      rintro ⟨other, readToo, none⟩
      rw [only read readToo] at none
      exact some none
    · exact iff_of_true rfl ⟨⟨package, read, some⟩, triage⟩
    · rintro isMended ⟨⟩
    · refine fun fault => not_isScoreless_of_absent ?_
      simp [topics, Lane.topics]
  | full isMended =>
    obtain ⟨known, draft, critique, found, ⟨own, fits, _⟩, _, answered, same, _⟩ := yields
    obtain ⟨package, read, some⟩ := found.hasFunctions
    obtain ⟨triage, isTriage, flagged⟩ := found.flagged
    refine ⟨⟨goes.answered, .full isMended, history, topics, ?_, ?_, ?_⟩, ?_⟩
    · refine iff_of_false Lane.noConfusion ?_
      rintro ⟨other, readToo, none⟩
      rw [only read readToo] at none
      exact some none
    · refine iff_of_false Lane.noConfusion ?_
      rintro ⟨_, other, isTriageToo, none⟩
      rw [isTriage] at isTriageToo
      cases isTriageToo
      exact flagged none
    · rintro mended sameLane
      cases sameLane
      exact ⟨critique, answered, same⟩
    · exact fun fault => found.not_isScoreless fits

/-! ### Analyses keep to their lanes -/

/-- An analysis keeps to the lanes: it completes one, or breaks off where a stage is not
answered. -/
def KeepsToLanes (asksForScore : Bool) (snapshot : Snapshot) (exchanges : List (Exchange Reason)) :
    Except (Failure Reason) Result → Prop
  | .ok result => Completes asksForScore snapshot exchanges result
  | .error (.reasoning reason) => BreaksOff asksForScore snapshot exchanges reason
  | .error _ => False

/-- A package can be read off any object of modules. -/
theorem exists_packageOf {snapshot : Snapshot} {modules : Members}
    (isObject : snapshot.modules = .object modules) :
    ∃ package, packageOf snapshot = .ok package := by
  unfold packageOf orEmpty
  rw [isObject]
  cases modules with
  | nil => exact ⟨_, rfl⟩
  | cons first rest => exact ⟨_, rfl⟩

section Run

variable {setting : Setting World Reason} {session : String} {snapshot : Snapshot}
  {modules : Members} (isObject : snapshot.modules = .object modules)
  (resolves : ∀ package, packageOf snapshot = .ok package →
    ∀ scene failure, ((gatherContext setting package).run scene).1 ≠ .error failure)
include isObject resolves

/-- An analysis keeps to the lanes, or ends since its findings have no score. -/
theorem keeps_or_scoreless (world : World) :
    KeepsToLanes setting.asksForScore snapshot (exchangesOf setting session snapshot world)
          ((run setting session snapshot).outcome world).1 ∧
        (∀ fault, ¬ IsScoreless setting.base snapshot
          (exchangesOf setting session snapshot world) fault) ∨
      ∃ fault, ((run setting session snapshot).outcome world).1 = .error (.unscored fault) ∧
        IsScoreless setting.base snapshot (exchangesOf setting session snapshot world) fault := by
  have ends := run_ends setting session snapshot world
  generalize exchangesOf setting session snapshot world = exchanges at ends ⊢
  generalize ((run setting session snapshot).outcome world).1 = outcome at ends ⊢
  cases outcome with
  | ok result =>
    obtain ⟨last, goes, stands⟩ := ends
    exact Or.inl (goes.completes stands)
  | error failure =>
    obtain ⟨before, more, last, rfl, goes, stops⟩ := ends
    obtain ⟨package, read⟩ := exists_packageOf isObject
    rcases stops.ends goes read (resolves package read) with
      ⟨reason, rfl, breaksOff, fits⟩ | ⟨fault, rfl, scoreless⟩
    · exact Or.inl ⟨breaksOff, fits⟩
    · exact Or.inr ⟨fault, rfl, scoreless⟩

/-- An analysis of an object of modules keeps to the lanes as long as its findings have a score, and
otherwise ends with the reason that they have none. -/
theorem keeps_to_lanes_iff (world : World) :
    (KeepsToLanes setting.asksForScore snapshot (exchangesOf setting session snapshot world)
        ((run setting session snapshot).outcome world).1 ↔
      ∀ fault, ¬ IsScoreless setting.base snapshot
        (exchangesOf setting session snapshot world) fault) ∧
    ∀ fault, IsScoreless setting.base snapshot (exchangesOf setting session snapshot world) fault →
      ((run setting session snapshot).outcome world).1 = .error (.unscored fault) := by
  rcases keeps_or_scoreless isObject resolves world with
    ⟨keeps, fits⟩ | ⟨fault, ended, scoreless⟩
  · exact ⟨iff_of_true keeps fits, fun fault scoreless => absurd scoreless (fits fault)⟩
  · refine ⟨iff_of_false ?_ fun fits => fits fault scoreless, fun other scorelessToo => ?_⟩
    · rw [ended]
      exact fun keeps => keeps
    · rw [ended, scoreless.unique scorelessToo]

end Run

/-! ### A small package -/

/-- A reasoner that always gives the same answers. -/
def steadyReasoner (triage : Triage) (analysis : TechnicalAnalysis) (score : ScoreReport)
    (draft : Draft) (critique : Critique) (mended : Draft) : Reasoner World Reason where
  triage _ _ := pure triage
  analyse _ _ _ := pure analysis
  score _ _ := pure score
  report _ _ _ _ := pure draft
  critique _ _ _ _ := pure critique
  correct _ _ _ := pure mended

/-- A snapshot of a package with one public function. -/
def vaultSnapshot : Snapshot :=
  { package := "0xabc"
    modules := .object [("vault", .object [("dependencies", .array []),
      ("exposedFunctions", .object [("drain", .object [("visibility", .string "Public"),
        ("parameters", .array []), ("isEntry", .bool true), ("typeParameters", .array [])])])])]
    disassembly := [] }

/-- The package of the snapshot. -/
def vaultPackage : Move.Package := ⟨[⟨"vault", "drain", [], true, 0⟩], [], []⟩

/-- A finding on the one function, of a pattern that no knowledge base knows. -/
def drainFinding : Finding :=
  { functionName := "vault::Drain", reason := "", patternId := "NEW", severity := .low, notes := []
    snippet := "", isVerified := false }

/-- An analysis of the small package in which the one function is flagged and found risky, and the
report, which warns of another function as well, is mended or not. -/
def vaultSetting (points : Int) (asksForScore isConsistent : Bool) : Setting Unit String where
  reasoner := steadyReasoner ⟨["drain"]⟩ ⟨[drainFinding]⟩ ⟨0, "", .low⟩
    { summary := "", riskyFunctions := [⟨"DRAIN", ""⟩, ⟨"mint", ""⟩] } ⟨isConsistent, ""⟩
    { summary := "", riskyFunctions := [⟨"mint", ""⟩, ⟨" drain ", ""⟩] }
  base :=
    { version := .number 1, patterns := [KnowledgeBase.low03]
      scoring := { KnowledgeBase.bundledScoring with points := [(.low, points)] } }
  structs _ := pure []
  risks _ := pure []
  asksForScore

theorem packageOf_vault : packageOf vaultSnapshot = .ok vaultPackage := rfl

theorem vault_resolves (points : Int) (asksForScore isConsistent : Bool) (package : Move.Package)
    (read : packageOf vaultSnapshot = .ok package) (scene : Scene Unit) (failure : Failure String) :
    ((gatherContext (vaultSetting points asksForScore isConsistent) package).run scene).1 ≠
      .error failure := by
  rw [packageOf_vault] at read
  cases read
  have succeeds : ((gatherContext (vaultSetting points asksForScore isConsistent)
    vaultPackage).run scene).1.isOk = true := rfl
  intro fails
  rw [fails] at succeeds
  cases succeeds

/-- A point for the finding stays within bounds, so all stages are gone through. -/
theorem vault_keeps_to_lanes :
    KeepsToLanes (vaultSetting 1 true false).asksForScore vaultSnapshot
      (exchangesOf (vaultSetting 1 true false) "" vaultSnapshot ())
      ((run (vaultSetting 1 true false) "" vaultSnapshot).outcome ()).1 := by
  rw [(keeps_to_lanes_iff rfl (vault_resolves 1 true false) ()).1]
  rintro fault ⟨package, analysis, read, answered, fails⟩
  rw [packageOf_vault] at read
  cases read
  have isAnalysis : latest? Exchange.analysis? (exchangesOf (vaultSetting 1 true false) ""
    vaultSnapshot ()) = some ⟨[drainFinding]⟩ := by decide +kernel
  rw [isAnalysis] at answered
  cases answered
  cases fault with
  | overflow => exact absurd fails (by decide +kernel)
  | unspellable => exact absurd fails (by decide +kernel)

/-- More points than a number can have. -/
def boundless : Int := .ofNat (Nat.pow 10 309)

/-- Boundless points are no score, though every stage was answered. -/
theorem vault_strays_from_lanes :
    ¬ KeepsToLanes (vaultSetting boundless false true).asksForScore vaultSnapshot
      (exchangesOf (vaultSetting boundless false true) "" vaultSnapshot ())
      ((run (vaultSetting boundless false true) "" vaultSnapshot).outcome ()).1 := by
  have isAnalysis : latest? Exchange.analysis? (exchangesOf (vaultSetting boundless false true) ""
    vaultSnapshot ()) = some ⟨[drainFinding]⟩ := by decide +kernel
  have scoreless : IsScoreless (vaultSetting boundless false true).base vaultSnapshot
      (exchangesOf (vaultSetting boundless false true) "" vaultSnapshot ()) .overflow :=
    ⟨vaultPackage, ⟨[drainFinding]⟩, packageOf_vault, isAnalysis, by decide +kernel⟩
  rcases keeps_or_scoreless rfl (vault_resolves boundless false true) () with
    ⟨_, fits⟩ | ⟨_, ended, _⟩
  · exact absurd scoreless (fits _)
  · rw [ended]
    exact fun keeps => keeps

end MoveAudit.Analysis
