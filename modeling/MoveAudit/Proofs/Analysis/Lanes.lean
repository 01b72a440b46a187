/-
This file says what is true of an analysis at every stage. How far it has come goes with the stages
that it reached and with what it asked, and what it knows rests on what it was answered: the
findings on what the technical analysis came to, their score on the rules alone, and the report on
the last draft that was written. One that is done went down one of three lanes: a package without
functions ends at once, one in which nothing was flagged ends after triage, and any other one goes
through every stage.
-/

import MoveAudit.Proofs.Analysis.Course
import MoveAudit.Proofs.Entries

namespace MoveAudit.Analysis

open Json Chain

variable {World Reason : Type}

/-! ### Lanes -/

/-- A way that an analysis can take to its end. -/
inductive Lane where
  | noFunctions
  | cleanTriage
  | full (isMended : Bool)
  deriving DecidableEq, Repr

namespace Lane

/-- The stages on a lane. -/
def stages : Lane → List Stage
  | noFunctions => [.extracted, .noFunctions]
  | cleanTriage => [.extracted, .triaged, .cleanTriage]
  | full isMended => [.extracted, .triaged, .technicallyAnalysed, .scored, .reported, .critiqued] ++
      (if isMended then [.corrected] else []) ++ [.finalized]

/-- What is asked on a lane. -/
def topics (asksForScore : Bool) : Lane → List Topic
  | noFunctions => []
  | cleanTriage => [.structs, .triage]
  | full isMended => [.structs, .triage, .analysis] ++ (if asksForScore then [.score] else []) ++
      [.report, .critique] ++ (if isMended then [.correction] else [])

end Lane

/-! ### What is known at each stage -/

/-- The last answer of a kind. -/
def latest? {Answer : Type} (answer? : Exchange Reason → Option Answer)
    (exchanges : List (Exchange Reason)) : Option Answer :=
  (exchanges.filterMap answer?).getLast?

/-- The context is that of the package of a snapshot, which has functions. -/
def IsResolved (snapshot : Snapshot) (context : Prompt.Context) : Prop :=
  ∃ package, packageOf snapshot = .ok package ∧ package.functions ≠ [] ∧
    IsContextOf context package

/-- Findings are those that the technical analysis came to, reviewed. -/
def IsFound (base : KnowledgeBase) (snapshot : Snapshot) (exchanges : List (Exchange Reason))
    (findings : List Finding) : Prop :=
  ∃ package triage analysis, packageOf snapshot = .ok package ∧ package.functions ≠ [] ∧
    latest? Exchange.triage? exchanges = some triage ∧ triage.flagged ≠ [] ∧
    latest? Exchange.analysis? exchanges = some analysis ∧
    findings = Evidence.reviewed base package analysis.findings

/-- A score is that of the rules. -/
def IsScored (base : KnowledgeBase) (known : Scored) : Prop :=
  ∃ own, Scoring.report base known.findings = .ok own ∧ known.score.score = own.score

/-- A draft is the one that was written, without what no finding backs. -/
def IsDrafted (isMended : Bool) (exchanges : List (Exchange Reason)) (findings : List Finding)
    (draft : Draft) : Prop :=
  ∃ given, latest? (Exchange.draft? isMended) exchanges = some given ∧
    draft = given.backedBy findings

/-- What an analysis comes to on a lane. -/
def Lane.Yields (base : KnowledgeBase) (snapshot : Snapshot) (exchanges : List (Exchange Reason))
    (result : Result) : Lane → Prop
  | noFunctions => (∃ package, packageOf snapshot = .ok package ∧ package.functions = []) ∧
      result.card = .noFunctions ∧ result.findings = []
  | cleanTriage => (∃ package, packageOf snapshot = .ok package ∧ package.functions ≠ []) ∧
      (∃ triage, latest? Exchange.triage? exchanges = some triage ∧ triage.flagged = []) ∧
      result.card = .cleanTriage ∧ result.findings = []
  | full isMended => ∃ known draft critique, IsFound base snapshot exchanges known.findings ∧
      IsScored base known ∧ IsDrafted isMended exchanges known.findings draft ∧
      latest? Exchange.critique? exchanges = some critique ∧
      isMended = !critique.isConsistent ∧
      result.card = .ofDraft draft known.score.score ∧ result.findings = known.findings

/-- The stages that an analysis has reached when it has come so far. -/
def Progress.stages : Progress → List Stage
  | .begun _ => []
  | .extracted _ | .resolved _ => [.extracted]
  | .triaged .. => [.extracted, .triaged]
  | .analysed _ => [.extracted, .triaged, .technicallyAnalysed]
  | .scored _ => [.extracted, .triaged, .technicallyAnalysed, .scored]
  | .reported .. => [.extracted, .triaged, .technicallyAnalysed, .scored, .reported]
  | .critiqued .. => [.extracted, .triaged, .technicallyAnalysed, .scored, .reported, .critiqued]
  | .corrected .. =>
    [.extracted, .triaged, .technicallyAnalysed, .scored, .reported, .critiqued, .corrected]
  | .done result => result.history

/-- What an analysis that is under way has asked when it has come so far. -/
def Progress.topics (asksForScore : Bool) : Progress → List Topic
  | .begun _ | .extracted _ | .done _ => []
  | .resolved _ => [.structs]
  | .triaged .. => [.structs, .triage]
  | .analysed _ => [.structs, .triage, .analysis]
  | .scored _ => [.structs, .triage, .analysis] ++ (if asksForScore then [.score] else [])
  | .reported .. =>
    [.structs, .triage, .analysis] ++ (if asksForScore then [.score] else []) ++ [.report]
  | .critiqued .. => [.structs, .triage, .analysis] ++ (if asksForScore then [.score] else []) ++
      [.report, .critique]
  | .corrected .. => (Lane.full true).topics asksForScore

/-- What an analysis that is under way knows rests on the answers. -/
def Progress.RestsOn (base : KnowledgeBase) (snapshot : Snapshot)
    (exchanges : List (Exchange Reason)) : Progress → Prop
  | .begun started => started = snapshot
  | .extracted package => packageOf snapshot = .ok package
  | .resolved context => IsResolved snapshot context
  | .triaged context flagged => IsResolved snapshot context ∧
      ∃ triage, latest? Exchange.triage? exchanges = some triage ∧
        flagged = Entries.distinct triage.flagged
  | .analysed known => IsFound base snapshot exchanges known.findings
  | .scored known => IsFound base snapshot exchanges known.findings ∧ IsScored base known
  | .reported known draft => IsFound base snapshot exchanges known.findings ∧ IsScored base known ∧
      IsDrafted false exchanges known.findings draft
  | .critiqued known draft critique => IsFound base snapshot exchanges known.findings ∧
      IsScored base known ∧ IsDrafted false exchanges known.findings draft ∧
      latest? Exchange.critique? exchanges = some critique
  | .corrected known draft critique => IsFound base snapshot exchanges known.findings ∧
      IsScored base known ∧ IsDrafted true exchanges known.findings draft ∧
      latest? Exchange.critique? exchanges = some critique ∧ critique.isConsistent = false
  | .done _ => True

/-- How far an analysis has come goes with the stages that it reached, what it asked and what it was
answered; one that is done went down a lane. -/
def Run.Accounts (setting : Setting World Reason) (snapshot : Snapshot)
    (exchanges : List (Exchange Reason)) (run : Run) : Prop :=
  match run.progress with
  | .done result => ∃ lane : Lane, result.history = lane.stages ∧
      exchanges.map Exchange.topic = lane.topics setting.asksForScore ∧
      lane.Yields setting.base snapshot exchanges result
  | progress => run.history = progress.stages ∧
      exchanges.map Exchange.topic = progress.topics setting.asksForScore ∧
      progress.RestsOn setting.base snapshot exchanges

/-! ### Answers stay on record -/

section Latest

variable {Answer : Type} {answer? : Exchange Reason → Option Answer}
  {exchanges : List (Exchange Reason)} {last : Exchange Reason}

theorem latest?_concat_of_some {answer : Answer} (given : answer? last = some answer) :
    latest? answer? (exchanges ++ [last]) = some answer := by
  unfold latest?
  rw [List.filterMap_append, List.filterMap_cons_some given]
  exact List.getLast?_concat

theorem latest?_concat_of_none (silent : answer? last = none) :
    latest? answer? (exchanges ++ [last]) = latest? answer? exchanges := by
  unfold latest?
  rw [List.filterMap_append, List.filterMap_cons_none silent]
  simp only [List.filterMap_nil, List.append_nil]

theorem IsFound.concat {base : KnowledgeBase} {snapshot : Snapshot} {findings : List Finding}
    (found : IsFound base snapshot exchanges findings) (noTriage : last.triage? = none)
    (noAnalysis : last.analysis? = none) :
    IsFound base snapshot (exchanges ++ [last]) findings := by
  unfold IsFound
  rw [latest?_concat_of_none noTriage, latest?_concat_of_none noAnalysis]
  exact found

theorem IsDrafted.concat {isMended : Bool} {findings : List Finding} {draft : Draft}
    (drafted : IsDrafted isMended exchanges findings draft)
    (noDraft : last.draft? isMended = none) :
    IsDrafted isMended (exchanges ++ [last]) findings draft := by
  unfold IsDrafted
  rw [latest?_concat_of_none noDraft]
  exact drafted

end Latest

/-! ### What each advance keeps -/

/-- What is known of an analysis that is under way. -/
theorem Run.Accounts.underWay {setting : Setting World Reason} {snapshot : Snapshot}
    {exchanges : List (Exchange Reason)} {run : Run}
    (accounts : run.Accounts setting snapshot exchanges)
    {progress : Progress} (stands : run.progress = progress)
    (goesOn : progress.left ≠ 0) :
    run.history = progress.stages ∧
      exchanges.map Exchange.topic = progress.topics setting.asksForScore ∧
      progress.RestsOn setting.base snapshot exchanges := by
  unfold Run.Accounts at accounts
  rw [stands] at accounts
  cases progress with
  | done result => exact absurd rfl goesOn
  | _ => exact accounts

theorem Advances.accounts {setting : Setting World Reason} {snapshot : Snapshot}
    {exchanges more : List (Exchange Reason)} {run next : Run}
    (advances : Advances setting run more next)
    (accounts : run.Accounts setting snapshot exchanges) :
    next.Accounts setting snapshot (exchanges ++ more) := by
  have asked {topics : List Topic} {last : Exchange Reason}
      (before : exchanges.map Exchange.topic = topics) :
      (exchanges ++ [last]).map Exchange.topic = topics ++ [last.topic] := by
    rw [List.map_append, before]
    rfl
  cases advances with
  | @extracts started package stands read =>
    obtain ⟨history, topics, rests⟩ := accounts.underWay stands (Nat.succ_ne_zero _)
    obtain rfl : started = snapshot := rests
    rw [List.append_nil]
    exact ⟨congrArg (· ++ [Stage.extracted]) history, topics, read⟩
  | @endsAsLibrary package stands none =>
    obtain ⟨history, topics, read⟩ := accounts.underWay stands (Nat.succ_ne_zero _)
    rw [List.append_nil]
    exact ⟨.noFunctions, congrArg (· ++ [Stage.noFunctions]) history, topics,
      ⟨package, read, none⟩, rfl, rfl⟩
  | @resolves package context answer stands some isOf =>
    obtain ⟨history, topics, read⟩ := accounts.underWay stands (Nat.succ_ne_zero _)
    exact ⟨history, asked topics, package, read, some, isOf⟩
  | triages stands triage =>
    obtain ⟨history, topics, resolved⟩ := accounts.underWay stands (Nat.succ_ne_zero _)
    exact ⟨congrArg (· ++ [Stage.triaged]) history, asked topics, resolved, triage,
      latest?_concat_of_some rfl, rfl⟩
  | endsAsClean stands =>
    obtain ⟨history, topics, ⟨package, read, some, _⟩, triage, answered, none⟩ :=
      accounts.underWay stands (Nat.succ_ne_zero _)
    rw [List.append_nil]
    exact ⟨.cleanTriage, congrArg (· ++ [Stage.cleanTriage]) history, topics,
      ⟨package, read, some⟩, ⟨triage, answered, Entries.distinct_eq_nil.mp none.symm⟩, rfl, rfl⟩
  | analyses stands some analysis =>
    obtain ⟨history, topics, ⟨package, read, hasFunctions, functions, disassembly⟩, triage,
      answered, flagged⟩ := accounts.underWay stands (Nat.succ_ne_zero _)
    refine ⟨congrArg (· ++ [Stage.technicallyAnalysed]) history, asked topics, package, triage,
      analysis, read, hasFunctions, ?_, ?_, latest?_concat_of_some rfl, ?_⟩
    · exact (latest?_concat_of_none rfl).trans answered
    · exact fun none => some (flagged.trans (Entries.distinct_eq_nil.mpr none))
    · rw [functions, disassembly]
      rfl
  | @scores known own stands isOwn alone =>
    obtain ⟨history, topics, found⟩ := accounts.underWay stands (Nat.succ_ne_zero _)
    rw [List.append_nil]
    refine ⟨congrArg (· ++ [Stage.scored]) history, topics.trans ?_, found, own, isOwn, rfl⟩
    rw [alone]
    rfl
  | @compares known own stands isOwn asks given =>
    obtain ⟨history, topics, found⟩ := accounts.underWay stands (Nat.succ_ne_zero _)
    refine ⟨congrArg (· ++ [Stage.scored]) history, (asked topics).trans ?_, found.concat rfl rfl,
      own, isOwn, ?_⟩
    · rw [asks]
      rfl
    · show (if given.score = own.score then given else own).score = own.score
      split
      · next same => exact same
      · rfl
  | reports stands draft =>
    obtain ⟨history, topics, found, scored⟩ := accounts.underWay stands (Nat.succ_ne_zero _)
    exact ⟨congrArg (· ++ [Stage.reported]) history, asked topics, found.concat rfl rfl, scored,
      draft, latest?_concat_of_some rfl, rfl⟩
  | critiques stands critique =>
    obtain ⟨history, topics, found, scored, drafted⟩ :=
      accounts.underWay stands (Nat.succ_ne_zero _)
    refine ⟨congrArg (· ++ [Stage.critiqued]) history, (asked topics).trans ?_,
      found.concat rfl rfl, scored, drafted.concat rfl, latest?_concat_of_some rfl⟩
    simp only [Progress.topics, List.append_assoc]
    rfl
  | @keeps known draft critique stands consistent =>
    obtain ⟨history, topics, found, scored, drafted, answered⟩ :=
      accounts.underWay stands (Nat.succ_ne_zero _)
    rw [List.append_nil]
    refine ⟨.full false, congrArg (· ++ [Stage.finalized]) history, topics.trans ?_, known, draft,
      critique, found, scored, drafted, answered, ?_, rfl, rfl⟩
    · simp only [Progress.topics, Lane.topics, Bool.false_eq_true, if_false, List.append_nil]
    · rw [consistent]
      rfl
  | corrects stands inconsistent mended =>
    obtain ⟨history, topics, found, scored, drafted, answered⟩ :=
      accounts.underWay stands (Nat.succ_ne_zero _)
    exact ⟨congrArg (· ++ [Stage.corrected]) history, asked topics, found.concat rfl rfl, scored,
      ⟨mended, latest?_concat_of_some rfl, rfl⟩, (latest?_concat_of_none rfl).trans answered,
      inconsistent⟩
  | @finalizes known draft critique stands =>
    obtain ⟨history, topics, found, scored, drafted, answered, inconsistent⟩ :=
      accounts.underWay stands (Nat.succ_ne_zero _)
    rw [List.append_nil]
    refine ⟨.full true, congrArg (· ++ [Stage.finalized]) history, topics, known, draft, critique,
      found, scored, drafted, answered, ?_, rfl, rfl⟩
    rw [inconsistent]
    rfl

/-- Every stage that an analysis got past was answered. -/
theorem Advances.answered {setting : Setting World Reason} {more : List (Exchange Reason)}
    {run next : Run} (advances : Advances setting run more next) :
    ∀ exchange ∈ more, exchange.reason? = none := by
  cases advances <;> simp [Exchange.reason?, Exchange.reasonOf?]

section Goes

variable {setting : Setting World Reason} {session : String} {snapshot : Snapshot}
  {exchanges : List (Exchange Reason)} {run : Run}
  (goes : Goes setting (.begin_ session snapshot) exchanges run)
include goes

theorem Goes.accounts : run.Accounts setting snapshot exchanges := by
  induction goes with
  | rests => exact ⟨rfl, rfl, rfl⟩
  | advances _ advances inductionHypothesis => exact advances.accounts inductionHypothesis

theorem Goes.answered : ∀ exchange ∈ exchanges, exchange.reason? = none := by
  induction goes with
  | rests => exact fun _ member => nomatch member
  | advances _ advances inductionHypothesis =>
    intro exchange member
    rcases List.mem_append.mp member with before | now
    · exact inductionHypothesis exchange before
    · exact advances.answered exchange now

end Goes

end MoveAudit.Analysis
