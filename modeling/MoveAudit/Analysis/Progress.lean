/-
This file carries an analysis from a snapshot of a package to its safety card. An analysis is a
machine: its progress holds exactly what later steps need, and each step does the work of one node
and says where to go on. The score on the card comes from the findings alone, by the scoring rules;
no text that a reasoner writes afterwards can change it. A report that does not agree with the
findings is mended once. A failure at any step ends the analysis without a card.
-/

import MoveAudit.Analysis.Stage
import MoveAudit.Chain.Snapshot
import MoveAudit.Chain.Structs
import MoveAudit.Knowledge.Bundled
import MoveAudit.Move.Extraction
import MoveAudit.Reasoning.Reasoner
import MoveAudit.Risk.Evidence
import MoveAudit.Scoring.Score

namespace MoveAudit.Analysis

open Json Chain

/-! ### Surroundings -/

/-- Why an analysis ends without a card. -/
inductive Failure (Reason : Type) where
  /-- A stage could not be answered. -/
  | reasoning (reason : Reason)
  /-- Something about the package has the wrong shape. -/
  | shape (fault : ShapeFault)
  /-- The findings have no score. -/
  | unscored (fault : Scoring.Fault)
  /-- The analysis stopped before its last stage. -/
  | unfinished

/-- What an analysis makes use of. -/
structure Setting (World Reason : Type) where
  reasoner : Reasoner World Reason
  /-- The knowledge base that findings are reviewed and scored by. -/
  base : KnowledgeBase
  /-- How the fields of structs are had. -/
  structs : List String → Act World ShapeFault Structs.Definitions
  /-- How the risks of dependencies are had. -/
  risks : List Value → Act World ShapeFault (List DependencyRisk)
  /-- Whether the reasoner is asked for a score as well. -/
  asksForScore : Bool := false

/-! ### Progress -/

/-- What is known once there are findings. -/
structure Findings where
  risks : List DependencyRisk
  findings : List Finding

/-- What is known once there is a score. -/
structure Scored extends Findings where
  score : ScoreReport

/-- How far an analysis has come, and what later steps need. -/
inductive Progress where
  | begun (snapshot : Snapshot)
  | extracted (package : Move.Package)
  | resolved (context : Prompt.Context)
  | triaged (context : Prompt.Context) (flagged : List String)
  | analysed (known : Findings)
  | scored (known : Scored)
  | reported (known : Scored) (draft : Draft)
  | critiqued (known : Scored) (draft : Draft) (critique : Critique)
  | corrected (known : Scored) (draft : Draft) (critique : Critique)
  | done (result : Result)

/-- An analysis under way: its session, the package it is on, the stages reached, and its
progress. -/
structure Run where
  session : String
  package : String
  network : String
  history : List Stage := []
  progress : Progress

namespace Run

/-- An analysis that has not done anything yet. -/
def begin_ (session : String) (snapshot : Snapshot) : Run :=
  { session, package := snapshot.package, network := snapshot.network, progress := .begun snapshot }

/-- The analysis at a stage. -/
def reach (run : Run) (stage : Stage) (progress : Progress) : Run :=
  { run with history := run.history ++ [stage], progress }

/-- The analysis at its end. -/
def close (run : Run) (stage : Stage) (card : Card) (findings : List Finding := [])
    (score? : Option ScoreReport := none) (critique? : Option Critique := none) : Run :=
  let history := run.history ++ [stage]
  { run with history, progress := .done ⟨card, history, run.session, findings, score?, critique?⟩ }

/-- The stage that an analysis has reached since an earlier moment, if any. -/
def newStage? (earlier later : Run) : Option Stage :=
  (later.history.drop earlier.history.length).getLast?

end Run

/-- How many steps may be left at most. -/
def Progress.left : Progress → Nat
  | begun .. => 9
  | extracted .. => 8
  | resolved .. => 7
  | triaged .. => 6
  | analysed .. => 5
  | scored .. => 4
  | reported .. => 3
  | critiqued .. => 2
  | corrected .. => 1
  | done .. => 0

/-- The name of the node that does the next step. -/
def Progress.nodeName : Progress → String
  | begun _ => "extract"
  | extracted package => if package.isLibrary then "no_functions" else "resolve_context"
  | resolved _ => "triage"
  | triaged _ flagged => if flagged.isEmpty then "clean_triage" else "technical_analysis"
  | analysed _ => "scoring"
  | scored _ => "report"
  | reported .. => "critique"
  | critiqued _ _ critique => if critique.isConsistent then "finalize" else "correction"
  | corrected .. => "finalize"
  | done _ => ""

/-! ### Notices -/

/-- A notice on an analysis. -/
def notice (level : Console.Level) (event message : String) (fields : Members) : Notice :=
  { level, component := "AnalysisPipeline", event, message, fields }

/-- A notice whose fields are counts. -/
def counted (level : Console.Level) (component event message : String)
    (counts : List (String × Nat)) : Notice :=
  { level, component, event, message
    fields := counts.map fun (name, count) => (name, .int count) }

/-- The notice of a module that is skipped. -/
def skippedNotice : String × ShapeFault → Notice
  | (module, fault) =>
    { level := .warning, component := "Extractor", event := "extract.module_failed"
      message := "模块结构异常，已跳过"
      fields := [("module", .string module),
        ("error", .string (fault.kind ++ ": " ++ fault.message))] }

/-- The counts of what was read of a package. -/
def extractionCounts (package : Move.Package) : List (String × Nat) :=
  [("functions", package.functions.length), ("dependencies", package.dependencies.length)]

/-- The notice that a package has been read. -/
def readNotice (package : Move.Package) : Notice :=
  counted .debug "Extractor" "extract.done" "提取完成" (extractionCounts package)

/-- The notice of what was read of a package. -/
def extractedNotice (package : Move.Package) : Notice :=
  counted .info "AnalysisPipeline" "pipeline.extracted" "提取公开函数与依赖"
    (extractionCounts package)

/-- The notice of the patterns that a package was found to have. -/
def hitsNotice (hits : Static.Report) : Notice :=
  counted .debug "StaticAnalyzer" "static.done" "静态模式检测完成"
    [("findings", hits.hits.length), ("critical", hits.countOf .critical),
      ("high", hits.countOf .high), ("modules", hits.modules.length)]

/-- The notice of how the capabilities of a package move. -/
def capabilitiesNotice (report : Capability.Report) : Notice :=
  counted .debug "CrossModuleAnalyzer" "cross_module.done" "跨模块能力流分析完成"
    [("capabilities", report.capabilities.length), ("usages", report.usages.length),
      ("flows", report.flows.length), ("risks", report.risks.length)]

/-- The notice of both. -/
def detectionNotice (hits : Static.Report) (report : Capability.Report) : Notice :=
  counted .info "AnalysisPipeline" "pipeline.static_analysis" "静态分析完成"
    [("patterns", hits.hits.length), ("critical", hits.countOf .critical),
      ("high", hits.countOf .high), ("capabilities", report.capabilities.length),
      ("cross_module_risks", report.risks.length)]

/-- The notice that an analysis ends early, at a stage. -/
def earlyNotice (stage : Stage) (message : String) : Notice :=
  notice .info "pipeline.fast_lane" message [("lane", .string stage.word)]

/-- The notice that there is no function to reason about. -/
def libraryNotice : Notice :=
  earlyNotice .noFunctions "没有公开函数，跳过推理阶段"

/-- The notice that triage found no function to look at. -/
def cleanNotice : Notice :=
  earlyNotice .cleanTriage "粗筛未标记任何函数，跳过后续阶段"

/-- The notice of what is odd about a finding. -/
def remarkNotice (remark : Evidence.Remark) : Notice :=
  let tell := fun event message function more =>
    ({ level := .warning, component := "EvidenceValidator", event := "evidence." ++ event, message
       fields := ("function", .string function) :: more } : Notice)
  match remark with
  | .unknownPattern function given =>
    tell "unknown_pattern" "未知的模式 ID，按严重等级回退评分" function
      [("pattern_id", .string (if given.isEmpty then "<empty>" else given))]
  | .severityMismatch function pattern reported expected =>
    tell "severity_mismatch" "严重等级与知识库不一致，已按知识库修正" function
      [("pattern_id", .string pattern), ("reported", .string reported.word),
        ("expected", .string expected.word)]
  | .unknownFunction function =>
    tell "unknown_function" "发现引用的函数不在公开函数列表中" function []

/-- The notice of findings after review. -/
def reviewNotice (reviewed : List Finding) : Notice :=
  counted .debug "EvidenceValidator" "evidence.done" "发现校验完成"
    [("total", reviewed.length), ("verified", reviewed.countP (·.isVerified))]

/-- The notice that a reasoner's score is not that of the rules. -/
def divergenceNotice (given own : ScoreReport) : Notice :=
  notice .warning "scoring.divergence" "模型评分与确定性评分不一致，采用确定性结果"
    [("llm_score", .int given.score), ("deterministic_score", .int own.score)]

/-- The notice of how a score comes about. -/
def accountNotice (account : Scoring.Breakdown) : Notice :=
  { level := .debug, component := "RiskScorer", event := "scoring.done", message := "评分完成"
    fields := [("findings", .int account.contributions.length), ("pre_clamp", .int account.total),
      ("score", .int account.score), ("confidence", .string account.certainty.word)] }

/-- The notice of a score. -/
def scoreNotice (report : ScoreReport) : Notice :=
  notice .info "pipeline.scored" "评分完成"
    [("risk_score", .int report.score), ("confidence", .string report.certainty.word)]

/-- The notice of the functions that a report names without a finding on them. -/
def unbackedNotice (names : List String) : Notice :=
  notice .warning "report.unbacked_functions" "报告中的函数没有对应技术发现，已移除"
    [("dropped", .string (", ".intercalate names))]

/-- The longest part of a critique that is noticed. -/
def feedbackLimit : Nat := 300

/-- The notice of a critique. -/
def critiqueNotice (critique : Critique) : Notice :=
  if critique.isConsistent then
    notice .info "pipeline.critiqued" "报告与技术发现一致" []
  else
    notice .warning "pipeline.critiqued" "报告不一致，进入纠错"
      [("feedback", .string (critique.feedback.take feedbackLimit).toString)]

namespace Run

/-- The notice that a node begins. -/
def startNotice (run : Run) : Notice :=
  notice .info "pipeline.stage_start" (run.progress.nodeName ++ " 开始")
    [("package_id", .string run.package)]

/-- The notice that a node is at its end. -/
def endNotice (run later : Run) : Notice :=
  notice .info "pipeline.stage_done" (run.progress.nodeName ++ " 完成")
    [("package_id", .string run.package),
      ("stage", .ofOption ((run.newStage? later).map (.string ·.word)))]

/-- The notice of the result of an analysis. -/
def resultNotice (run : Run) (result : Result) : Notice :=
  notice .success "pipeline.done" "分析完成" ([("package_id", .string run.package),
    ("network", .string run.network), ("stage", .string result.stage.word)] ++ result.card.verdict)

end Run

/-! ### Nodes -/

variable {World Reason : Type}

/-- A course of action in an analysis. -/
abbrev Course (World Reason Outcome : Type) := Act World (Failure Reason) Outcome

/-- The stage of a reasoner. -/
def reasoned {Outcome : Type} (action : Act World Reason Outcome) : Course World Reason Outcome :=
  action.relabel .reasoning

/-- A course that may come upon a wrong shape. -/
def shaped {Outcome : Type} (action : Act World ShapeFault Outcome) :
    Course World Reason Outcome :=
  action.relabel .shape

/-- Read the package off its snapshot. -/
def extractPackage (snapshot : Snapshot) : Course World Reason Move.Package := do
  let modules ← shaped (Act.ofExcept (Chain.orEmpty snapshot.modules).allMembers)
  let extraction := Move.extract modules snapshot.disassembly (some snapshot.package)
  for skipped in extraction.faults do
    Act.note (skippedNotice skipped)
  Act.note (readNotice extraction.package)
  Act.note (extractedNotice extraction.package)
  return extraction.package

/-- Gather what reasoning needs of a package besides its functions. -/
def gatherContext (setting : Setting World Reason) (package : Move.Package) :
    Course World Reason Prompt.Context := do
  let risks ← (setting.risks package.dependencies).settle
  let structs ← (setting.structs package.referencedStructs).settle
  let risks ← shaped (Act.ofExcept risks)
  let structs ← shaped (Act.ofExcept structs)
  let hits ← shaped (Act.ofExcept (Static.analyse package))
  Act.note (hitsNotice hits)
  let capabilities ← shaped (Act.ofExcept (Capability.analyse package))
  Act.note (capabilitiesNotice capabilities)
  Act.note (detectionNotice hits capabilities)
  return { functions := package.functions, structs, risks, disassembly := package.disassembly
           hits := some hits, capabilities := some capabilities }

/-- Which functions to look at, each once. -/
def flag (setting : Setting World Reason) (session : String) (context : Prompt.Context) :
    Course World Reason (List String) := do
  let triage ← reasoned (setting.reasoner.triage session context)
  let flagged := Entries.distinct triage.flagged
  Act.note (notice .info "pipeline.triaged" "粗筛完成" [("flagged", .int flagged.length)])
  return flagged

/-- The findings on the flagged functions, reviewed. -/
def findings (setting : Setting World Reason) (session : String) (context : Prompt.Context)
    (flagged : List String) : Course World Reason Findings := do
  let analysis ← reasoned (setting.reasoner.analyse session context flagged)
  let package : Move.Package := ⟨context.functions, [], context.disassembly⟩
  for remark in Evidence.remarks setting.base package analysis.findings do
    Act.note (remarkNotice remark)
  let reviewed := Evidence.reviewed setting.base package analysis.findings
  Act.note (reviewNotice reviewed)
  Act.note (notice .info "pipeline.analyzed" "技术分析完成" [("findings", .int reviewed.length)])
  return ⟨context.risks, reviewed⟩

/-- The report that goes with the score of findings. A reasoner's report replaces that of the rules
only when it comes to the same score. -/
def agreeOnReport (setting : Setting World Reason) (session : String) (known : Findings)
    (own : ScoreReport) : Course World Reason ScoreReport := do
  if setting.asksForScore then
    let given ← reasoned (setting.reasoner.score session known.findings)
    if given.score = own.score then return given
    else
      Act.note (divergenceNotice given own)
      return own
  else return own

/-- The report on findings that the rules alone come to. -/
def ownReport (setting : Setting World Reason) (known : Findings) :
    Course World Reason ScoreReport := do
  let account ← Act.ofExcept ((Scoring.account setting.base known.findings).mapError .unscored)
  Act.note (accountNotice account)
  Act.ofExcept (account.report.mapError .unscored)

/-- The score of findings. -/
def scoreFindings (setting : Setting World Reason) (session : String) (known : Findings) :
    Course World Reason Scored := do
  let own ← ownReport setting known
  let report ← agreeOnReport setting session known own
  Act.note (scoreNotice report)
  return { known with score := report }

/-- The draft without the functions that no finding is about. -/
def keepBacked (findings : List Finding) (draft : Draft) : Course World Reason Draft := do
  if !(draft.unbacked findings).isEmpty then Act.note (unbackedNotice (draft.unbacked findings))
  return draft.backedBy findings

/-- Write a report. -/
def writeReport (setting : Setting World Reason) (session : String) (known : Scored) :
    Course World Reason Draft := do
  keepBacked known.findings
    (← reasoned (setting.reasoner.report session known.findings known.score known.risks))

/-- Compare a report with the findings. -/
def critiqueReport (setting : Setting World Reason) (session : String) (known : Scored)
    (draft : Draft) : Course World Reason Critique := do
  let critique ← reasoned
    (setting.reasoner.critique session known.findings draft known.score.score)
  Act.note (critiqueNotice critique)
  return critique

/-- Mend a report. -/
def correctReport (setting : Setting World Reason) (session : String) (known : Scored)
    (draft : Draft) (feedback : String) : Course World Reason Draft := do
  keepBacked known.findings (← reasoned (setting.reasoner.correct session draft feedback))

/-! ### Steps -/

/-- The work of one node, between the notices on its beginning and its end. -/
def timed (run : Run) (node : Course World Reason Run) : Course World Reason Run := do
  Act.note run.startNotice
  let later ← node
  Act.note (run.endNotice later)
  return later

/-- The card of a report that is left as it is. -/
def finalize (run : Run) (known : Scored) (draft : Draft) (critique : Critique) : Run :=
  run.close .finalized (.ofDraft draft known.score.score) known.findings (some known.score)
    (some critique)

/-- The work of the next node. -/
def node (setting : Setting World Reason) (run : Run) : Course World Reason Run := do
  match run.progress with
  | .begun snapshot => return run.reach .extracted (.extracted (← extractPackage snapshot))
  | .extracted package =>
    if package.isLibrary then
      Act.note libraryNotice
      return run.close .noFunctions .noFunctions
    else return { run with progress := .resolved (← gatherContext setting package) }
  | .resolved context =>
    return run.reach .triaged (.triaged context (← flag setting run.session context))
  | .triaged context flagged =>
    if flagged.isEmpty then
      Act.note cleanNotice
      return run.close .cleanTriage .cleanTriage
    else
      let known ← findings setting run.session context flagged
      return run.reach .technicallyAnalysed (.analysed known)
  | .analysed known => return run.reach .scored (.scored (← scoreFindings setting run.session known))
  | .scored known =>
    return run.reach .reported (.reported known (← writeReport setting run.session known))
  | .reported known draft =>
    return run.reach .critiqued
      (.critiqued known draft (← critiqueReport setting run.session known draft))
  | .critiqued known draft critique =>
    if critique.isConsistent then return finalize run known draft critique
    else
      let mended ← correctReport setting run.session known draft critique.feedback
      return run.reach .corrected (.corrected known mended critique)
  | .corrected known draft critique => return finalize run known draft critique
  | .done _ => return run

/-- The next step of an analysis; one that is done stays as it is. -/
def step (setting : Setting World Reason) (run : Run) : Course World Reason Run :=
  match run.progress with
  | .done _ => pure run
  | _ => timed run (node setting run)

/-- Steps up to a number. -/
def stepsFrom (setting : Setting World Reason) : Nat → Run → Course World Reason Run
  | 0, run => pure run
  | left + 1, run => do stepsFrom setting left (← step setting run)

/-- The result of an analysis that is done. -/
def resultOf (run : Run) : Course World Reason Result := do
  match run.progress with
  | .done result =>
    Act.note (run.resultNotice result)
    return result
  | _ => throw .unfinished

/-- Carry an analysis to its end. -/
def run (setting : Setting World Reason) (session : String) (snapshot : Snapshot) :
    Course World Reason Result := do
  let begun := Run.begin_ session snapshot
  resultOf (← stepsFrom setting begun.progress.left begun)

end MoveAudit.Analysis
