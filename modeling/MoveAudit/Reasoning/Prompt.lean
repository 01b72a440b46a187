/-
This file writes the prompts of the reasoning stages. Each prompt states the task, gives the facts
in full as JSON or as a block of text, and ends with the form the answer has to have. What a stage
may not change, such as the score, it is told not to change.
-/

import MoveAudit.Capability.Report
import MoveAudit.Card.Basic
import MoveAudit.Json.Writer
import MoveAudit.Static.Report

namespace MoveAudit.Prompt

open Json Move

/-! ### Common parts -/

/-- The demand that an answer is one JSON object and nothing else. -/
def goldenRule : String :=
  "--- GOLDEN RULE: Your response MUST be ONLY the valid JSON object described in the " ++
    "schema. Do NOT add any other text, explanations, markdown, or introductory phrases " ++
    "like \"Here is the JSON:\". Your response must start with \x7b and end with \x7d. ---"

/-- What every stage is told before its prompt. -/
def systemText : String :=
  "You are part of an automated security review pipeline for Sui Move smart contracts. " ++
    "Every reply you produce is parsed by a program, so it must be a single JSON object."

/-- The questions that a critique answers. -/
def checklist : List String := [
  "1. Does the summary accurately reflect the severity of the technical findings?",
  "2. Are all critical findings mentioned in the report?",
  "3. Does the risk score match the severity described in the summary?",
  "4. Is the impact_on_user consistent with the identified patterns?",
  "5. Are the rug_pull_indicators backed by actual evidence from the technical findings?"]

/-- Examples of notes that bear on a score. -/
def noteExamples : List String := [
  "Function is internal-only (not public entry)",
  "Function emits relevant events",
  "Logic seems simple/direct",
  "Logic is complex/conditional",
  "Requires specific Capability object",
  "Checks for Timelock detected",
  "Multi-sig check seems present",
  "No obvious mitigations detected",
  "Function can be called by anyone",
  "Multiple withdrawal functions exist",
  "Can withdraw any Coin type (generic)",
  "Affects core user funds"]

/-- The definitions of structs: each full name with its fields. -/
abbrev Structs := List (String × List Field)

/-- A value laid out over several lines. -/
def laidOut (value : Value) : String :=
  value.write .laidOut

/-- Functions with their parameters. -/
def functionsText (functions : List Function) : String :=
  laidOut (.array (functions.map Function.toJson))

/-- A field of a struct as a document. -/
def fieldJson (field : Field) : Value :=
  .object [("name", .string field.name), ("type", .string field.type)]

/-- Struct definitions. -/
def structsText (structs : Structs) : String :=
  laidOut (.object (structs.map fun (id, fields) => (id, .array (fields.map fieldJson))))

/-- Dependency risks. -/
def risksText (risks : List DependencyRisk) : String :=
  laidOut (.array (risks.map DependencyRisk.toJson))

/-- A finding without the word on whether its evidence was verified. -/
def findingJson (finding : Finding) : Value :=
  match finding.toJson with
  | .object members => .object (Entries.erase members "evidence_verified")
  | other => other

/-- Findings in full. -/
def findingsText (findings : List Finding) : String :=
  laidOut (.array (findings.map findingJson))

/-- What the stages that read the package are given of it. -/
structure Context where
  functions : List Function
  structs : Structs := []
  risks : List DependencyRisk := []
  disassembly : Members := []
  hits : Option Static.Report := none
  capabilities : Option Capability.Report := none

/-! ### Triage -/

/-- The prompt for triage. -/
def triage (context : Context) : String :=
  Text.unlines [
      "",
      "You are a Junior Security Auditor performing initial triage.",
      "",
      "Your task: Scan the following list of public functions and flag any that MIGHT be " ++
        "risky based on:",
      "1. Function names (e.g., 'withdraw', 'mint', 'pause', 'upgrade', 'destroy')",
      "2. Parameters (e.g., TreasuryCap, AdminCap, Coin, Balance)",
      "3. Struct field details (e.g., a struct with 'balance' or 'supply' fields)",
      "4. Inherited risks from dependencies",
      "",
      "---PUBLIC FUNCTIONS---",
      functionsText context.functions,
      "---END PUBLIC FUNCTIONS---",
      "",
      "---STRUCT DEFINITIONS (for context)---",
      structsText context.structs,
      "---END STRUCT DEFINITIONS---",
      "",
      "---DEPENDENCY RISKS (Inherited from imported packages)---",
      risksText context.risks,
      "---END DEPENDENCY RISKS---",
      "",
      "---STATIC ANALYSIS (Deterministic pattern matches)---",
      Static.displayOption context.hits,
      "---END STATIC ANALYSIS---",
      "",
      "---CROSS-MODULE CAPABILITY FLOW---",
      Capability.displayOption context.capabilities,
      "---END CROSS-MODULE CAPABILITY FLOW---",
      "",
      "IMPORTANT:",
      "- Flag functions that could allow admin control, fund withdrawal, minting, " ++
        "pausing, or upgrading.",
      "- If dependency risks exist, consider that this contract inherits those risks.",
      "- Functions named in STATIC ANALYSIS or CROSS-MODULE CAPABILITY FLOW matched " ++
        "deterministic checks; flag them.",
      "- Prefer recall: when in doubt, flag the function. A later stage performs the deep " ++
        "analysis.",
      "- Standard library functions (0x1::, 0x2::) are usually safe.",
      "",
      goldenRule,
      "",
      "Return only a JSON object with this schema:",
      "\x7b",
      "  \"potentially_risky_functions\": [\"function_name_1\", \"function_name_2\"]",
      "\x7d",
      ""]

/-! ### Technical analysis -/

/-- The prompt for the technical analysis of flagged functions. -/
def technicalAnalysis (context : Context) (flagged : List String) (knowledge : String)
    (patternIds : List String) : String :=
  let flaggedText := (Value.ofTexts flagged).write .spaced
  Text.unlines [
      "",
      "You are a Senior Sui/Move Technical Security Auditor with forensic code analysis " ++
        "expertise.",
      "",
      "A junior auditor has flagged these functions as potentially risky based on " ++
        "names/params: " ++ flaggedText,
      "",
      "Your task is to perform a deep technical analysis on ONLY these flagged functions.",
      "",
      "Use the KNOWLEDGE BASE below, the FULL FUNCTION LIST (with parameters and struct " ++
        "definitions),",
      "and the DISASSEMBLED CODE provided for forensic evidence.",
      "",
      "For each flagged function, determine:",
      "1. What is the technical risk?",
      "2. Which specific pattern from the KNOWLEDGE BASE does it match, and what is its " ++
        "PATTERN ID?",
      "3. What is the SEVERITY LEVEL of that pattern in the Knowledge Base?",
      "4. What parameters or struct fields reveal the vulnerability?",
      "5. How do DEPENDENCY RISKS amplify the danger (if applicable)?",
      "6. What CONTEXTUAL OBSERVATIONS can you make that might affect risk scoring?",
      "",
      "---KNOWLEDGE BASE---",
      knowledge,
      "---END KNOWLEDGE BASE---",
      "",
      "---FULL FUNCTION LIST (Context)---",
      "Public Functions: " ++ functionsText context.functions,
      "",
      "Struct Definitions: " ++ structsText context.structs,
      "",
      "Dependency Risks: " ++ risksText context.risks,
      "---END FULL FUNCTION LIST---",
      "",
      "---DISASSEMBLED CODE (For Evidence Extraction)---",
      laidOut (.object context.disassembly),
      "---END DISASSEMBLED CODE---",
      "",
      "---STATIC ANALYSIS (Verified pattern matches)---",
      Static.displayOption context.hits,
      "---END STATIC ANALYSIS---",
      "",
      "---CROSS-MODULE CAPABILITY FLOW---",
      Capability.displayOption context.capabilities,
      "---END CROSS-MODULE CAPABILITY FLOW---",
      "",
      "---FLAGGED FUNCTIONS FOR DEEP ANALYSIS---",
      flaggedText,
      "---END FLAGGED FUNCTIONS---",
      "",
      "IMPORTANT ANALYSIS GUIDELINES:",
      "- Match each function to a SPECIFIC pattern ID from the Knowledge Base: " ++
        ", ".intercalate patternIds,
      "- Copy the Severity field from the matched pattern's definition in the Knowledge Base.",
      "- Explain the ROOT CAUSE using struct field details and the specific parameters " ++
        "involved.",
      "- Only report functions that actually match a pattern. Omit flagged functions that " ++
        "are safe.",
      "- Treat STATIC ANALYSIS and CROSS-MODULE results as verified facts, but still " ++
        "quote the evidence yourself.",
      "",
      "CHAIN OF EVIDENCE REQUIREMENT:",
      "- For every finding, quote the relevant lines of the DISASSEMBLED CODE literally " ++
        "in evidence_code_snippet.",
      "- The snippet should be concise but sufficient to prove the risk exists.",
      "- If the evidence is unclear or unavailable, write exactly \"" ++ noEvidence ++ "\".",
      "",
      "CONTEXTUAL OBSERVATIONS TO REPORT:",
      "For each finding, provide contextual_notes that may affect risk scoring, for example:",
      Text.unlines (noteExamples.map fun note => "- \"" ++ note ++ "\""),
      "- Any other observation that would influence the Score Modifiers from the " ++
        "Knowledge Base",
      "",
      goldenRule,
      "",
      "Return only a JSON object with this schema:",
      "\x7b",
      "  \"technical_findings\": [",
      "    \x7b",
      "      \"function_name\": \"string\",",
      "      \"technical_reason\": \"Detailed technical explanation of the risk\",",
      "      \"matched_pattern_id\": \"string (e.g., CRITICAL-01, HIGH-02, MEDIUM-03)\",",
      "      \"severity\": \"Critical | High | Medium | Low\",",
      "      \"contextual_notes\": [\"string\"],",
      "      \"evidence_code_snippet\": \"string\"",
      "    \x7d",
      "  ]",
      "\x7d",
      ""]

/-! ### Scoring -/

/-- One line on a finding. -/
def findingLine (finding : Finding) : String :=
  "- Func: " ++ finding.functionName ++ ", Pattern: " ++ finding.patternId ++ " (" ++
    finding.severity.word ++ ")" ++
    (if finding.notes.isEmpty then "" else " | Context: " ++ ", ".intercalate finding.notes) ++
    ", Reason: " ++ finding.reason

/-- A line on each finding. -/
def findingLines (findings : List Finding) : String :=
  let lines := Text.unlines (findings.map findingLine)
  if lines.isEmpty then "- (no findings)" else lines

/-- The prompt for scoring. -/
def scoring (findings : List Finding) (knowledge algorithm : String) : String :=
  Text.unlines [
      "",
      "You are a meticulous Sui Smart Contract Quantitative Risk Assessor. Calculate a " ++
        "precise numeric",
      "risk score (0-100) based only on the technical findings below, using the Knowledge " ++
        "Base and the",
      "scoring algorithm exactly as written. Provide a step-by-step justification and " ++
        "your confidence level.",
      "",
      "--- TECHNICAL FINDINGS (Includes Contextual Notes) ---",
      findingLines findings,
      "--- END FINDINGS ---",
      "",
      "--- KNOWLEDGE BASE (For Reference) ---",
      knowledge,
      "--- END KNOWLEDGE BASE ---",
      "",
      "--- SCORING ALGORITHM ---",
      algorithm,
      "--- END SCORING ALGORITHM ---",
      "",
      goldenRule,
      "",
      "Return only a JSON object with this schema:",
      "\x7b",
      "  \"risk_score\": 0,",
      "  \"justification\": \"Step-by-step calculation: base scores, every modifier, " ++
        "combination effects, total before clamping, final score.\",",
      "  \"confidence\": \"High | Medium | Low\"",
      "\x7d",
      ""]

/-! ### Report -/

/-- The form of a report. -/
def reportForm : String :=
  Text.unlines [
      "\x7b",
      "  \"summary\": \"1-2 sentence summary of the contract's risk profile\",",
      "  \"risky_functions\": [",
      "    \x7b",
      "      \"function_name\": \"...\",",
      "      \"reason\": \"User-friendly explanation\"",
      "    \x7d",
      "  ],",
      "  \"rug_pull_indicators\": [",
      "    \x7b",
      "      \"pattern_name\": \"owner_can_withdraw_all\",",
      "      \"evidence\": \"Specific function/parameter that proves this pattern\"",
      "    \x7d",
      "  ],",
      "  \"impact_on_user\": \"Clear explanation of how users are affected\",",
      "  \"why_risky_one_liner\": \"One sentence explaining the main risk\"",
      "\x7d"]

/-- The prompt for the report. -/
def report (findings : List Finding) (score : ScoreReport) (risks : List DependencyRisk) : String :=
  Text.unlines [
      "",
      "You are a Security Communicator. Your job is to translate the following technical " ++
        "report and score",
      "into a user-friendly JSON report.",
      "",
      "TECHNICAL FINDINGS:",
      findingsText findings,
      "",
      "RISK SCORE REPORT:",
      laidOut score.toJson,
      "",
      "DEPENDENCY RISKS (Inherited risks from imported packages):",
      risksText risks,
      "",
      "IMPORTANT RULES:",
      "- Do NOT make up new facts. Every risky function must come from the technical " ++
        "findings.",
      "- Do NOT change or restate a different score. The score is final.",
      "- Only translate technical language to user-friendly language.",
      "- Be clear and direct about risks.",
      "- If dependency risks exist, mention the inherited risks in the summary and " ++
        "impact_on_user.",
      "",
      "CHAIN OF EVIDENCE INTEGRATION:",
      "- In each risky_functions reason, include the evidence_code_snippet provided by " ++
        "the technical analyst",
      "  (e.g., \"This function allows admin withdrawal. Evidence: <code snippet>\").",
      "- If no evidence snippet is available, omit it from the reason.",
      "",
      goldenRule,
      "",
      "Return only a JSON object with this schema:",
      reportForm,
      ""]

/-! ### Critique -/

/-- The prompt for the critique of a draft, at a score if there is one. -/
def critique (findings : List Finding) (draft : Draft) (score : Option Int) : String :=
  let scored := draft.members ++ (score.map fun number => ("risk_score", Value.int number)).toList
  Text.unlines [
      "",
      "You are a Quality Assurance Critic. Your only job is to validate consistency.",
      "",
      "TECHNICAL FINDINGS (The Facts):",
      findingsText findings,
      "",
      "FINAL REPORT DRAFT:",
      laidOut (.object scored),
      "",
      "VALIDATION QUESTIONS:",
      Text.unlines checklist,
      "",
      goldenRule,
      "",
      "Return only a JSON object with this schema:",
      "\x7b",
      "  \"is_consistent\": true,",
      "  \"feedback\": \"If inconsistent, explain what needs to be fixed. If consistent, " ++
        "say 'Report is accurate.'\"",
      "\x7d",
      ""]

/-! ### Correction -/

/-- The prompt for mending a draft. -/
def correction (draft : Draft) (feedback : String) : String :=
  Text.unlines [
      "",
      "You are a Security Communicator. The Quality Assurance team has provided feedback " ++
        "on your report.",
      "",
      "ORIGINAL REPORT:",
      laidOut draft.toJson,
      "",
      "FEEDBACK FROM QA:",
      (if feedback.isEmpty then "(no feedback provided)" else feedback),
      "",
      "Your task: Rewrite the report to address the feedback. Keep the same schema structure.",
      "Do NOT add functions that are not in the original technical findings and do NOT " ++
        "change the score.",
      "",
      goldenRule,
      "",
      "Return only a JSON object with this schema:",
      reportForm,
      ""]

end MoveAudit.Prompt
