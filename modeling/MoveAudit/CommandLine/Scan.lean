/-
This file holds the command that scans packages. Its options override the settings of the
environment; without a key for the model it does nothing. What it found is written into a file or
shown in one notice, and it fails when a package has no card.
-/

import MoveAudit.CommandLine.Form
import MoveAudit.Service.Audit

namespace MoveAudit.CommandLine

open Json Service

namespace Scanning

/-- What the command accepts. -/
def form : Form where
  program := "suiguard-scan"
  items := [⟨["--network"], "network", some (.choice (Network.all.map Network.word))⟩,
    ⟨["--llm-api-key"], "llm_api_key", some .text⟩,
    ⟨["--llm-base-url"], "llm_base_url", some .text⟩,
    ⟨["--llm-model"], "llm_model", some .text⟩,
    ⟨["--temperature"], "temperature", some .number⟩,
    ⟨["--llm-timeout"], "llm_timeout", some .number⟩,
    ⟨["--llm-scoring"], "llm_scoring", none⟩,
    ⟨["--dependency-lookup"], "dependency_lookup",
      some (.choice (Dependency.Mode.all.map Dependency.Mode.word))⟩,
    ⟨["--knowledge-base"], "knowledge_base_path", some .text⟩,
    ⟨["--max-concurrency"], "max_concurrency", some .whole⟩,
    ⟨["-o", "--output"], "output", some .text⟩,
    ⟨["-v", "--verbose"], "verbose", none⟩]
  rest? := some "package_ids"

/-- The values that hold when nothing is given. -/
def usual (environment : Environment) : Members :=
  let variable_ := Entries.get? environment
  [("network", .string "mainnet"),
    ("llm_api_key", .string ((variable_ "OPENAI_API_KEY").getD "")),
    ("llm_base_url", .ofText (variable_ "OPENAI_BASE_URL")),
    ("llm_model", .string ((variable_ "OPENAI_MODEL").getD Setting.usualModel)),
    ("verbose", .bool false)]

/-- What the command says when there is no key for the model. -/
def noKeyText : String :=
  "缺少 LLM API Key，请通过 --llm-api-key 提供或设置 OPENAI_API_KEY 环境变量"

/-- Why the command does not get to scanning. -/
inductive Failure where
  | config (fault : Config.Fault)
  | refusal (refusal : Service.Refusal)

/-- What the command comes to. -/
structure Ending where
  /-- The code that it ends with. -/
  code : Nat
  /-- What it complains of. -/
  complaint : String := ""
  config? : Option Config := none
  /-- A file that it writes, and its text. -/
  file? : Option (String × String) := none
  /-- What it shows of what it found. -/
  shown? : Option String := none
  mode : Console.Mode := .normal
  notices : List Notice := []

/-- The end of a command that has not done anything. -/
def stopped : Stop → Ending
  | .help => { code := 0 }
  | .fault fault => { code := 2, complaint := form.complaint fault.message }

/-- The mode of the console. -/
def modeOf (environment : Environment) (config : Config) : Console.Mode :=
  .settle "" ((Entries.get? environment "SUIGUARD_LOG_MODE").getD "") (config.isOn .isVerbose)

/-- The configuration that the environment and the values of options give. -/
def configOf (environment : Environment) (values : Members) : Except Config.Fault Config := do
  (← Config.ofEnvironment environment).overrideAll
    (values.filter fun (name, _) => (Setting.ofWord? name).isSome)

/-- A notice of the command on what it found. -/
def notice (level : Console.Level) (event message : String) (fields : Members := []) : Notice :=
  Scan.notice "suiguard.scanner.cli" level event message fields

/-- Tell what was found: into a file if one is named, and else in a notice. -/
def tell (output : Value) (found : Findings) (ending : Ending) : Ending :=
  let text := (Scan.toJson found).write .laidOut
  match output.full? with
  | some place =>
    { ending with file? := some (place.text?.getD "", text)
                  notices := ending.notices ++
                    [notice .success "output" "结果已写入文件" [("path", place)]] }
  | none =>
    { ending with shown? := some text
                  notices := ending.notices ++ [notice .info "result.payload" text] }

/-- Count what was not found. -/
def count (found : Findings) (ending : Ending) : Ending :=
  let failures := Scan.failures found
  if failures = 0 then ending
  else
    { ending with code := 1
                  notices := ending.notices ++ [notice .warning "failed" "部分 package 分析失败"
                    [("failed", .int failures), ("total", .int found.length)]] }

/-- Scan what is given, with a configuration. -/
def scan (outside : Outside) (config : Config) (given : Given) (ending : Ending) :
    Except Failure Ending := do
  let (plan, world) ← (Plan.ofConfig outside config).mapError .refusal
  let value := fun name => (Entries.get? given.values name).getD .null
  let packages := (given.rest?.getD []).map .string
  let (found, scene) :=
    (Scan.all plan "suiguard.scanner" (value "network") packages : Act World Empty _).outcome world
  match found with
  | .ok found =>
    return count found (tell (value "output") found { ending with notices := scene.notices })

/-- What the command comes to in an environment, with arguments. -/
def run (outside : Outside) (environment : Environment) (arguments : List String) :
    Except Failure Ending := do
  match form.read (usual environment) arguments with
  | .error stop => return stopped stop
  | .ok given =>
    if !((Entries.get? given.values "llm_api_key").getD .null).isFull then
      return { code := 2, complaint := form.complaint noKeyText }
    else
      let config ← (configOf environment given.values).mapError .config
      scan outside config given { code := 0, config? := some config
                                  mode := modeOf environment config }

end Scanning

end MoveAudit.CommandLine
