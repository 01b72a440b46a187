/-
This file makes configurations: out of the environment, out of members of a document, and by
settings that override others. Numbers in the environment are read leniently, blanks count as
nothing said, and a variable that should hold a number and does not is a fault that names it.
Settings are read in their order, so of two faults the one of the earlier setting is told.
-/

import MoveAudit.Config.Basic
import MoveAudit.Dependency.Risk

namespace MoveAudit

open Json

/-- The variables of an environment. -/
abbrev Environment := List (String × String)

namespace Config

/-- Why there is no configuration. -/
inductive Fault where
  /-- A variable should hold a whole number. -/
  | notWhole (variable_ text : String)
  /-- A variable should hold a number. -/
  | notNumber (variable_ text : String)
  /-- There is no such way to look up dependencies. -/
  | unknownLookup (written : Value)
  /-- Something is overridden that is no setting. -/
  | unknownOverride (name : String)
  /-- A name is overridden that the configuration is made under. -/
  | givenTwice (name : String)
  /-- A value cannot be what makes something a configuration. -/
  | notClass (value : Value)
  /-- A value cannot be the state of a configuration. -/
  | notState (value : Value)
  /-- Something is overridden that can only be read. -/
  | notWritable (name : String)
  /-- A document has a member that is no setting. -/
  | unknownMember (name : String)

/-- The fault in words. -/
def Fault.message : Fault → String
  | notWhole variable_ text =>
    "Environment variable " ++ variable_ ++ " must be an integer, got " ++ Text.quoted text
  | notNumber variable_ text =>
    "Environment variable " ++ variable_ ++ " must be a number, got " ++ Text.quoted text
  | unknownLookup written => Dependency.Mode.unknownText written
  | unknownOverride name => "Unknown config field: " ++ name
  | givenTwice name =>
    "AnalyzerConfig.from_env() got multiple values for argument " ++ Text.quoted name
  | notClass value =>
    "__class__ must be set to a class, not " ++ Text.quoted (Record.kindWord value) ++ " object"
  | notState value =>
    "__dict__ must be set to a dictionary, not a " ++ Text.quoted (Record.kindWord value)
  | notWritable name =>
    "attribute " ++ Text.quoted name ++ " of 'AnalyzerConfig' objects is not writable"
  | unknownMember name => "unexpected member " ++ Text.quoted name

/-- Whether the fault is that something is given that has no place, and not what a text says or
that something cannot be written. -/
def Fault.isMisplaced : Fault → Bool
  | notWhole .. | notNumber .. | unknownLookup _ | notWritable _ => false
  | unknownOverride _ | givenTwice _ | notClass _ | notState _ | unknownMember _ => true

/-! ### Reading variables -/

/-- The words for a flag that is on. -/
def onWords : List String :=
  ["1", "true", "yes", "on"]

/-- The words for a flag that is off. -/
def offWords : List String :=
  ["0", "false", "no", "off"]

/-- Whether a flag is on; a word that says neither leaves it as it is. -/
def flag (environment : Environment) (variable_ : String) (usual : Bool) : Bool :=
  match Entries.get? environment variable_ with
  | none => usual
  | some text =>
    let word := Text.lowered (Text.trimmed text)
    if onWords.contains word then true
    else if offWords.contains word then false
    else usual

/-- What a variable says; an empty text says nothing. -/
def said? (environment : Environment) (variable_ : String) : Option String :=
  (Entries.get? environment variable_).filter (!·.isEmpty)

/-- What a variable says besides blanks, as it stands. -/
def written? (environment : Environment) (variable_ : String) : Option String :=
  (Entries.get? environment variable_).filter fun text => !(Text.trimmed text).isEmpty

/-- The whole number that a text stands for, unless it is too long to be read. -/
def whole? (text : String) : Option Int := do
  let (negative, digits) ← Numeral.wholeDigits? text.toList
  if digits.length ≤ Numeral.digitLimit then some (Numeral.toInt negative digits) else none

/-- The number that a text stands for. -/
def number? (text : String) : Option Double :=
  Numeral.double? text.toList

/-! ### The environment -/

/-- A setting that a variable gives as a whole number. -/
def wholeFrom (environment : Environment) (variable_ : String) (setting : Setting) :
    Except Fault Value :=
  match written? environment variable_ with
  | none => .ok setting.usual
  | some text =>
    match whole? text with
    | some number => .ok (.int number)
    | none => .error (.notWhole variable_ text)

/-- A setting that a variable gives as a number. -/
def numberFrom (environment : Environment) (variable_ : String) (setting : Setting) :
    Except Fault Value :=
  match written? environment variable_ with
  | none => .ok setting.usual
  | some text =>
    match number? text with
    | some number => .ok (.float number)
    | none => .error (.notNumber variable_ text)

/-- The way to look up dependencies that a variable gives. -/
def lookupFrom (environment : Environment) (variable_ : String) : Except Fault Value :=
  match said? environment variable_ with
  | none => .ok Setting.lookup.usual
  | some text =>
    match Dependency.Mode.ofValue? (.string text) with
    | some mode => .ok (.string mode.word)
    | none => .error (.unknownLookup (.string text))

/-- Where nodes are reached, as variables give it. -/
def urlsFrom (environment : Environment) : Value :=
  .object (Network.all.map fun network =>
    (network.word, .string ((said? environment (match network with
      | .mainnet => "SUI_RPC_URL_MAINNET"
      | .testnet => "SUI_RPC_URL_TESTNET")).getD (Setting.usualUrl network))))

/-- What the environment says of a setting. -/
def fromEnvironment (environment : Environment) (setting : Setting) : Except Fault Value :=
  let text := fun variable_ =>
    (Except.ok (((said? environment variable_).map .string).getD setting.usual) :
      Except Fault Value)
  match setting with
  | .apiKey => text "OPENAI_API_KEY"
  | .modelHost => text "OPENAI_BASE_URL"
  | .model => text "OPENAI_MODEL"
  | .temperature => numberFrom environment "SUIGUARD_TEMPERATURE" setting
  | .modelTimeout => numberFrom environment "SUIGUARD_LLM_TIMEOUT" setting
  | .asksForScore => .ok (.bool (flag environment "SUIGUARD_LLM_SCORING" false))
  | .nodeUrls => .ok (urlsFrom environment)
  | .nodeTimeout => wholeFrom environment "SUIGUARD_RPC_TIMEOUT" setting
  | .concurrency => wholeFrom environment "SUIGUARD_MAX_CONCURRENCY" setting
  | .lookup => lookupFrom environment "SUIGUARD_DEPENDENCY_LOOKUP"
  | .knowledgeBase => text "SUIGUARD_KNOWLEDGE_BASE"
  | .backend => return .string (Text.lowered (Text.trimmed
      ((said? environment "SUIGUARD_CACHE_BACKEND").getD "memory")))
  | .storeHost => text "REDIS_HOST"
  | .storePort => wholeFrom environment "REDIS_PORT" setting
  | .storeNumber => wholeFrom environment "REDIS_DB" setting
  | .storePassword => text "REDIS_PASSWORD"
  | .feedIsOn => .ok (.bool (flag environment "SUIGUARD_FEED_ENABLED" false))
  | .feedNetwork => .ok (.string (Network.ofValue
      (.ofText (Entries.get? environment "SUIGUARD_FEED_NETWORK"))).word)
  | .feedInterval => numberFrom environment "SUIGUARD_FEED_POLL_INTERVAL" setting
  | .feedKind => text "SUIGUARD_PUBLISH_TX_KIND"
  | .journal => text "SUIGUARD_LLM_LOG_DB"
  | .isVerbose => .ok setting.usual

/-- The variables that settings are read from. -/
def variableNames : List String :=
  ["OPENAI_API_KEY", "OPENAI_BASE_URL", "OPENAI_MODEL", "SUIGUARD_TEMPERATURE",
    "SUIGUARD_LLM_TIMEOUT", "SUIGUARD_LLM_SCORING", "SUI_RPC_URL_MAINNET", "SUI_RPC_URL_TESTNET",
    "SUIGUARD_RPC_TIMEOUT", "SUIGUARD_MAX_CONCURRENCY", "SUIGUARD_DEPENDENCY_LOOKUP",
    "SUIGUARD_KNOWLEDGE_BASE", "SUIGUARD_CACHE_BACKEND", "REDIS_HOST", "REDIS_PORT", "REDIS_DB",
    "REDIS_PASSWORD", "SUIGUARD_FEED_ENABLED", "SUIGUARD_FEED_NETWORK",
    "SUIGUARD_FEED_POLL_INTERVAL", "SUIGUARD_PUBLISH_TX_KIND", "SUIGUARD_LLM_LOG_DB"]

/-- Values for settings as a configuration. -/
def ofValues (values : List (Setting × Value)) : Config :=
  values.foldl (fun config (setting, value) => config.set setting value) {}

/-- The configuration that the environment gives. -/
def ofEnvironment (environment : Environment) : Except Fault Config := do
  return ofValues (← Setting.all.mapM fun setting =>
    return (setting, ← fromEnvironment environment setting))

/-! ### Overriding -/

/-- Why a value does not take the place of what stands under a name, if it does not. -/
def refusal? (config : Config) (name : String) (value : Value) : Option Fault :=
  if name = "__class__" then some (.notClass value)
  else if name = "__dict__" then some (.notState value)
  else if name = "__weakref__" then some (.notWritable name)
  else if config.answersTo name then none
  else some (.unknownOverride name)

/-- The configuration with an override. One without a value overrides nothing, and members in place
of the whole state leave nothing of it. -/
def override (config : Config) : String × Value → Except Fault Config
  | (_, .null) => .ok config
  | ("__dict__", .object members) => .ok ⟨members⟩
  | (name, value) =>
    match config.refusal? name value with
    | some fault => .error fault
    | none => .ok ⟨Entries.put config.state name value⟩

/-- The name that the kind of configuration is given under, and nothing else may be. -/
def ownName : String := "cls"

/-- The configuration with overrides, each in turn. -/
def overrideAll (config : Config) (overrides : Members) : Except Fault Config :=
  if Entries.has overrides ownName then .error (.givenTwice ownName)
  else overrides.foldlM override config

/-- The configuration that members of a document give; each of them is the name of a setting. -/
def ofMembers (members : Members) : Except Fault Config := do
  return ofValues (← members.mapM fun (name, value) =>
    match Setting.ofWord? name with
    | some setting => .ok (setting, value)
    | none => .error (.unknownMember name))

end Config

end MoveAudit
