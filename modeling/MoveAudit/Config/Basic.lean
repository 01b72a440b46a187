/-
This file holds configurations: values under names, and what they say of each setting. Settings are
told apart by a type of their own. A configuration can be asked for every one of them, and answers
to a few names besides. Values are kept as they were given; whoever uses a setting says what it
takes the value for. Where a network belongs, whatever is written stands for one: the name of a
network in any case and with blanks around it, and anything else for the main one.
-/

import MoveAudit.Chain.Publication
import MoveAudit.Json.Value
import MoveAudit.Text.Basic
import MoveAudit.Text.Case

namespace MoveAudit

/-! ### Networks -/

/-- A network. -/
inductive Network where
  | mainnet
  | testnet
  deriving DecidableEq, Repr

namespace Network

/-- The networks. -/
def all : List Network :=
  [.mainnet, .testnet]

/-- The name of a network. -/
def word : Network → String
  | mainnet => "mainnet"
  | testnet => "testnet"

/-- The network that is meant by what is written. -/
def ofValue (written : Json.Value) : Network :=
  match written with
  | .string text =>
    (all.find? (·.word == Text.lowered (Text.trimmed text))).getD mainnet
  | _ => mainnet

end Network

open Json

/-! ### Settings -/

/-- What can be set. -/
inductive Setting where
  | apiKey
  | modelHost
  | model
  | temperature
  | modelTimeout
  | asksForScore
  | nodeUrls
  | nodeTimeout
  | concurrency
  | lookup
  | knowledgeBase
  | backend
  | storeHost
  | storePort
  | storeNumber
  | storePassword
  | feedIsOn
  | feedNetwork
  | feedInterval
  | feedKind
  | journal
  | isVerbose
  deriving DecidableEq, Repr

namespace Setting

/-- The settings, in the order in which they are listed and read. -/
def all : List Setting :=
  [.apiKey, .modelHost, .model, .temperature, .modelTimeout, .asksForScore, .nodeUrls, .nodeTimeout,
    .concurrency, .lookup, .knowledgeBase, .backend, .storeHost, .storePort, .storeNumber,
    .storePassword, .feedIsOn, .feedNetwork, .feedInterval, .feedKind, .journal, .isVerbose]

/-- The name of a setting. -/
def word : Setting → String
  | apiKey => "llm_api_key"
  | modelHost => "llm_base_url"
  | model => "llm_model"
  | temperature => "temperature"
  | modelTimeout => "llm_timeout"
  | asksForScore => "llm_scoring"
  | nodeUrls => "rpc_urls"
  | nodeTimeout => "rpc_timeout"
  | concurrency => "max_concurrency"
  | lookup => "dependency_lookup"
  | knowledgeBase => "knowledge_base_path"
  | backend => "cache_backend"
  | storeHost => "redis_host"
  | storePort => "redis_port"
  | storeNumber => "redis_db"
  | storePassword => "redis_password"
  | feedIsOn => "feed_enabled"
  | feedNetwork => "feed_network"
  | feedInterval => "feed_poll_interval"
  | feedKind => "publish_tx_kind"
  | journal => "llm_log_db"
  | isVerbose => "verbose"

/-- The setting of a name. -/
def ofWord? (name : String) : Option Setting :=
  all.find? (·.word == name)

/-- The model that is asked when none is named. -/
def usualModel : String :=
  "gpt-4o-mini"

/-- Where the node of a network is reached when nothing is said of it. -/
def usualUrl (network : Network) : String :=
  "https://fullnode." ++ network.word ++ ".sui.io:443"

/-- The value of a setting that nothing is said of. -/
def usual : Setting → Value
  | apiKey => .string ""
  | model => .string usualModel
  | temperature => .float (.ofDecimal false 1 (-1))
  | modelTimeout => .float (.ofInt 120)
  | nodeUrls => .object (Network.all.map fun network => (network.word, .string (usualUrl network)))
  | nodeTimeout => .int 30
  | concurrency => .int 10
  | lookup => .string "cross_network"
  | backend => .string "memory"
  | storeHost => .string "localhost"
  | storePort => .int 6379
  | storeNumber => .int 0
  | feedNetwork => .string Network.mainnet.word
  | feedInterval => .float (.ofInt 15)
  | feedKind => .string Chain.publishingKind
  | asksForScore | feedIsOn | isVerbose => .bool false
  | modelHost | knowledgeBase | storePassword | journal => .null

end Setting

/-- What stands under names: under those of settings, and under names that something else was
answered to before. -/
structure Config where
  state : Members := Setting.all.map fun setting => (setting.word, setting.usual)

namespace Config

/-- The value of a setting. One that the state does not name is the usual one, but for the places of
nodes, which there are none of then. -/
def value (config : Config) (setting : Setting) : Value :=
  (Entries.get? config.state setting.word).getD
    (if setting = .nodeUrls then .null else setting.usual)

/-- The configuration with a value for a setting. -/
def set (setting : Setting) (value : Value) (config : Config) : Config :=
  ⟨Entries.put config.state setting.word value⟩

/-- What stands under names that are none of settings. -/
def replaced (config : Config) : Members :=
  config.state.filter fun member => (Setting.ofWord? member.1).isNone

/-- The value of a setting as a text, empty when it is none. -/
def text (config : Config) (setting : Setting) : String :=
  (config.value setting).text?.getD ""

/-- Whether a setting is on. -/
def isOn (config : Config) (setting : Setting) : Bool :=
  (config.value setting).isFull

/-- The questions that every configuration answers. -/
def questions : List String :=
  ["rpc_url", "from_env"]

/-- What anything can be asked, whatever it is made for. -/
def commonQuestions : List String :=
  ["__annotations__", "__dataclass_fields__", "__dataclass_params__", "__delattr__", "__dir__",
    "__doc__", "__eq__", "__format__", "__ge__", "__getattribute__", "__getstate__", "__gt__",
    "__hash__", "__init__", "__init_subclass__", "__le__", "__lt__", "__match_args__",
    "__module__", "__ne__", "__new__", "__reduce__", "__reduce_ex__", "__repr__", "__setattr__",
    "__sizeof__", "__str__", "__subclasshook__"]

/-- Whether a configuration answers to a name: to that of a setting which has a usual value, to a
question, or to what stands in its state. -/
def answersTo (config : Config) (name : String) : Bool :=
  ((Setting.ofWord? name).any (· ≠ .nodeUrls) || questions.contains name ||
    commonQuestions.contains name) || Entries.has config.state name

/-- Where the node of a network is reached: what is set for the network as it is written, or else
the usual place of the network that is meant. -/
def nodeUrl (config : Config) (network : Value) : Except ShapeFault Value := do
  if Entries.has config.state "rpc_url" then throw .wrongKind
  let set ← (config.value .nodeUrls).allMembers
  if !Chain.isPlain network then throw .wrongKind
  let known := (network.text?.bind (Entries.get? set ·)).getD .null
  return known.full?.getD (.string (Setting.usualUrl (.ofValue network)))

end Config

end MoveAudit
