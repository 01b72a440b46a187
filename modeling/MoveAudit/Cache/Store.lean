/-
This file holds the stores that results are kept in. A store in memory keeps values as they are. A
shared store keeps them as JSON text on a server, under names that begin with the name space of the
store; whether the server can be reached is found out once, and what fails later is noticed and
counts as nothing found. The server is part of the store, so that what it is asked can be read off.
-/

import MoveAudit.Act
import MoveAudit.Json.Reader
import MoveAudit.Json.Writer
import MoveAudit.Text.Search

namespace MoveAudit.Cache

open Json

/-! ### Servers -/

/-- What a server is asked. -/
inductive Command where
  | ping
  | get (name : String)
  | set (name text : String)
  /-- Set for a number of seconds. -/
  | setFor (name : String) (seconds : Int) (text : String)
  | has (name : String)
  | scan (pattern : String)

/-- The word for a command. -/
def Command.word : Command → String
  | ping => "ping"
  | get _ => "get"
  | set .. => "set"
  | setFor .. => "setex"
  | has _ => "exists"
  | scan _ => "scan_iter"

/-- A command as a document: its word, and what it is about. -/
def Command.toJson (command : Command) : Value :=
  .array (.string command.word :: match command with
    | ping => []
    | get name | has name | scan name => [.string name]
    | set name text => [.string name, .string text]
    | setFor name seconds text => [.string name, .int seconds, .string text])

/-- Whether a pattern that ends in a star covers a name: the name begins with the rest of it. -/
def isCovered (pattern name : String) : Bool :=
  (pattern.toList.dropLast).isPrefixOf name.toList

/-- A server that keeps texts under names. -/
structure Server where
  texts : List (String × String) := []
  /-- The commands that the server does not carry out, and why. -/
  refusals : List (String × String) := []
  /-- Which names a pattern covers. -/
  covers : String → String → Bool := isCovered
  /-- The order in which names are listed. -/
  listed : List String → List String := id
  asked : List Command := []

namespace Server

/-- Note a command, and carry it out unless the server refuses it. -/
def carryOut {Result : Type} (command : Command) (work : Server → Result × Server)
    (server : Server) : Except String Result × Server :=
  let server := { server with asked := server.asked ++ [command] }
  match Entries.get? server.refusals command.word with
  | some reason => (.error reason, server)
  | none =>
    let (result, server) := work server
    (.ok result, server)

/-- Whether the server is there. -/
def ping : Server → Except String Unit × Server :=
  carryOut .ping fun server => ((), server)

/-- The text under a name. -/
def get (name : String) : Server → Except String (Option String) × Server :=
  carryOut (.get name) fun server => (Entries.get? server.texts name, server)

/-- Keep a text under a name, for some seconds if there is a limit. -/
def set (name text : String) (seconds? : Option Int) : Server → Except String Unit × Server :=
  carryOut (match seconds? with
    | some seconds => .setFor name seconds text
    | none => .set name text)
    fun server => ((), { server with texts := Entries.put server.texts name text })

/-- Whether there is a text under a name. -/
def has (name : String) : Server → Except String Bool × Server :=
  carryOut (.has name) fun server => (Entries.has server.texts name, server)

/-- The names that a pattern covers. -/
def scan (pattern : String) : Server → Except String (List String) × Server :=
  carryOut (.scan pattern) fun server =>
    (server.listed ((server.texts.map (·.1)).filter (server.covers pattern)), server)

end Server

/-! ### Stores -/

/-- How a shared store reaches its server. What the server alone makes use of is kept as it is
given. -/
structure Place where
  space : String := "suiguard:safety_card"
  /-- How many seconds results are kept; without a limit when there is none. -/
  lifetime? : Option Int := none
  host : String := "localhost"
  port : Int := 6379
  number : Value := .int 0
  password : Value := .null
  timeout : Value := .float (.ofInt 5)
  connections : Value := .int 50

namespace Place

/-- The place with a member of a document taken in; nothing if no part of a place is called so. -/
def after? (place : Place) : String × Value → Option Place
  | ("namespace", value) => some { place with space := value.text?.getD place.space }
  | ("ttl", .int seconds) => some { place with lifetime? := some seconds }
  | ("ttl", _) => some { place with lifetime? := none }
  | ("host", value) => some { place with host := value.text?.getD place.host }
  | ("port", .int port) => some { place with port }
  | ("port", _) => some place
  | ("db", number) => some { place with number }
  | ("password", password) => some { place with password }
  | ("socket_timeout", timeout) => some { place with timeout }
  | ("max_connections", connections) => some { place with connections }
  | _ => none

/-- The place that a document describes among other things. -/
def ofMembers (members : Members) : Place :=
  members.foldl (fun place member => (place.after? member).getD place) {}

/-- The place that a document describes if it describes nothing else. -/
def ofMembers? (members : Members) : Option Place :=
  members.foldlM after? {}

/-- A place as a document. -/
def members (place : Place) : Members :=
  [("namespace", .string place.space), ("ttl", .ofOption (place.lifetime?.map .int)),
    ("host", .string place.host), ("port", .int place.port), ("db", place.number),
    ("password", place.password), ("socket_timeout", place.timeout),
    ("max_connections", place.connections)]

end Place

/-- A store. -/
inductive Store where
  | memory (values : List (String × Value))
  /-- A store on a server; what is known of whether the server can be reached. -/
  | shared (place : Place) (server : Server) (reached? : Option (Except String Unit))

/-- The store cannot be used at all, for a reason. -/
structure Unreachable where
  message : String

/-- What is said of a kind of store that is none. -/
def unknownBackend (word : String) : String :=
  "Unknown cache backend: " ++ word ++ ". Use 'memory' or 'redis'."

namespace Store

/-- A store in memory with nothing in it. -/
def empty : Store :=
  .memory []

/-- A notice of a shared store. -/
def notice (level : Console.Level) (event message : String) (fields : Members) : Notice :=
  { level, component := "RedisStore", event := "cache.redis." ++ event, message, fields }

/-- What is said when the server of a store cannot be reached. -/
def unreachableText (place : Place) (reason : String) : String :=
  "Redis 未就绪，无法连接 " ++ place.host ++ ":" ++ Numeral.intText place.port ++
    "。请先启动 Redis 服务，或将 SUIGUARD_CACHE_BACKEND 设为 memory。 原因: " ++ reason

/-- Find out, once, whether the server can be reached. -/
def reach (place : Place) (server : Server) (reached? : Option (Except String Unit)) :
    Act Store Unreachable Server := do
  match reached? with
  | some (.ok ()) => return server
  | some (.error message) => throw ⟨message⟩
  | none =>
    match server.ping with
    | (.ok (), server) =>
      Act.change fun _ => .shared place server (some (.ok ()))
      return server
    | (.error reason, server) =>
      let message := unreachableText place reason
      Act.change fun _ => .shared place server (some (.error message))
      Act.note (notice .error "unavailable" message
        [("host", .string place.host), ("port", .int place.port)])
      throw ⟨message⟩

/-- Ask the server of a shared store about something; what it refuses is noticed and has a
default. -/
def askServer {Result : Type} (event : String) (about : String × Value) (default_ : Result)
    (question : Place → Server → Except String Result × Server)
    (place : Place) (server : Server) (reached? : Option (Except String Unit)) :
    Act Store Unreachable Result := do
  let server ← reach place server reached?
  let (outcome, server) := question place server
  Act.change fun _ => .shared place server (some (.ok ()))
  match outcome with
  | .ok result => return result
  | .error reason =>
    Act.note (notice .warning event reason [about])
    return default_

/-- The name of a result on a server. -/
def Place.nameOf (place : Place) (key : String) : String :=
  place.space ++ ":" ++ key

/-- How long results are kept; no time at all is no limit. -/
def Place.seconds? (place : Place) : Option Int :=
  place.lifetime?.filter (· ≠ 0)

/-- The value that a text on a server stands for. -/
def decoded : Except String (Option String) → Except String Value
  | .error reason => .error reason
  | .ok none => .ok .null
  | .ok (some text) => (read text).mapError fun fault => fault.message text

/-- Ask a server for the value under a key. -/
def getFrom (key : String) (place : Place) (server : Server) : Except String Value × Server :=
  let (outcome, server) := server.get (Place.nameOf place key)
  (decoded outcome, server)

/-- The value under a key; nothing when there is none. -/
def get (key : String) : Act Store Unreachable Value := do
  match ← Act.look with
  | .memory values => return .ofOption (Entries.get? values key)
  | .shared place server reached? =>
    askServer "get_failed" ("key", .string key) .null (getFrom key) place server reached?

/-- Ask a server to keep the text of a value under a key. -/
def setOn (key : String) (value : Value) (place : Place) (server : Server) :
    Except String Bool × Server :=
  let (outcome, server) := server.set (Place.nameOf place key) (value.write .spaced)
    (Place.seconds? place)
  (outcome.map fun _ => true, server)

/-- Keep a value under a key, and say whether it is kept. -/
def set (key : String) (value : Value) : Act Store Unreachable Bool := do
  match ← Act.look with
  | .memory values =>
    Act.change fun _ => .memory (Entries.put values key value)
    return true
  | .shared place server reached? =>
    askServer "set_failed" ("key", .string key) false (setOn key value) place server reached?

/-- Ask a server whether there is a text under a key. -/
def hasOn (key : String) (place : Place) (server : Server) : Except String Bool × Server :=
  server.has (Place.nameOf place key)

/-- Whether there is something under a key, be it nothing. -/
def has (key : String) : Act Store Unreachable Bool := do
  match ← Act.look with
  | .memory values => return Entries.has values key
  | .shared place server reached? =>
    askServer "exists_failed" ("key", .string key) false (hasOn key) place server reached?

/-- Whether there is a value under a key, told by getting it. -/
def holds (key : String) : Act Store Unreachable Bool := do
  return !(← get key).isNull

/-- The pattern for the keys that begin with a text. -/
def patternOf (start : String) (place : Place) : String :=
  Place.nameOf place start ++ "*"

/-- Ask a server for the keys that begin with a text. -/
def keysOn (start : String) (place : Place) (server : Server) :
    Except String (List String) × Server :=
  let (outcome, server) := server.scan (patternOf start place)
  let kept := outcome.map fun names => names.map fun name =>
    String.ofList (name.toList.drop (place.space.length + 1))
  (kept, server)

/-- The keys that begin with a text, in the order in which they were first set. -/
def keysFrom (start : String) : Act Store Unreachable (List String) := do
  match ← Act.look with
  | .memory values => return (values.map (·.1)).filter (start.isPrefixOf ·)
  | .shared place server reached? =>
    askServer "scan_failed" ("prefix", .string start) [] (keysOn start) place server reached?

end Store

end MoveAudit.Cache
