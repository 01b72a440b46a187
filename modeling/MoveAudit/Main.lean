/-
This file is the program. Its first argument says what to do: scan packages, or bring up the web
interface. What lies outside is given as one document on the first line of standard input: the
answers of the model and what the nodes know. The web interface then takes one request from each
further line and writes one answer.
-/

import MoveAudit.CommandLine.Scan
import MoveAudit.CommandLine.Serve
import MoveAudit.Console.Line
import MoveAudit.Service.Plan
import MoveAudit.Web.Answer
import MoveAudit.Yaml.Reader
import Std.Time

namespace MoveAudit.Program

open Json

/-! ### The outside -/

/-- The environment, as far as it matters. -/
def environment : IO Environment := do
  let found ← (Config.variableNames ++ ["SUIGUARD_LOG_MODE", "HOST", "PORT"]).mapM fun name => do
    return (← IO.getEnv name).map fun value => (name, value)
  return found.filterMap id

/-- The document on the next line of standard input, or an empty one. -/
def nextDocument (input : IO.FS.Stream) : IO Value := do
  match read (← input.getLine) with
  | .ok document => return document
  | .error _ => return .object []

/-- The files that may be asked for. -/
def files (places : List String) : IO (String → Option String) := do
  let found ← places.mapM fun (place : String) => do
    try return some (place, ← IO.FS.readFile place)
    catch _ => return none
  return fun place => Entries.get? (found.filterMap id) place

/-- What lies outside, where a document says what it is but for files. -/
def outsideOf (document : Value) (readFile : String → Option String) : Service.Outside :=
  { Service.Outside.ofJson document with
    readFile, readDocument := Yaml.read? }

/-! ### The console -/

/-- The time, as lines of the console give it. -/
def time : IO String := do
  return (← Std.Time.PlainDateTime.now).format "uuuu-MM-dd HH:mm:ss.SSS"

/-- Write notices to the console. -/
def showNotices (mode : Console.Mode) (notices : List Notice) : IO Unit := do
  for notice in notices do
    if let some line := Console.shownLine? mode (← time) [] notice then IO.println line

/-- Complain, and end with a code. -/
def complain (code : UInt32) (words : String) : IO UInt32 := do
  if !words.isEmpty then IO.eprintln words
  return code

/-- Why a service cannot be brought up, in words. -/
def refusalText : Service.Refusal → String
  | .noKnowledgeBase => "No such file"
  | .unknownBackend written => Cache.unknownBackend written.shown
  | .knowledge (.invalid faults) => "Invalid knowledge base: " ++
      Record.briefly "KnowledgeBaseDocument" faults
  | .knowledge (.duplicate id) => "Duplicate pattern id: " ++ id
  | .knowledge _ => "Invalid knowledge base"

/-! ### Commands -/

/-- Scan packages. -/
def scan (arguments : List String) : IO UInt32 := do
  let document ← nextDocument (← IO.getStdin)
  let outside := outsideOf document (← files arguments)
  match CommandLine.Scanning.run outside (← environment) arguments with
  | .error (.config fault) => complain 1 fault.message
  | .error (.refusal refusal) => complain 1 (refusalText refusal)
  | .ok ending =>
    showNotices ending.mode ending.notices
    if let some (place, text) := ending.file? then IO.FS.writeFile place text
    complain (.ofNat ending.code) ending.complaint

/-- Where faults in records are explained: nowhere. -/
def manual : String := ""

/-- Answer requests until there are no more. -/
partial def answerAll (plan : Service.Plan) (mode : Console.Mode) (input : IO.FS.Stream)
    (world : Service.World) : IO Unit := do
  let line ← input.getLine
  if line.isEmpty then return
  match read line with
  | .error _ => answerAll plan mode input world
  | .ok document =>
    let (outcome, scene) := (Web.answer plan (.ofJson document) : Act _ Empty _).outcome world
    showNotices mode scene.notices
    match outcome with
    | .ok answer => IO.println ((Value.object [("status", .int answer.status),
        ("body", answer.content.toJson manual)]).write .spaced)
    answerAll plan mode input scene.world

/-- Bring up the web interface. -/
def serve (arguments : List String) : IO UInt32 := do
  let known ← environment
  match CommandLine.Serving.read known arguments with
  | .error words => complain 1 words
  | .ok (.error .help) => return 0
  | .ok (.error (.fault fault)) => complain 2 (CommandLine.Serving.form.complaint fault.message)
  | .ok (.ok serving) =>
    match Config.ofEnvironment known with
    | .error fault => complain 1 fault.message
    | .ok config =>
      let input ← IO.getStdin
      let readFile ← files [config.text .knowledgeBase]
      let outside := outsideOf (← nextDocument input) readFile
      let mode := CommandLine.Scanning.modeOf known config
      showNotices mode serving.notices
      match Service.Plan.ofConfig outside config with
      | .error refusal => complain 1 (refusalText refusal)
      | .ok (plan, world) =>
        answerAll plan mode input world
        return 0

end MoveAudit.Program

/-- The program. -/
def main (arguments : List String) : IO UInt32 :=
  match arguments with
  | "scan" :: rest => MoveAudit.Program.scan rest
  | "serve" :: rest => MoveAudit.Program.serve rest
  | _ => MoveAudit.Program.complain 2 "usage: scan [options] package_ids, or serve [options]"
