/-
This file answers requests to the web interface. An analysis that fails is an answer too, with the
reason in words; what is wrong with a request itself is told without anything being done.
-/

import MoveAudit.Service.Feed
import MoveAudit.Web.Request

namespace MoveAudit.Web

open Json Record Service

/-- What an answer holds. -/
inductive Content where
  | document (value : Value)
  | faults (faults : List Record.Fault)
  | entry (entry : Journal.Entry)
  | entries (entries : List Journal.Entry)

/-- An answer. -/
structure Answer where
  status : Nat
  content : Content

/-- An entry of the journal as a document; `manual` is where faults are explained. -/
def entryJson (manual : String) (entry : Journal.Entry) : Value :=
  .object (entry.members (inFull manual) ++ [("prompt", .string entry.prompt)])

/-- A fault as a document: where it is and of what sort. -/
def faultJson (fault : Record.Fault) : Value :=
  .object [("loc", .array (fault.path.map fun
      | .name word => .string word
      | .index number => .int number)), ("type", .string fault.cause.code)]

/-- What an answer holds as a document. -/
def Content.toJson (manual : String) : Content → Value
  | document value => value
  | faults found => .object [("detail", .array (found.map faultJson))]
  | entry one => entryJson manual one
  | entries several => .array (several.map (entryJson manual))

/-- A notice of the web interface. -/
def notice (level : Console.Level) (event message : String) (fields : Members) : Notice :=
  { level, component := "web.api", event, message, fields }

/-- An answer that tells why there is no other. -/
def refusal (status : Nat) (detail : String) : Answer :=
  ⟨status, .document (.object [("detail", .string detail)])⟩

/-- The answer to a request on which something breaks. -/
def broken : Answer :=
  ⟨500, .document (.string "Internal Server Error")⟩

/-- The answer to a request whose query or body was checked. -/
def checked {Fault Result : Type} (outcome : Checked Result)
    (answer : Result → Act World Fault Answer) : Act World Fault Answer :=
  match outcome with
  | .ok result => answer result
  | .faults faults => return ⟨422, .faults faults⟩
  | .halt _ => return broken

/-- What is said of an analysis that was made. -/
def successText (network : Network) (isKept : Bool) : String :=
  "Analysis successful (" ++ (if isKept then "from cache - " else "") ++ network.word ++ ")"

/-- The answer to a request for an analysis. -/
def analyse {Fault : Type} (plan : Plan) (wanted : Wanted) : Act World Fault Answer := do
  let network := Network.ofValue wanted.network
  match ← (Service.analyse plan (.string wanted.package) (.string network.word)).settle with
  | .ok (card, isKept) => return ⟨200, .document (.object
      [("message", .string (successText network isKept)), ("safetyCard", card.toJson)])⟩
  | .error failure =>
    Act.note (notice .error "analyze.failed" "分析失败" [("package_id", .string wanted.package),
      ("network", .string network.word), ("error", .string (toString failure))])
    return ⟨500, .document (.object [("error", .string "Analysis failed"),
      ("details", .string (toString failure))])⟩

/-- The journal as it is. -/
def journal {Fault : Type} : Act World Fault Journal :=
  return (← Act.look).desk.journal

/-- The answer to a request at a place. -/
def answerAt {Fault : Type} (plan : Plan) (request : Request) : Place → Act World Fault Answer
  | .analyse => checked (wanted request.body) (analyse plan)
  | .health => return ⟨200, .document (.object [("status", .string "ok")])⟩
  | .logs => checked (journalQuery request.query) fun query => do
    match (← journal).search query with
    | .ok found => return ⟨200, .entries found⟩
    | .error _ => return broken
  | .log id => do
    match (← journal).find? id with
    | some entry => return ⟨200, .entry entry⟩
    | none => return refusal 404 "Log entry not found"

/-- The answer to a request. -/
def answer {Fault : Type} (plan : Plan) (request : Request) : Act World Fault Answer :=
  match Place.ofPath? request.path with
  | none => return refusal 404 "Not Found"
  | some place =>
    if request.method == place.method then answerAt plan request place
    else return refusal 405 "Method Not Allowed"

/-- Whether the web interface keeps a feed while it is up. -/
def hasFeed (plan : Plan) : Bool :=
  plan.config.isOn .feedIsOn

/-- The notice that the web interface is up: where the journal is, and whether a feed is kept. -/
def startNotice (plan : Plan) : Notice :=
  let place := if plan.config.isOn .journal then plan.config.value .journal
    else .string "N/A (Memory Storage)"
  notice .info "startup" "服务已启动" [("llm_logs_db", place), ("feed", .bool (hasFeed plan))]

/-- Bring the web interface up, answer a request, and take it down again. A feed that is kept does
not get to its first question in the meantime. -/
def answerOnce {Fault : Type} (plan : Plan) (request : Request) : Act World Fault Answer := do
  Act.note (startNotice plan)
  let answer ← answer plan request
  if hasFeed plan then Feed.stop {} none
  Act.change close
  Act.note (notice .info "shutdown" "服务已停止" [])
  return answer

end MoveAudit.Web
