/-
This file holds the entries of the journal of model calls: which stage asked, what it asked, and how
the call ended. An entry begins as running; what is learned later (the response or what was wrong,
how long it took and how often it was tried again) is written into it.
-/

import MoveAudit.Record.Check

namespace MoveAudit.Journal

open Json Record

/-- What was wrong with a call: as it was given, or the faults of a reply as a record of a title. -/
inductive Complaint where
  | given (value : Value)
  | misfit (title : String) (faults : List Fault)

/-- A complaint as a value, where `inWords` puts faults into words. -/
def Complaint.shown (inWords : String → List Fault → String) : Complaint → Value
  | given value => value
  | misfit title faults => .string (inWords title faults)

/-- A complaint as a text. -/
def Complaint.text (inWords : String → List Fault → String) (complaint : Complaint) : String :=
  (complaint.shown inWords).shown

/-- An entry. -/
structure Entry where
  id : String
  time : String
  session : String
  stage : String
  model : String
  prompt : String
  metadata : Value
  response : Value := .null
  error : Complaint := .given .null
  latency : Value := .float (.ofInt 0)
  retries : Value := .int 0
  status : Value := .string "running"
  success : Value := .bool false

/-- Something learned about a call. -/
inductive Change where
  | response (value : Value)
  | error (complaint : Complaint)
  | latency (value : Value)
  | retries (value : Value)
  | status (value : Value)
  | success (value : Value)

namespace Change

/-- The change that a member of a document stands for, if its name is that of a part of an entry
that may change. -/
def ofMember? : String × Value → Option Change
  | ("response", value) => some (.response value)
  | ("error", value) => some (.error (.given value))
  | ("latency_ms", value) => some (.latency value)
  | ("retry_count", value) => some (.retries value)
  | ("status", value) => some (.status value)
  | ("success", value) => some (.success value)
  | _ => none

end Change

namespace Entry

/-- The entry after a change. -/
def after (entry : Entry) : Change → Entry
  | .response value => { entry with response := value }
  | .error complaint => { entry with error := complaint }
  | .latency value => { entry with latency := value }
  | .retries value => { entry with retries := value }
  | .status value => { entry with status := value }
  | .success value => { entry with success := value }

/-- The text of a member, or nothing when it is absent or no text. -/
def textOf (members : Members) (name : String) : String :=
  ((Entries.get? members name).bind Value.text?).getD ""

/-- The entry that a document describes in full. -/
def ofMembers (members : Members) : Entry :=
  let text := textOf members
  let begun : Entry := ⟨text "id", text "timestamp", text "session_id", text "call_type",
    text "model", text "prompt", .ofOption (Entries.get? members "metadata"), .null,
    .given .null, .null, .null, .null, .null⟩
  (members.filterMap Change.ofMember?).foldl after begun

/-- The members of an entry as a document, without its prompt and its times. -/
def members (inWords : String → List Fault → String) (entry : Entry) : Members :=
  [("id", .string entry.id), ("session_id", .string entry.session),
    ("call_type", .string entry.stage), ("model", .string entry.model),
    ("response", entry.response), ("error", entry.error.shown inWords),
    ("retry_count", entry.retries), ("status", entry.status), ("success", entry.success),
    ("metadata", entry.metadata)]

end Entry

end MoveAudit.Journal
