/-
This file reads requests to the web interface: which place a path names, what a query asks for, and
what a body says. What a query or a body has wrong is told in full, with the place of each fault.
-/

import MoveAudit.Journal.Book
import MoveAudit.Text.Search

namespace MoveAudit.Web

open Json Record

/-- What comes with a request. -/
inductive Body where
  | nothing
  | document (value : Value)
  /-- Something that is not said to be a document. -/
  | text (content : String)

/-- A request. -/
structure Request where
  method : String
  path : String
  query : Members := []
  body : Body := .nothing

/-- The request that a document describes. -/
def Request.ofJson (document : Value) : Request where
  method := (document.part "method").text?.getD ""
  path := (document.part "path").text?.getD ""
  query := (document.part "params").members
  body := match document.member? "json", (document.part "content").text? with
    | some value, _ => .document value
    | none, some content => .text content
    | none, none => .nothing

/-! ### Places -/

/-- What a path names. -/
inductive Place where
  | analyse
  | health
  | logs
  | log (id : String)

/-- The method by which a place is asked. -/
def Place.method : Place → String
  | analyse => "POST"
  | _ => "GET"

/-- The place that a path names. -/
def Place.ofPath? (path : String) : Option Place :=
  match Text.split "/" path with
  | ["", "analyze"] => some .analyse
  | ["", "api", "health"] => some .health
  | ["", "api", "logs"] => some .logs
  | ["", "api", "logs", id] => if id.isEmpty then none else some (.log id)
  | _ => none

/-! ### Queries -/

/-- A value as it stands in a query. -/
def queryText : Value → String
  | .null => ""
  | .bool truth => if truth then "true" else "false"
  | other => other.shown

/-- A query with its values as texts; of several values for one name the last one counts. -/
def queryMembers (query : Members) : Members :=
  query.filterMap fun (name, value) => match value with
    | .array items => items.getLast?.map fun item => (name, .string (queryText item))
    | other => some (name, .string (queryText other))

/-- The fields of a query on the journal. -/
def journalFields : Fields Journal.Query :=
  (fun session stage success limit offset =>
    { session, stage, success, limit, offset }) <$>
    optional "session_id" "" text <*>
    optional "call_type" "" text <*>
    optional "success" .null (fun value => (truth value).map .bool) <*>
    optional "limit" 100 (wholeBetween 1 1000) <*>
    optional "offset" 0 (wholeFrom 0)

/-- The query on the journal that a request asks. -/
def journalQuery (query : Members) : Checked Journal.Query :=
  (journalFields (queryMembers query)).under (.name "query")

/-! ### Bodies -/

/-- What an analysis is asked for. -/
structure Wanted where
  package : String
  network : Value

/-- The fields of a body that asks for an analysis. -/
def wantedFields : Fields Wanted :=
  Wanted.mk <$> optional "package_id" "" text <*> optional "network" .null .ok

/-- The analysis that a body asks for. -/
def wanted (body : Body) : Checked Wanted :=
  Checked.under (.name "body") <| match body with
    | .nothing | .document .null => .fault .missing .null
    | .document (.object members) => wantedFields members
    | .document other => .fault .attributes other
    | .text content =>
      if content.isEmpty then .fault .missing .null else .fault .attributes (.string content)

end MoveAudit.Web
