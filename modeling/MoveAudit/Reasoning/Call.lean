/-
This file makes one call of a model and takes a record out of what it answers. An answer that cannot
be used is sent back with the reason, a limited number of times; a model that fails or takes too
long ends the call at once. What the model answers is part of the desk that the call is made at,
together with the journal that the call is recorded in.
-/

import MoveAudit.Act
import MoveAudit.Journal.Book
import MoveAudit.Reasoning.Reply

namespace MoveAudit.Reasoning

open Json Record Journal

/-! ### The desk -/

/-- What a model does when it is asked. -/
inductive Answer where
  | content (value : Value)
  | failed (words : String)
  | late

/-- One part of a conversation. -/
inductive Message where
  | system (text : String)
  | prompt (text : String)
  | reply (text : String)
  | correction (complaint : Complaint)

/-- The longest part of a complaint that is sent back. -/
def complaintLimit : Nat := 500

/-- What the model is told about an answer that cannot be used. -/
def correctionText (inWords : String → List Record.Fault → String) (complaint : Complaint) :
    String :=
  "Your previous reply could not be used: " ++
    ((complaint.text inWords).take complaintLimit).toString ++ "\n" ++
    "Reply again with ONLY the JSON object described in the schema. " ++
    "Do not add markdown fences, comments or any other text."

/-- The desk at which calls are made: the answers still to come, the conversations so far, the
journal, and how many identifiers and entries it has given out. -/
structure Desk where
  answers : List Answer
  asked : List (List Message) := []
  journal : Journal := {}
  issued : Nat := 0
  entered : Nat := 0

namespace Desk

/-- A new identifier. -/
def issue (desk : Desk) : String × Desk :=
  ("id-" ++ toString (desk.issued + 1), { desk with issued := desk.issued + 1 })

/-- What the model answers to a conversation. A model without answers left fails. -/
def ask (messages : List Message) (desk : Desk) : Answer × Desk :=
  let asked := desk.asked ++ [messages]
  match desk.answers with
  | [] => (.failed "no scripted reply", { desk with asked })
  | answer :: rest => (answer, { desk with answers := rest, asked })

/-- A text for a time; later times have greater texts. -/
def timeText (count : Nat) : String :=
  let digits := toString count
  "2024-01-02T03:04:" ++ String.ofList (List.replicate (12 - digits.length) '0') ++ digits

/-- Begin an entry of the journal. An entry without a session gets one of its own. What a call
writes is nothing that a table refuses. -/
def enter (stage model prompt : String) (session : String) (metadata : Value) (desk : Desk) :
    Option Entry × Desk :=
  if !desk.journal.isKept then (none, desk)
  else
    let (id, desk) := desk.issue
    let (session, desk) := if session.isEmpty then desk.issue else (session, desk)
    let entry : Entry := { id, time := timeText desk.entered, session, stage, model, prompt,
                           metadata := if metadata.isFull then metadata else .object [] }
    (some entry, { desk with journal := desk.journal.save entry, entered := desk.entered + 1 })

/-- Write the end of a call into its entry. -/
def finish (entry : Option Entry) (changes : List Change) (desk : Desk) : Desk :=
  match entry with
  | none => desk
  | some entry => { desk with journal := (desk.journal.update entry.id changes).2 }

end Desk

/-! ### Calls -/

/-- The record that an answer has to hold. -/
structure Schema (Result : Type) where
  title : String
  check : Check Result
  toJson : Result → Value

/-- How calls are made. -/
structure Settings where
  /-- The seconds that an answer may take, as they read in a message. -/
  timeout : Value := .float (.ofInt 120)
  /-- How often an answer that cannot be used is sent back. -/
  retries : Int := 1
  model : String := "scripted"
  isJournaled : Bool := true
  /-- How many brackets of an answer may be open at once. -/
  room : Nat := usualRoom

/-- What a call asks. -/
structure Request where
  stage : String
  prompt : String
  system : String := ""
  session : String := ""
  metadata : Members := []

/-- Why a call gives no record. -/
inductive CallFailure where
  /-- The model took too long. -/
  | late (stage : String) (timeout : Value)
  /-- The model failed. -/
  | failed (stage words : String)
  /-- No answer could be used; the last one and what was wrong with it. -/
  | misfit (stage title : String) (complaint : Complaint) (raw : String)
  /-- A step could not be taken on what the model answered. -/
  | halt (reason : Halt)

/-- The failure in words. -/
def CallFailure.message (inWords : String → List Record.Fault → String) : CallFailure → String
  | late stage timeout =>
    "Text generation timed out after " ++ timeout.shown ++ "s during " ++ stage
  | failed stage words => "Text generation failed during " ++ stage ++ ": " ++ words
  | misfit stage title complaint _ =>
    stage ++ " stage returned a reply that is not valid JSON for " ++ title ++ ": " ++
      complaint.text inWords
  | halt .wrongKind => "sequence item 0: expected str instance"
  | halt .overflow => "int too large to convert to float"
  | halt .unspellable => Numeral.unspellable
  | halt (.tooDeep bracket) => ReadError.message "" (.tooDeep bracket)

/-- The word for the kind of a failure. -/
def CallFailure.kind : CallFailure → String
  | late .. => "StageTimeoutError"
  | failed .. => "UpstreamServiceError"
  | misfit .. => "SchemaViolationError"
  | halt reason => reason.kind

/-- What an answer's text comes to. -/
inductive Reading (Result : Type) where
  | fits (result : Result)
  | unfit (complaint : Complaint)
  | halt (reason : Halt)

/-- Read a record out of an answer's text, where there is room for a number of open brackets. -/
def reading {Result : Type} (schema : Schema Result) (room : Nat) (text : String) :
    Reading Result :=
  match Reply.object room text with
  | .error (.tooDeep bracket) => .halt (.tooDeep bracket)
  | .error fault => .unfit (.given (.string fault.message))
  | .ok members =>
    match schema.check (.object members) with
    | .ok result => .fits result
    | .faults faults => .unfit (.misfit schema.title faults)
    | .halt reason => .halt reason

/-- Ask the model, and take the text of its answer. -/
def ask (settings : Settings) (stage : String) (messages : List Message) :
    Act Desk CallFailure String := do
  match ← Act.take (Desk.ask messages) with
  | .late => throw (.late stage settings.timeout)
  | .failed words => throw (.failed stage words)
  | .content value =>
    if Reply.isTooLong value then throw (.halt .unspellable)
    match Reply.text value with
    | .ok text => return text
    | .error _ => throw (.halt .wrongKind)

/-- Whether a failure is written into the journal. -/
def CallFailure.isRecorded : CallFailure → Bool
  | halt _ => false
  | _ => true

/-- The end of a call that gave a record at some attempt. -/
def endOfSuccess (response : Value) (attempt : Nat) : List Change :=
  ending response (.given .null) (.float (.ofInt 0)) (.int attempt) (.bool true)

/-- The end of a call that failed at some attempt. -/
def endOfFailure (error : Complaint) (attempt : Nat) : List Change :=
  ending .null error (.float (.ofInt 0)) (.int attempt) (.bool false)

/-- A notice on a stage of reasoning. -/
def notice (level : Console.Level) (event message stage : String) (fields : Members := []) :
    Notice :=
  { level, component := "JSONLLMClient", event := "llm." ++ event, message
    fields := ("stage", .string stage) :: fields }

/-- The longest part of a complaint that is noticed. -/
def noticedLimit : Nat := 300

/-- The notice of an answer that cannot be used, with a number of attempts left after it. -/
def malformedNotice (stage : String) (left attempt : Nat) (complaint : Complaint) : Notice :=
  notice .warning "malformed_json" "阶段返回内容无法解析" stage
    [("attempt", .string (toString (attempt + 1) ++ "/" ++ toString (attempt + left + 1))),
      ("error", .string ((complaint.text briefly).take noticedLimit).toString)]

/-- Attempts from one on, with a number of attempts left after it. -/
def attemptsFrom {Result : Type} (settings : Settings) (schema : Schema Result) (stage : String)
    (entry : Option Entry) :
    (left attempt : Nat) → List Message → Act Desk CallFailure Result
  | left, attempt, messages => do
    match ← (ask settings stage messages).settle with
    | .error reason =>
      if reason.isRecorded then
        let words := Value.string (reason.message fun title _ => title)
        Act.change (Desk.finish entry (endOfFailure (.given words) attempt))
      throw reason
    | .ok raw =>
      match reading schema settings.room raw with
      | .halt reason => throw (.halt reason)
      | .fits result =>
        Act.change (Desk.finish entry (endOfSuccess (schema.toJson result) attempt))
        Act.note (notice .debug "call_done" "阶段调用完成" stage)
        return result
      | .unfit complaint =>
        Act.note (malformedNotice stage left attempt complaint)
        match left with
        | 0 =>
          Act.change (Desk.finish entry (endOfFailure complaint attempt))
          throw (.misfit stage schema.title complaint raw)
        | left + 1 =>
          attemptsFrom settings schema stage entry left (attempt + 1)
            (messages ++ [.reply raw, .correction complaint])

/-- The messages that a call begins with. -/
def Request.messages (request : Request) : List Message :=
  (if request.system.isEmpty then [] else [.system request.system]) ++ [.prompt request.prompt]

/-- Make a call. -/
def call {Result : Type} (settings : Settings) (schema : Schema Result) (request : Request) :
    Act Desk CallFailure Result := do
  let metadata := Entries.put request.metadata "schema" (.string schema.title)
  let entry ← if settings.isJournaled
    then Act.take (Desk.enter request.stage settings.model request.prompt request.session
      (.object metadata))
    else pure none
  attemptsFrom settings schema request.stage entry settings.retries.toNat 0 request.messages

end MoveAudit.Reasoning
