/-
This file puts questions to a node. A question that the node refuses, or that does not get through,
is put again a limited number of times, with a rest before each further attempt that grows with the
number of attempts. All attempts at one question carry the same number. An answer that is no object
ends the call at once, since no further attempt could make sense of it.
-/

import MoveAudit.Act
import MoveAudit.Chain.Ledger
import MoveAudit.Json.Shape
import MoveAudit.Json.Shown
import MoveAudit.Number.Double

namespace MoveAudit.Chain

open Json

/-! ### The line to a node -/

/-- A node: one with deliveries laid down in advance, or one that knows a ledger. -/
inductive Node where
  | script (left : List Delivery)
  | ledger (ledger : Ledger)

/-- How many more questions on transactions a node can answer. -/
def Node.left : Node → Nat
  | script left => left.length
  | ledger known => known.pages.length

/-- What a node delivers on a question. -/
def Node.answer (method : String) (params : Value) : Node → Delivery × Node
  | script [] => (.exhausted, script [])
  | script (delivery :: left) => (delivery, script left)
  | ledger known =>
    let (delivery, known) := known.answer method (match params with
      | .array items => items
      | _ => [])
    (delivery, ledger known)

/-- A line to a node: the node, the number of the last question, whether the line is open, what
went over it, and the rests that were taken. -/
structure Line where
  node : Node
  lastNumber : Nat := 0
  isOpen : Bool := false
  sent : List (String × Value) := []
  rests : List Double := []

namespace Line

/-- A number for a question that has not been put yet. Asking for one opens the line. -/
def issue (line : Line) : Nat × Line :=
  (line.lastNumber + 1, { line with lastNumber := line.lastNumber + 1, isOpen := true })

/-- A question as it goes over the line. -/
def payload (method : String) (params : Value) (number : Nat) : Value :=
  .object [("jsonrpc", .string "2.0"), ("method", .string method), ("params", params),
    ("id", .int number)]

/-- Put a question once. -/
def post (method : String) (params : Value) (number : Nat) (line : Line) : Delivery × Line :=
  let (delivery, node) := line.node.answer method params
  (delivery, { line with node, sent := line.sent ++ [(method, payload method params number)] })

/-- Take a rest. -/
def rest (length : Double) (line : Line) : Line :=
  { line with rests := line.rests ++ [length] }

/-- Close the line. -/
def close (line : Line) : Line :=
  { line with isOpen := false }

/-- Open the line. -/
def opened (line : Line) : Line :=
  { line with isOpen := true }

end Line

/-! ### Failures -/

/-- Why an attempt gave no result. -/
inductive Refusal where
  | status (code : Int)
  | error (value : Value)
  | failed (words : String)
  | undecodable (words : String)
  | late

/-- The refusal in words. -/
def Refusal.words : Refusal → String
  | status code => "HTTP " ++ Numeral.intText code
  | error value => "RPC Error: " ++ value.shown
  | failed words => words
  | undecodable words => words
  | late => ""

/-- Why a question has no answer. -/
inductive Failure where
  /-- No attempt gave a result; the refusal of the last one. -/
  | refused (method : String) (refusal : Refusal)
  /-- The package is not known, or there is nothing to read in it. -/
  | notFound
  /-- An answer has the wrong shape. -/
  | shape (fault : ShapeFault)
  /-- An item of a list that should hold pairs has another length. -/
  | notPair (index length : Nat)
  /-- Nothing comes back any more. -/
  | exhausted

/-- The failure in words. -/
def Failure.message : Failure → String
  | refused method refusal => method ++ " failed: " ++ refusal.words
  | notFound => "Could not retrieve package content or disassembled bytecode."
  | shape fault => fault.message
  | notPair index length => "dictionary update sequence element #" ++ toString index ++
      " has length " ++ toString length ++ "; 2 is required"
  | exhausted => "no scripted response"

/-- The word for the kind of a failure. -/
def Failure.kind : Failure → String
  | refused .. => "ChainQueryError"
  | notFound => "PackageNotFoundError"
  | shape fault => fault.kind
  | notPair .. => "ValueError"
  | exhausted => "Exhausted"

instance : ToString Failure :=
  ⟨Failure.message⟩

/-- What notices say of a refused attempt; one without words is known by its kind. -/
def Refusal.told (method : String) : Refusal → String
  | failed words => if words.isEmpty then "ClientError" else words
  | undecodable words => if words.isEmpty then "ValueError" else words
  | late => "TimeoutError"
  | refusal => toString (Failure.refused method refusal)

/-! ### Calls -/

/-- How questions are put. -/
structure Policy where
  /-- The name of the network, as notices give it. -/
  network : String := "mainnet"
  attempts : Int := 3
  /-- The seconds of the first rest. -/
  delay : Double := .ofInt 1

/-- How many attempts a question gets after the first one. -/
def Policy.further (policy : Policy) (isRepeated : Bool) : Nat :=
  if isRepeated then (policy.attempts - 1).toNat else 0

/-- The component that notices on a network come from. -/
def Policy.component (policy : Policy) : String :=
  "SuiRPC:" ++ policy.network

/-- A notice on a question. -/
def Policy.notice (policy : Policy) (level : Console.Level) (event message : String)
    (fields : Members) (kind : String := "") : Notice :=
  { level, component := policy.component, event, message, kind, fields }

/-- The notice that a question is put again after an attempt. -/
def Policy.retryNotice (policy : Policy) (method : String) (attempt : Nat) (refusal : Refusal) :
    Notice :=
  policy.notice .warning "chain.rpc" "RPC 调用失败，准备重试" [("method", .string method),
    ("attempt", .int (attempt + 1)), ("error", .string (refusal.told method))] "retry"

/-- What the body of a response holds. -/
def resultOf (body : Value) : Except ShapeFault (Except Refusal Value) := do
  let error ← body.member "error"
  if error.isFull then return .error (.error error)
  return .ok (← body.member "result")

/-- What a delivery comes to: a result, a refusal, or the end of the call. -/
def outcomeOf : Delivery → Except Failure (Except Refusal Value)
  | .exhausted => .error .exhausted
  | .late => .ok (.error .late)
  | .failed words => .ok (.error (.failed words))
  | .response status body =>
    if status ≠ 200 then .ok (.error (.status status))
    else match body with
      | .undecodable words => .ok (.error (.undecodable words))
      | .value value => (resultOf value).mapError .shape

/-- Attempts from one on, with a number of attempts left after it. -/
def attemptsFrom (policy : Policy) (method : String) (params : Value) (number : Nat) :
    (left attempt : Nat) → Act Line Failure Value
  | left, attempt => do
    match ← Act.ofExcept (outcomeOf (← Act.take (Line.post method params number))) with
    | .ok value => return value
    | .error refusal =>
      match left with
      | 0 =>
        Act.note (policy.notice .error "chain.rpc" "RPC 调用失败"
          [("method", .string method), ("error", .string (refusal.told method))] "error")
        throw (.refused method refusal)
      | left + 1 =>
        Act.note (policy.retryNotice method attempt refusal)
        Act.change (Line.rest (policy.delay.mul (.ofInt (attempt + 1))))
        attemptsFrom policy method params number left (attempt + 1)

/-- Put a question. -/
def call (policy : Policy) (method : String) (params : Value) (isRepeated : Bool := true) :
    Act Line Failure Value := do
  let number ← Act.take Line.issue
  attemptsFrom policy method (if params.isFull then params else .array []) number
    (policy.further isRepeated) 0

/-- Put several questions; a failed one does not keep the others from being put. -/
def callAll (policy : Policy) (isRepeated : Bool) (questions : List (String × Value)) :
    Act Line Failure (List (Except Failure Value)) :=
  questions.mapM fun (method, params) => (call policy method params isRepeated).settle

/-! ### Questions -/

/-- Ask for an object with its content, its owner and its type. -/
def objectOf (policy : Policy) (id : Value) : Act Line Failure Value :=
  call policy "sui_getObject" (.array [id, .object [("showContent", .bool true),
    ("showOwner", .bool true), ("showType", .bool true)]])

/-- Ask for the modules of a package. -/
def modulesOf (policy : Policy) (package : Value) : Act Line Failure Value :=
  call policy "sui_getNormalizedMoveModulesByPackage" (.array [package])

/-- Ask for the definition of a struct. -/
def structOf (policy : Policy) (package module name : Value) (isRepeated : Bool := false) :
    Act Line Failure Value :=
  call policy "sui_getNormalizedMoveStruct" (.array [package, module, name]) isRepeated

end MoveAudit.Chain
