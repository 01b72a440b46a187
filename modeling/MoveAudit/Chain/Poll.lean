/-
This file follows the transactions of a network and gathers the packages they publish. A poll
remembers the last transaction it has seen, its cursor; one that begins without a cursor first asks
for the latest transaction, so that it reports only what comes later. After a page that has no
successor, and after a question that failed, it rests before it asks again. What the node answers is
given to the poll one page at a time, so a poll is a plain machine: what it asks next, and what it
makes of the answer.
-/

import MoveAudit.Chain.Snapshot

namespace MoveAudit.Chain

open Json

/-! ### Questions on transactions -/

/-- What is asked of transactions. -/
structure Question where
  kind : Value := .string publishingKind
  cursor : Value := .null
  limit : Value := .int 50
  isDescending : Value := .bool false

/-- What is to be told of each transaction. -/
def transactionOptions : Value :=
  .object [("showObjectChanges", .bool true), ("showEffects", .bool true),
    ("showInput", .bool true)]

/-- Ask for transactions. -/
def transactions (policy : Policy) (question : Question) : Act Line Failure Value := do
  let filter ← Act.ofExcept ((transactionFilter question.kind).mapError .shape)
  call policy "suix_queryTransactionBlocks" (.array [
    .object [("filter", filter), ("options", transactionOptions)], question.cursor,
    question.limit, question.isDescending])

/-- The question for the latest transaction of a kind. -/
def latestQuestion (kind : Value) : Question :=
  { kind, limit := .int 1, isDescending := .bool true }

/-- The blocks of a page. -/
def blocksOf (page : Value) : Except ShapeFault (List Value) := do
  (← (orEmpty page).member "data").partsOrNone

/-- The first item of something that counts its items. -/
def firstOf (data : Value) : Except ShapeFault Value :=
  match data with
  | .array (first :: _) => .ok first
  | .string text => .ok (.string (text.take 1).toString)
  | .object _ => .error .noMember
  | _ => .error .wrongKind

/-- The cursor at the latest transaction, out of the answer on it; nothing when there is none. -/
def latestIn (page : Value) : Except ShapeFault Value := do
  let data ← (orEmpty page).member "data"
  if data.isFull then (← firstOf data).member "digest" else return .null

/-- The cursor at the latest transaction of a kind. -/
def latestCursor (policy : Policy) (kind : Value) : Act Line Failure Value := do
  let page ← transactions policy (latestQuestion kind)
  Act.ofExcept ((latestIn page).mapError .shape)

/-! ### The machine -/

/-- A poll: what it follows, where it stands, and whether it has found its place. -/
structure Poll where
  kind : Value := .string publishingKind
  /-- The seconds of a rest. -/
  interval : Double := .ofInt 15
  limit : Value := .int 50
  cursor : Value := .null
  isPlaced : Bool := false

namespace Poll

/-- A poll that begins after a cursor, or after the latest transaction when none is given. -/
def after (cursor : Value) (poll : Poll) : Poll :=
  { poll with cursor, isPlaced := !cursor.isNull }

/-- What the poll asks next. -/
def question (poll : Poll) : Question :=
  if poll.isPlaced then { kind := poll.kind, cursor := poll.cursor, limit := poll.limit }
  else latestQuestion poll.kind

/-- The cursor after a transaction; one without a digest leaves it where it is. -/
def cursorAfter (cursor transaction : Value) : Except ShapeFault Value := do
  let digest ← transaction.member "digest"
  return if digest.isFull then digest else cursor

/-- What a poll makes of an answer: the poll after it, the packages it found, and whether it rests
before it asks again. -/
structure Turn where
  poll : Poll
  found : List Publication := []
  rests : Bool := false
  /-- How many transactions the answer holds. -/
  transactions : Nat := 0

/-- The publications of transactions and the cursor after them, up to the first transaction that
cannot be read. -/
def readBlocks (cursor : Value) :
    List Value → List Publication × Value × Option ShapeFault
  | [] => ([], cursor, none)
  | transaction :: rest =>
    match publications transaction with
    | .error fault => ([], cursor, some fault)
    | .ok found =>
      match cursorAfter cursor transaction with
      | .error fault => (found, cursor, some fault)
      | .ok cursor =>
        let (more, cursor, fault?) := readBlocks cursor rest
        (found ++ more, cursor, fault?)

/-- The turn on a page of transactions, and the fault it ends in if the page cannot be read to its
end. -/
def onPage (poll : Poll) (page : Value) : Turn × Option ShapeFault :=
  match blocksOf page with
  | .error fault => ({ poll }, some fault)
  | .ok blocks =>
    let (found, cursor, fault?) := readBlocks poll.cursor blocks
    let isLast := match (orEmpty page).member "hasNextPage" with
      | .ok more => !more.isFull
      | .error _ => true
    (⟨{ poll with cursor }, found, isLast, blocks.length⟩, fault?)

/-- The turn on the answer to the poll's question. -/
def onAnswer (poll : Poll) (answer : Value) : Turn × Option ShapeFault :=
  if poll.isPlaced then poll.onPage answer
  else match latestIn answer with
    | .ok cursor => ({ poll := { poll with cursor, isPlaced := true } }, none)
    | .error fault => ({ poll }, some fault)

/-- The turn on a question that failed. -/
def onFailure (poll : Poll) : Turn :=
  { poll, rests := true }

/-! ### Running -/

/-- A notice on a turn. -/
def notice (policy : Policy) (level : Console.Level) (kind message : String) (fields : Members) :
    Notice :=
  policy.notice level "feed.poll" message fields kind

/-- The notice of the packages that were found. -/
def Turn.foundNotice (policy : Policy) (turn : Turn) : Notice :=
  notice policy .debug "event" "发现新发布的 package"
    [("count", .int turn.found.length), ("transactions", .int turn.transactions)]

/-- One turn at the node: ask, and make something of the answer. A question that the node refuses
is noticed; any other failure ends the poll. -/
def turn (policy : Policy) (poll : Poll) : Act Line Failure (Turn × Option ShapeFault) := do
  match ← (transactions policy poll.question).settle with
  | .ok answer =>
    let (turn, fault?) := poll.onAnswer answer
    if !poll.isPlaced && fault?.isNone then
      Act.note (notice policy .info "cursor" "交易轮询起点已确定" [("cursor", turn.poll.cursor)])
    return (turn, fault?)
  | .error (.refused method refusal) =>
    Act.note (notice policy .warning "error" "交易查询失败"
      [("error", .string (toString (Failure.refused method refusal)))])
    return (poll.onFailure, none)
  | .error failure => throw failure

/-- How a poll came to its end. -/
inductive End where
  /-- It found as many packages as were wanted. -/
  | limit
  | failed (failure : Failure)

/-- Poll until enough packages are found or the poll fails, for a number of turns at most. -/
def gatherFrom (policy : Policy) (wanted : Nat) :
    (turns : Nat) → Poll → List Publication → Act Line Failure (List Publication × End)
  | 0, _, found => return (found, .failed .exhausted)
  | turns + 1, poll, found => do
    match ← (poll.turn policy).settle with
    | .error failure => return (found, .failed failure)
    | .ok (turn, fault?) =>
      let all := found ++ turn.found
      if !turn.found.isEmpty && wanted ≤ all.length then return (all.take (max wanted 1), .limit)
      else match fault? with
        | some fault => return (all, .failed (.shape fault))
        | none =>
          if !turn.found.isEmpty then Act.note (turn.foundNotice policy)
          if turn.rests then Act.change (Line.rest poll.interval)
          gatherFrom policy wanted turns turn.poll all

/-- Poll until enough packages are found or the poll fails. Every turn uses up something that the
node has left, so no more turns can come about than there is left. -/
def gather (policy : Policy) (wanted : Nat) (poll : Poll) :
    Act Line Failure (List Publication × End) := do
  gatherFrom policy wanted ((← Act.look).node.left + 1) poll []

end Poll

end MoveAudit.Chain
