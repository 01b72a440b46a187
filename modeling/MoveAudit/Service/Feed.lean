/-
This file follows the packages that are newly published on a network and has each of them analysed
that there is no card of yet. A feed counts what it made of the records it was given: analysed,
passed over, or failed. A package that cannot be analysed is counted and noticed, and the feed goes
on; only the end of what the node gives ends it, or a cancellation.
-/

import MoveAudit.Cache.Pool
import MoveAudit.Chain.Poll
import MoveAudit.Service.Audit

namespace MoveAudit.Service

open Json Chain

/-- A feed: what it follows, and what it made of the records so far. -/
structure Feed where
  network : Network := .mainnet
  kind : Value := .string publishingKind
  /-- The seconds between two questions when there is nothing new. -/
  interval : Double := .ofInt 15
  processed : Nat := 0
  skipped : Nat := 0
  failed : Nat := 0

namespace Feed

/-- The component that the notices of a feed come from. -/
def component : String :=
  "LiveIngestionFeed"

/-- A notice of a feed. -/
def notice (level : Console.Level) (event message : String) (fields : Members) : Notice :=
  { level, component, event := "feed." ++ event, message, fields }

/-- A notice of a feed on a package. -/
def noticeOn (feed : Feed) (package : Value) (level : Console.Level) (event message : String)
    (fields : Members) : Notice :=
  (notice level event message fields).under
    [("package_id", package), ("network", .string feed.network.word)]

/-- What a feed counts, as members of a document. -/
def counts (feed : Feed) : Members :=
  [("processed", .int feed.processed), ("skipped", .int feed.skipped),
    ("failed", .int feed.failed)]

/-- The members of a feed as a document. -/
def members (feed : Feed) : Members :=
  ("network", .string feed.network.word) :: feed.counts

/-- One more package was analysed. -/
def analysed (feed : Feed) : Feed :=
  { feed with processed := feed.processed + 1 }

/-- One more record was passed over. -/
def passedOver (feed : Feed) : Feed :=
  { feed with skipped := feed.skipped + 1 }

/-- One more package could not be analysed. -/
def missed (feed : Feed) : Feed :=
  { feed with failed := feed.failed + 1 }

/-- The feed after an analysis that it shares with others. None is left by a cancellation, whoever
was cancelled: a feed takes every cancellation for its own end. -/
def after? {Reason : Type} (feed : Feed) : Cache.Outcome Reason → Option Feed
  | .card .. => some feed.analysed
  | .failed _ | .late | .unreadable _ => some feed.missed
  | .cancelled => none

/-- What a feed has to do with a package: nothing when there is a card of it, else a card. -/
def cardOf (plan : Plan) (feed : Feed) (package : Value) : Course (Option Card) := do
  if ← isKept package (.string feed.network.word) then
    Act.note (feed.noticeOn package .info "skip_cached" "已有缓存结果，跳过" [])
    return none
  else return some (← analyse plan package (.string feed.network.word)).1

/-- Take one record: the card that it leads to, and the feed after it. -/
def process (plan : Plan) (record : Value) (feed : Feed) : Course (Option Card × Feed) := do
  match ← Act.ofExcept ((packageOf record).mapError .shape) with
  | none =>
    Act.note (notice .warning "event_invalid" "发布记录中没有 package ID"
      [("digest", record.part "digest")])
    return (none, feed.passedOver)
  | some package =>
    Act.note (feed.noticeOn package .info "package_published" "发现新发布的 package"
      [("sender", record.part "sender"), ("digest", record.part "digest")])
    match ← (feed.cardOf plan package).settle with
    | .ok none => return (none, feed.passedOver)
    | .ok (some card) =>
      Act.note (feed.noticeOn package .success "analysis_done" "自动分析完成并写入缓存" card.verdict)
      return (some card, feed.analysed)
    | .error failure =>
      Act.note (feed.noticeOn package .error "analysis_failed" "自动分析失败"
        [("error", .string (toString failure)), ("error_type", .string failure.kind)])
      return (none, feed.missed)

/-- Take records one after another. -/
def processAll (plan : Plan) (feed : Feed) (records : List Publication) : Course Feed :=
  records.foldlM (fun feed record => do return (← feed.process plan record.toJson).2) feed

/-- The poll of a feed. -/
def poll (feed : Feed) : Poll :=
  { kind := feed.kind, interval := feed.interval }

/-- A course of action on the line to a network. -/
def onLine {Outcome : Type} (network : Network) (action : Act Line Chain.Failure Outcome) :
    Course Outcome :=
  (Analysis.Office.onChain (Lines.on network action)).relabel .chain

/-- Follow a poll until nothing comes back any more, for a number of turns at most, and take in what
is found at every turn. What ends it is told as well. -/
def pollFrom {State : Type} (plan : Plan) (network : Network)
    (take : State → List Publication → Course State) :
    (turns : Nat) → Poll → State → Course (State × Failure)
  | 0, _, state => return (state, .chain .exhausted)
  | turns + 1, poll, state => do
    let policy := plan.policy network
    match ← (onLine network (poll.turn policy)).settle with
    | .error failure => return (state, failure)
    | .ok (turn, fault?) =>
      let state ← take state turn.found
      match fault? with
      | some fault => return (state, .chain (.shape fault))
      | none =>
        if !turn.found.isEmpty then Act.note (turn.foundNotice policy)
        if turn.rests then onLine network (Act.change (Line.rest poll.interval))
        pollFrom plan network take turns turn.poll state

/-- Follow the network until nothing comes back any more, and take in what is found. Every turn uses
up something that the node has left, so no more turns can come about than there is left. -/
def followBy {State : Type} (plan : Plan) (feed : Feed)
    (take : State → List Publication → Course State) (state : State) :
    Course (State × Failure) := do
  Act.note (notice .info "start" "开始订阅新发布的 package" [("network", .string feed.network.word),
    ("tx_kind", feed.kind.full?.getD (.string "all")), ("poll_interval", .float feed.interval)])
  let node := ((← Act.look).chain.of feed.network).node
  pollFrom plan feed.network take (node.left + 1) feed.poll state

/-- Stop a feed; that it had come to its end by itself is noticed, with the reason. -/
def stop {World Fault : Type} (feed : Feed) (ended? : Option Failure) : Act World Fault Unit := do
  if let some failure := ended? then
    Act.note (notice .warning "stop" "订阅任务此前已异常退出" [("error", .string (toString failure))])
  Act.note (notice .info "stop" "订阅已停止" feed.counts)

/-- A feed comes to its end by itself, and is stopped. -/
def crash {World Fault : Type} (feed : Feed) (failure : Failure) : Act World Fault Unit := do
  Act.note (.ofFailure component "feed.crashed" failure.kind (toString failure)
    [("processed", .int feed.processed), ("failed", .int feed.failed)])
  feed.stop (some failure)

/-- Follow the network to the end, and stop. -/
def run (plan : Plan) (feed : Feed) : Course Feed := do
  let (feed, failure) ← feed.followBy plan (processAll plan) feed
  feed.crash failure
  return feed

end Feed

end MoveAudit.Service
