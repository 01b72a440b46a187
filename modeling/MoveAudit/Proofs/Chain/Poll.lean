/-
This file follows a poll beside the log that it reads. The log grows at any time, any question may
fail, a page may hold less than was asked for, and the packages found on a page are told one by one
before the next question is put. The cursor alone connects one question with the next, so all rests
on what it stands for: it is the digest of the last transaction that was read, and since digests
differ, what the log has after it is just what was not read yet. What has been told is therefore at
every moment a beginning of what the log has after the place where the poll began.
-/

import Mathlib.Logic.Relation
import MoveAudit.Chain.Poll
import MoveAudit.Proofs.Chain.Call
import MoveAudit.Proofs.Chain.Publication

namespace MoveAudit.Chain

open Json

/-! ### Logs -/

/-- The digest of a transaction in words. -/
def digestOf (block : Value) : String :=
  (block.part "digest").text?.getD ""

/-- A log of transactions, in the order in which they came about. -/
structure Log where
  blocks : List Value
  areBlocks : ∀ block ∈ blocks, IsBlock block
  differ : (blocks.map digestOf).Nodup

/-- The transactions after the one with a digest; all of them after no cursor, and none after a
cursor that is the digest of none. -/
def blocksAfter (cursor : Value) (blocks : List Value) : List Value :=
  if cursor.isNull then blocks
  else (blocks.dropWhile fun block => cursor.text? != some (digestOf block)).tail

/-- The cursor at the last of transactions that were read from a cursor on. -/
def cursorAt (cursor : Value) (read : List Value) : Value :=
  (read.getLast?.map (·.part "digest")).getD cursor

/-- The publications of transactions, in order. -/
def published (blocks : List Value) : List Publication :=
  blocks.flatMap fun block => ((publications block).toOption).getD []

theorem published_append (first second : List Value) :
    published (first ++ second) = published first ++ published second :=
  List.flatMap_append

theorem cursorAt_append (cursor : Value) (first second : List Value) :
    cursorAt cursor (first ++ second) = cursorAt (cursorAt cursor first) second := by
  unfold cursorAt
  rw [List.getLast?_append]
  cases second.getLast? <;> rfl

theorem IsBlock.digest_eq {block : Value} (isBlock : IsBlock block) :
    block.part "digest" = .string (digestOf block) ∧ (block.part "digest").isFull = true := by
  obtain ⟨text, isText, isFull⟩ := isBlock.digest
  unfold digestOf
  rw [isText]
  refine ⟨rfl, ?_⟩
  simpa [Value.isFull] using isFull

theorem blocksAfter_string (digest : String) (blocks : List Value) :
    blocksAfter (.string digest) blocks =
      (blocks.dropWhile fun block => digest != digestOf block).tail := rfl

/-- A log that grows has more after each cursor, and has it at the end. -/
theorem prefix_blocksAfter (cursor : Value) {blocks later : List Value} (grown : blocks <+: later) :
    blocksAfter cursor blocks <+: blocksAfter cursor later := by
  obtain ⟨more, rfl⟩ := grown
  unfold blocksAfter
  split
  · exact List.prefix_append blocks more
  · rw [List.dropWhile_append]
    cases kept : blocks.dropWhile fun block => cursor.text? != some (digestOf block) with
    | nil => exact List.nil_prefix
    | cons first rest => exact List.prefix_append rest more

/-- What is after a cursor is at the end of the log. -/
theorem blocksAfter_suffix (cursor : Value) (blocks : List Value) :
    blocksAfter cursor blocks <:+ blocks := by
  unfold blocksAfter
  split
  · exact List.suffix_rfl
  · exact (List.tail_suffix _).trans (List.dropWhile_suffix _)

/-- What a log has after the last transaction that was read is what it has after those read. -/
theorem Log.blocksAfter_cursorAt (log : Log) {cursor : Value} {read rest : List Value}
    (order : blocksAfter cursor log.blocks = read ++ rest) :
    blocksAfter (cursorAt cursor read) log.blocks = rest := by
  rcases List.eq_nil_or_concat read with rfl | ⟨others, last, rfl⟩
  · exact order
  · obtain ⟨front, whole⟩ := blocksAfter_suffix cursor log.blocks
    have split : log.blocks = (front ++ others) ++ last :: rest := by
      rw [← whole, order]
      simp
    have isBlock : IsBlock last := log.areBlocks last (by simp [split])
    have isLast : cursorAt cursor (others.concat last) = .string (digestOf last) := by
      rw [List.concat_eq_append, cursorAt_append]
      exact isBlock.digest_eq.1
    -- No transaction before the last one that was read has its digest.
    have earlier : ∀ block ∈ front ++ others, digestOf block ≠ digestOf last := by
      have differ := log.differ
      rw [split, List.map_append, List.nodup_append] at differ
      intro block member
      exact differ.2.2 _ (List.mem_map_of_mem member) _ List.mem_cons_self
    rw [isLast, split, blocksAfter_string,
      List.dropWhile_append_of_pos fun block member => bne_iff_ne.mpr (earlier block member).symm,
      List.dropWhile_cons_of_neg (by simp)]
    rfl

/-! ### Pages -/

/-- A page of transactions, which says whether there are more of them. -/
structure IsPage (blocks : List Value) (hasMore : Prop) (page : Value) : Prop where
  data : page.part "data" = .array blocks
  successor : ∃ isMore, page.part "hasNextPage" = .bool isMore ∧ (isMore = true ↔ hasMore)

/-- How a log is asked: onwards from a cursor, where it answers with the next transactions, not more
than the limit and perhaps fewer, or for its last transaction. -/
inductive Log.Answers (log : Log) (question : Question) (page : Value) : Prop
  | onwards (limit : Int) (count : Nat) (isOnwards : question.isDescending = .bool false)
    (isLimit : question.limit = .int limit) (isWithin : count ≤ limit)
    (isPage : IsPage ((blocksAfter question.cursor log.blocks).take count)
      (count < (blocksAfter question.cursor log.blocks).length) page)
  | latest (isBackwards : question.isDescending = .bool true)
    (isStart : question.cursor = .null) (isLimit : question.limit = .int 1)
    (isPage : IsPage log.blocks.getLast?.toList (1 < log.blocks.length) page)

section Pages

variable {blocks : List Value} {hasMore : Prop} {page : Value}

theorem IsPage.looked (isPage : IsPage blocks hasMore page) :
    orEmpty page = page ∧ ∀ name, page.member name = .ok (page.part name) := by
  have data := isPage.data
  cases page with
  | object members =>
    cases members with
    | nil => cases data
    | cons first rest => exact ⟨rfl, fun _ => rfl⟩
  | _ => cases data

theorem IsPage.blocksOf_eq (isPage : IsPage blocks hasMore page) :
    blocksOf page = .ok blocks := by
  have isRow : IsRow (page.part "data") := fun _ => ⟨blocks, isPage.data⟩
  unfold blocksOf
  rw [isPage.looked.1, isPage.looked.2]
  show (page.part "data").partsOrNone = _
  rw [isRow.partsOrNone_eq, isPage.data]
  rfl

/-- Well-formed transactions are read to their end. -/
theorem Poll.readBlocks_eq (areBlocks : ∀ block ∈ blocks, IsBlock block) (cursor : Value) :
    Poll.readBlocks cursor blocks = (published blocks, cursorAt cursor blocks, none) := by
  induction blocks generalizing cursor with
  | nil => rfl
  | cons block rest inductionHypothesis =>
    obtain ⟨isBlock, areRest⟩ := List.forall_mem_cons.mp areBlocks
    obtain ⟨found, isFound⟩ := isBlock.exists_publications
    have isNext : Poll.cursorAfter cursor block = .ok (block.part "digest") := by
      obtain ⟨members, rfl⟩ := isBlock.isObject
      exact congrArg Except.ok (if_pos isBlock.digest_eq.2)
    have counted : published (block :: rest) = found ++ published rest := by
      show (publications block).toOption.getD [] ++ published rest = _
      rw [isFound]
      rfl
    unfold Poll.readBlocks
    rw [isFound]
    dsimp only
    rw [isNext]
    dsimp only
    rw [inductionHypothesis areRest, counted, ← List.singleton_append, cursorAt_append]
    rfl

/-- A poll that has found its place reads a page to its end, and rests unless there are more. -/
theorem Poll.onAnswer_of_placed {poll : Poll} (isPlaced : poll.isPlaced = true)
    (isPage : IsPage blocks hasMore page) (areBlocks : ∀ block ∈ blocks, IsBlock block) :
    ∃ rests, (rests = true ↔ ¬ hasMore) ∧ poll.onAnswer page =
      (⟨{ poll with cursor := cursorAt poll.cursor blocks }, published blocks, rests,
        blocks.length⟩, none) := by
  obtain ⟨isMore, successor, isMore_iff⟩ := isPage.successor
  refine ⟨!isMore, ?_, ?_⟩
  · rw [← isMore_iff, Bool.not_eq_true', Bool.not_eq_true]
  · unfold Poll.onAnswer Poll.onPage
    rw [if_pos isPlaced, isPage.blocksOf_eq]
    dsimp only
    rw [Poll.readBlocks_eq areBlocks, isPage.looked.1, isPage.looked.2, successor]
    rfl

/-- A poll without a place finds it at the last transaction of the log. -/
theorem Poll.onAnswer_of_unplaced {poll : Poll} {log : Log} (isUnplaced : poll.isPlaced = false)
    (isPage : IsPage log.blocks.getLast?.toList hasMore page) :
    poll.onAnswer page =
      ({ poll := { poll with cursor := cursorAt .null log.blocks, isPlaced := true } }, none) := by
  have isLatest : latestIn page = .ok (cursorAt .null log.blocks) := by
    unfold latestIn
    rw [isPage.looked.1, isPage.looked.2, isPage.data]
    unfold cursorAt
    cases isLast : log.blocks.getLast? with
    | none => rfl
    | some block =>
      obtain ⟨members, rfl⟩ := (log.areBlocks block (List.mem_of_getLast? isLast)).isObject
      rfl
  unfold Poll.onAnswer
  rw [if_neg (by simp [isUnplaced]), isLatest]

end Pages

/-! ### Turns -/

namespace Poll

variable {policy : Policy} {poll : Poll} {scene left : Scene Line}

theorem exists_run_turn_of_answer {answer : Value}
    (ran : (transactions policy poll.question).run scene = (.ok answer, left)) :
    ∃ last, (poll.turn policy).run scene = (.ok (poll.onAnswer answer), last) := by
  unfold turn
  rw [Act.run_bind_ok _ (Act.run_settle ran)]
  dsimp only
  split
  · exact ⟨_, rfl⟩
  · exact ⟨_, rfl⟩

theorem exists_run_turn_of_refusal {method : String} {refusal : Refusal}
    (ran : (transactions policy poll.question).run scene =
      (.error (.refused method refusal), left)) :
    ∃ last, (poll.turn policy).run scene = (.ok (poll.onFailure, none), last) := by
  unfold turn
  rw [Act.run_bind_ok _ (Act.run_settle ran)]
  exact ⟨_, rfl⟩

end Poll

/-- A question on transactions is answered at once by a node whose next delivery gives a result. -/
theorem exists_run_transactions {policy : Policy} {question : Question} {scene : Scene Line}
    {filter answer : Value} (isFilter : transactionFilter question.kind = .ok filter)
    {delivery : Delivery} {later : List Delivery}
    (isScript : scene.world.node = .script (delivery :: later))
    (gives : outcomeOf delivery = .ok (.ok answer)) :
    ∃ last, (transactions policy question).run scene = (.ok answer, last) := by
  have filtered : (Act.ofExcept ((transactionFilter question.kind).mapError .shape) :
      Act Line Failure Value).run scene = (.ok filter, scene) := by
    rw [isFilter]
    rfl
  have issued : (Act.take Line.issue : Act Line Failure Nat).run scene =
      (.ok (scene.world.lastNumber + 1), { scene with world := scene.world.issue.2 }) := rfl
  have comes (params : Value) : outcomeOf (delivered "suix_queryTransactionBlocks" params
      { scene with world := scene.world.issue.2 }) = .ok (.ok answer) := by
    have isNode : scene.world.issue.2.node = .script (delivery :: later) := isScript
    rw [delivered, isNode]
    exact gives
  unfold transactions call
  rw [Act.run_bind_ok _ filtered, Act.run_bind_ok _ issued]
  exact ⟨_, run_attemptsFrom_result (comes _)⟩

/-! ### Watching a poll -/

/-- A poll beside the log that it reads: the place where it began, once it has one, what it has
found and not told yet, and what it has told. -/
structure Watch where
  log : Log
  poll : Poll
  origin? : Option Value
  pending : List Publication := []
  told : List Publication := []
  isOver : Bool := false

/-- One thing that happens around a poll. -/
inductive Happening where
  /-- The log becomes a longer one. -/
  | grows (log : Log)
  /-- The next publication is told. -/
  | tells
  /-- The poll puts its question over a line. -/
  | turns (scene : Scene Line)

/-- A question that is put over a line is answered from the log, or refused. -/
def Log.Serves (policy : Policy) (log : Log) (question : Question) (scene : Scene Line) : Prop :=
  match ((transactions policy question).run scene).1 with
  | .ok answer => log.Answers question answer
  | .error (.refused ..) => True
  | .error _ => False

namespace Watch

/-- A poll that begins after a cursor, or looks for its place when none is given. -/
def start (given : Value) (poll : Poll) (log : Log) : Watch :=
  { log, poll := poll.after given, origin? := if given.isNull then none else some given }

/-- The place where a poll began, after a question. The first answer settles the place of a poll
that looks for it: the last transaction that the log has then, or its start. -/
def originAfter (watch : Watch) (isAnswered : Bool) : Option Value :=
  if isAnswered then some (watch.origin?.getD (cursorAt .null watch.log.blocks))
  else watch.origin?

/-- What is seen after a turn. -/
def turned (watch : Watch) (isAnswered : Bool)
    (came : Except Failure (Poll.Turn × Option ShapeFault)) : Watch :=
  match came with
  | .ok (turn, fault?) =>
    { watch with
      poll := turn.poll
      pending := turn.found
      origin? := watch.originAfter isAnswered
      isOver := fault?.isSome }
  | .error _ => { watch with origin? := watch.originAfter isAnswered, isOver := true }

/-- What is seen after something has happened. -/
def after (policy : Policy) (watch : Watch) : Happening → Watch
  | .grows log => { watch with log }
  | .tells =>
    { watch with told := watch.told ++ watch.pending.take 1, pending := watch.pending.drop 1 }
  | .turns scene =>
    watch.turned ((transactions policy watch.poll.question).run scene).1.isOk
      ((watch.poll.turn policy).run scene).1

/-- Something can happen: the log only grows, and a poll that goes on puts its next question when it
has told all that it found. -/
def Admits (policy : Policy) (watch : Watch) : Happening → Prop
  | .grows log => watch.log.blocks <+: log.blocks
  | .tells => watch.pending ≠ []
  | .turns scene => watch.isOver = false ∧ watch.pending = [] ∧
      watch.log.Serves policy watch.poll.question scene

/-- Things happen, in any number and any order. -/
def Unfolds (policy : Policy) : Watch → Watch → Prop :=
  Relation.ReflTransGen fun watch next =>
    ∃ happening, watch.Admits policy happening ∧ next = watch.after policy happening

/-- How a poll stands: it looks for its place and has found nothing, or its cursor is at the last
transaction that it has read, and it has found what was published up to there. -/
inductive Stands (watch : Watch) : Prop
  | unplaced (isUnplaced : watch.poll.isPlaced = false) (noOrigin : watch.origin? = none)
    (noneTold : watch.told = []) (nonePending : watch.pending = [])
  | placed (origin : Value) (read : List Value) (isPlaced : watch.poll.isPlaced = true)
    (isOrigin : watch.origin? = some origin)
    (isRead : read <+: blocksAfter origin watch.log.blocks)
    (isFound : watch.told ++ watch.pending = published read)
    (isCursor : watch.poll.cursor = cursorAt origin read)

/-- A poll that goes on and stands as it should. -/
structure Sound (watch : Watch) : Prop where
  goesOn : watch.isOver = false
  stands : watch.Stands

variable {policy : Policy} {watch next : Watch}

theorem sound_start (given : Value) (poll : Poll) (log : Log) : (start given poll log).Sound := by
  refine ⟨rfl, ?_⟩
  cases isNull : given.isNull with
  | true =>
    exact .unplaced (by simp [start, Poll.after, isNull]) (by simp [start, isNull]) rfl rfl
  | false =>
    exact .placed given [] (by simp [start, Poll.after, isNull])
      (by simp [start, isNull]) List.nil_prefix rfl rfl

theorem Sound.grows (sound : watch.Sound) {log : Log} (grown : watch.log.blocks <+: log.blocks) :
    (watch.after policy (.grows log)).Sound := by
  refine ⟨sound.goesOn, ?_⟩
  cases sound.stands with
  | unplaced isUnplaced noOrigin noneTold nonePending =>
    exact .unplaced isUnplaced noOrigin noneTold nonePending
  | placed origin read isPlaced isOrigin isRead isFound isCursor =>
    have isReadLater := isRead.trans (prefix_blocksAfter origin grown)
    exact .placed origin read isPlaced isOrigin isReadLater isFound isCursor

theorem Sound.tells (sound : watch.Sound) : (watch.after policy .tells).Sound := by
  refine ⟨sound.goesOn, ?_⟩
  cases sound.stands with
  | unplaced isUnplaced noOrigin noneTold nonePending =>
    refine .unplaced isUnplaced noOrigin ?_ ?_
    · show watch.told ++ watch.pending.take 1 = []
      rw [noneTold, nonePending]
      rfl
    · show watch.pending.drop 1 = []
      rw [nonePending]
      rfl
  | placed origin read isPlaced isOrigin isRead isFound isCursor =>
    refine .placed origin read isPlaced isOrigin isRead ?_ isCursor
    show (watch.told ++ watch.pending.take 1) ++ watch.pending.drop 1 = _
    rw [List.append_assoc, List.take_append_drop, isFound]

section Turns

variable {scene left : Scene Line}

theorem after_turns_of_answer {answer : Value}
    (ran : (transactions policy watch.poll.question).run scene = (.ok answer, left)) :
    watch.after policy (.turns scene) = watch.turned true (.ok (watch.poll.onAnswer answer)) := by
  obtain ⟨last, turned⟩ := Poll.exists_run_turn_of_answer ran
  show watch.turned ((transactions policy watch.poll.question).run scene).1.isOk _ = _
  rw [ran, turned]
  rfl

theorem after_turns_of_refusal {method : String} {refusal : Refusal}
    (ran : (transactions policy watch.poll.question).run scene =
      (.error (.refused method refusal), left)) :
    watch.after policy (.turns scene) =
      watch.turned false (.ok (watch.poll.onFailure, none)) := by
  obtain ⟨last, turned⟩ := Poll.exists_run_turn_of_refusal ran
  show watch.turned ((transactions policy watch.poll.question).run scene).1.isOk _ = _
  rw [ran, turned]
  rfl

/-- A poll that looks for its place finds it with the first answer. -/
theorem Stands.of_unplaced_answer {answer : Value} (isUnplaced : watch.poll.isPlaced = false)
    (noOrigin : watch.origin? = none) (noneTold : watch.told = [])
    (answers : watch.log.Answers watch.poll.question answer) :
    (watch.turned true (.ok (watch.poll.onAnswer answer))).Sound := by
  have asked : watch.poll.question = latestQuestion watch.poll.kind :=
    if_neg (by simp [isUnplaced])
  rw [asked] at answers
  cases answers with
  | onwards limit count isOnwards => cases isOnwards
  | latest _ _ _ isPage =>
    rw [Poll.onAnswer_of_unplaced isUnplaced isPage]
    refine ⟨rfl, .placed (cursorAt .null watch.log.blocks) [] rfl ?_ List.nil_prefix ?_ rfl⟩
    · show some (watch.origin?.getD _) = _
      rw [noOrigin]
      rfl
    · show watch.told ++ [] = []
      rw [noneTold]
      rfl

/-- A poll that has its place takes what comes next in the log, and all of it if the answer has no
successor. -/
theorem exists_turned_of_placed {answer origin : Value} (isPlaced : watch.poll.isPlaced = true)
    (isOrigin : watch.origin? = some origin)
    (answers : watch.log.Answers watch.poll.question answer) :
    ∃ taken, taken <+: blocksAfter watch.poll.cursor watch.log.blocks ∧
      (answer.part "hasNextPage" = .bool false →
        taken = blocksAfter watch.poll.cursor watch.log.blocks) ∧
      watch.turned true (.ok (watch.poll.onAnswer answer)) =
        { watch with
          poll := { watch.poll with cursor := cursorAt watch.poll.cursor taken }
          pending := published taken
          origin? := some origin
          isOver := false } := by
  have asked : watch.poll.question =
      { kind := watch.poll.kind, cursor := watch.poll.cursor, limit := watch.poll.limit } :=
    if_pos isPlaced
  rw [asked] at answers
  cases answers with
  | onwards limit count _ _ _ isPage =>
    dsimp only at isPage
    have areBlocks : ∀ block ∈ (blocksAfter watch.poll.cursor watch.log.blocks).take count,
        IsBlock block := fun block member =>
      watch.log.areBlocks block
        ((blocksAfter_suffix _ _).subset (List.mem_of_mem_take member))
    obtain ⟨rests, _, came⟩ := Poll.onAnswer_of_placed isPlaced isPage areBlocks
    refine ⟨_, List.take_prefix count _, fun isEnd => ?_, ?_⟩
    · obtain ⟨isMore, successor, isMore_iff⟩ := isPage.successor
      rw [successor] at isEnd
      cases isEnd
      exact List.take_of_length_le (Nat.not_lt.mp fun more => nomatch isMore_iff.mpr more)
    · rw [came]
      unfold turned originAfter
      rw [isOrigin]
      rfl
  | latest isBackwards => cases isBackwards

/-- A poll that has its place goes on from the last transaction that it has read. -/
theorem Stands.of_placed_answer {answer origin : Value} {read : List Value}
    (isPlaced : watch.poll.isPlaced = true) (isOrigin : watch.origin? = some origin)
    (isRead : read <+: blocksAfter origin watch.log.blocks)
    (isTold : watch.told = published read) (isCursor : watch.poll.cursor = cursorAt origin read)
    (answers : watch.log.Answers watch.poll.question answer) :
    (watch.turned true (.ok (watch.poll.onAnswer answer))).Sound := by
  obtain ⟨taken, isNext, _, same⟩ := exists_turned_of_placed isPlaced isOrigin answers
  obtain ⟨rest, order⟩ := isRead
  rw [isCursor, watch.log.blocksAfter_cursorAt order.symm] at isNext
  rw [same]
  refine ⟨rfl, .placed origin (read ++ taken) isPlaced rfl ?_ ?_ ?_⟩
  · show read ++ taken <+: blocksAfter origin watch.log.blocks
    rw [← order, List.prefix_append_right_inj]
    exact isNext
  · show watch.told ++ published taken = _
    rw [isTold, published_append]
  · show cursorAt watch.poll.cursor taken = _
    rw [isCursor, cursorAt_append]

/-- After an answer that has no successor nothing is left out: the poll has found all that the log
has published after the place where the poll began. -/
theorem Sound.found_all {answer origin : Value} (sound : watch.Sound)
    (isPlaced : watch.poll.isPlaced = true) (isOrigin : watch.origin? = some origin)
    (nonePending : watch.pending = [])
    (ran : (transactions policy watch.poll.question).run scene = (.ok answer, left))
    (answers : watch.log.Answers watch.poll.question answer)
    (isEnd : answer.part "hasNextPage" = .bool false) :
    (watch.after policy (.turns scene)).told ++ (watch.after policy (.turns scene)).pending =
      published (blocksAfter origin watch.log.blocks) := by
  obtain ⟨taken, _, isAll, same⟩ := exists_turned_of_placed isPlaced isOrigin answers
  rw [after_turns_of_answer ran, same]
  cases sound.stands with
  | unplaced isUnplaced => cases isPlaced.symm.trans isUnplaced
  | placed own read _ isOwn isRead isFound isCursor =>
    obtain rfl := Option.some.inj (isOwn.symm.trans isOrigin)
    obtain ⟨rest, order⟩ := isRead
    have isRest : taken = rest := by
      rw [isAll isEnd, isCursor, watch.log.blocksAfter_cursorAt order.symm]
    show watch.told ++ published taken = _
    rw [nonePending, List.append_nil] at isFound
    rw [isFound, isRest, ← order, published_append]

theorem Sound.turns (sound : watch.Sound) (nonePending : watch.pending = [])
    (serves : watch.log.Serves policy watch.poll.question scene) :
    (watch.after policy (.turns scene)).Sound := by
  unfold Log.Serves at serves
  cases ran : (transactions policy watch.poll.question).run scene with
  | mk outcome left =>
    rw [ran] at serves
    cases outcome with
    | ok answer =>
      rw [after_turns_of_answer ran]
      cases sound.stands with
      | unplaced isUnplaced noOrigin noneTold =>
        exact Stands.of_unplaced_answer isUnplaced noOrigin noneTold serves
      | placed origin read isPlaced isOrigin isRead isFound isCursor =>
        rw [nonePending, List.append_nil] at isFound
        exact Stands.of_placed_answer isPlaced isOrigin isRead isFound isCursor serves
    | error failure =>
      cases failure with
      | refused method refusal =>
        rw [after_turns_of_refusal ran]
        refine ⟨rfl, ?_⟩
        cases sound.stands with
        | unplaced isUnplaced noOrigin noneTold =>
          exact .unplaced isUnplaced noOrigin noneTold rfl
        | placed origin read isPlaced isOrigin isRead isFound isCursor =>
          rw [nonePending] at isFound
          exact .placed origin read isPlaced isOrigin isRead isFound isCursor
      | _ => cases serves

end Turns

theorem Sound.after (sound : watch.Sound) {happening : Happening}
    (admitted : watch.Admits policy happening) : (watch.after policy happening).Sound := by
  cases happening with
  | grows log => exact sound.grows admitted
  | tells => exact sound.tells
  | turns scene => exact sound.turns admitted.2.1 admitted.2.2

theorem Sound.unfolds (sound : watch.Sound) (unfolds : watch.Unfolds policy next) : next.Sound := by
  induction unfolds with
  | refl => exact sound
  | tail _ happens inductionHypothesis =>
    obtain ⟨happening, admitted, rfl⟩ := happens
    exact inductionHypothesis.after admitted

/-- The place where a poll began stays the same once it is settled. -/
theorem origin?_after {origin : Value} (isOrigin : watch.origin? = some origin)
    (happening : Happening) : (watch.after policy happening).origin? = some origin := by
  cases happening with
  | grows log => exact isOrigin
  | tells => exact isOrigin
  | turns scene =>
    have settled (isAnswered : Bool) : watch.originAfter isAnswered = some origin := by
      unfold originAfter
      rw [isOrigin]
      cases isAnswered <;> rfl
    show (watch.turned _ _).origin? = _
    unfold turned
    split
    · exact settled _
    · exact settled _

theorem origin?_unfolds {origin : Value} (isOrigin : watch.origin? = some origin)
    (unfolds : watch.Unfolds policy next) : next.origin? = some origin := by
  induction unfolds with
  | refl => exact isOrigin
  | tail _ happens inductionHypothesis =>
    obtain ⟨happening, _, rfl⟩ := happens
    exact origin?_after inductionHypothesis happening

/-- A poll that began after a cursor, or at the last transaction that the log had when it was first
answered, never ends by itself, and at every moment it has told a beginning of what the log has
published after that place. What it has told and is about to tell is just what was published up to
its cursor. -/
theorem told_prefix_published {given : Value} {poll : Poll} {log : Log}
    (unfolds : (start given poll log).Unfolds policy watch) :
    watch.isOver = false ∧ (given.isNull = false → watch.origin? = some given) ∧
      (watch.origin? = none → watch.told = []) ∧
      ∀ origin, watch.origin? = some origin →
        watch.told <+: published (blocksAfter origin watch.log.blocks) ∧
        ∃ read, read <+: blocksAfter origin watch.log.blocks ∧
          watch.told ++ watch.pending = published read ∧
          watch.poll.cursor = cursorAt origin read := by
  have sound := (sound_start given poll log).unfolds unfolds
  refine ⟨sound.goesOn, fun isGiven => ?_, fun noOrigin => ?_, fun origin isOrigin => ?_⟩
  · refine origin?_unfolds ?_ unfolds
    exact if_neg (by simp [isGiven])
  · cases sound.stands with
    | unplaced _ _ noneTold => exact noneTold
    | placed own read _ isOwn => cases noOrigin.symm.trans isOwn
  · cases sound.stands with
    | unplaced _ noOrigin => cases noOrigin.symm.trans isOrigin
    | placed own read _ isOwn isRead isFound isCursor =>
      obtain rfl := Option.some.inj (isOwn.symm.trans isOrigin)
      refine ⟨?_, read, isRead, isFound, isCursor⟩
      have told : watch.told <+: published read :=
        isFound ▸ List.prefix_append watch.told watch.pending
      obtain ⟨rest, order⟩ := isRead
      rw [← order, published_append]
      exact told.trans (List.prefix_append _ _)

/-- A transaction that publishes one package. -/
def publishing : Value :=
  .object [("digest", .string "d1"), ("objectChanges",
    .array [.object [("type", .string "published"), ("packageId", .string "0x1")]])]

theorem isBlock_publishing : IsBlock publishing where
  isObject := ⟨_, rfl⟩
  digest := ⟨"d1", rfl, by decide⟩
  effects := nofun
  status := nofun
  transaction := nofun
  data := nofun
  changes := fun _ => ⟨_, rfl⟩
  packages := fun change member _ => by
    obtain rfl := List.mem_singleton.mp member
    rfl

/-- A poll that looks for its place on an empty log tells the first package that is published. -/
theorem told_first_publishing :
    let empty : Log := ⟨[], nofun, List.nodup_nil⟩
    let later : Log :=
      ⟨[publishing], List.forall_mem_singleton.mpr isBlock_publishing, List.pairwise_singleton _ _⟩
    ∃ watch, (start .null { kind := .null } empty).Unfolds {} watch ∧ watch.log = later ∧
      watch.told.map (·.package) = [.string "0x1"] ∧
        watch.told <+: published (blocksAfter .null later.blocks) := by
  intro empty later
  let page (blocks : List Value) : Value :=
    .object [("data", .array blocks), ("hasNextPage", .bool false)]
  let line (blocks : List Value) : Scene Line :=
    ⟨{ node := .script [Ledger.result (page blocks)] }, []⟩
  let fresh := start .null { kind := .null } empty
  let placed := fresh.turned true (.ok (fresh.poll.onAnswer (page [])))
  let grown := placed.after {} (.grows later)
  let found := grown.turned true (.ok (grown.poll.onAnswer (page [publishing])))
  have asked (question : Question) (isAny : question.kind = .null) (blocks : List Value) :
      ∃ last, (transactions {} question).run (line blocks) = (.ok (page blocks), last) := by
    have isFilter : transactionFilter question.kind = .ok .null := by
      rw [isAny]
      rfl
    exact exists_run_transactions isFilter rfl rfl
  have toPlaced : fresh.Unfolds {} placed := by
    obtain ⟨last, ran⟩ := asked fresh.poll.question rfl []
    refine .single ⟨.turns (line []), ⟨rfl, rfl, ?_⟩, (after_turns_of_answer ran).symm⟩
    unfold Log.Serves
    rw [ran]
    exact Log.Answers.latest rfl rfl rfl ⟨rfl, false, rfl, by decide⟩
  have toGrown : fresh.Unfolds {} grown :=
    toPlaced.tail ⟨.grows later, List.nil_prefix, rfl⟩
  have toFound : fresh.Unfolds {} found := by
    obtain ⟨last, ran⟩ := asked grown.poll.question rfl [publishing]
    refine toGrown.tail
      ⟨.turns (line [publishing]), ⟨rfl, rfl, ?_⟩, (after_turns_of_answer ran).symm⟩
    unfold Log.Serves
    rw [ran]
    exact Log.Answers.onwards 50 1 rfl rfl (by decide)
      ⟨rfl, false, rfl, by decide⟩
  have toTold : fresh.Unfolds {} (found.after {} .tells) :=
    toFound.tail ⟨.tells, nofun, rfl⟩
  exact ⟨_, toTold, rfl, rfl, ((told_prefix_published toTold).2.2.2 .null rfl).1⟩

end Watch

end MoveAudit.Chain
