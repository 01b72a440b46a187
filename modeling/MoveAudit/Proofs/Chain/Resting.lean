/-
This file says between which questions a poll rests. It rests after a question that failed and after
a page that has no successor, and it goes on at once after any other page. Such a page moves the
poll on by the digests of its transactions alone, so after one that announces a successor and brings
no new digest the same question is put again without a rest. These pages are the only ones: a poll
never repeats a question without a rest exactly if it never gets one of them.
-/

import Mathlib.Logic.Relation
import MoveAudit.Chain.Poll
import MoveAudit.Proofs.Chain.Poll

namespace MoveAudit.Chain

open Json

/-! ### Pages that lead nowhere -/

/-- The last digest that transactions bring. -/
def lastDigest? (blocks : List Value) : Option Value :=
  ((blocks.map (·.part "digest")).filter Value.isFull).getLast?

theorem lastDigest?_cons (block : Value) (rest : List Value) (cursor : Value) :
    (lastDigest? (block :: rest)).getD cursor = (lastDigest? rest).getD
      (if (block.part "digest").isFull then block.part "digest" else cursor) := by
  unfold lastDigest?
  rw [List.map_cons, List.filter_cons]
  split
  · rw [List.getLast?_cons]
    rfl
  · rfl

/-- A page can be read to its end, announces a successor, and leaves the cursor where it is. -/
structure Stalls (cursor page : Value) (blocks : List Value) : Prop where
  areBlocks : blocksOf page = .ok blocks
  areRead : ∀ block ∈ blocks, ∃ found, publications block = .ok found
  announces : ((orEmpty page).part "hasNextPage").isFull = true
  stays : ∀ digest ∈ lastDigest? blocks, digest = cursor

namespace Poll

theorem cursorAfter_of_publications {cursor block : Value} {found : List Publication}
    (isRead : publications block = .ok found) : cursorAfter cursor block =
      .ok (if (block.part "digest").isFull then block.part "digest" else cursor) := by
  cases block with
  | object members => rfl
  | _ => cases isRead

/-- Transactions are read to their end exactly if the publications of each can be read, and then the
cursor is at the last digest that they bring. -/
theorem readBlocks_cases (cursor : Value) (blocks : List Value) :
    (∃ found, readBlocks cursor blocks = (found, (lastDigest? blocks).getD cursor, none) ∧
        ∀ block ∈ blocks, ∃ found, publications block = .ok found) ∨
      (∃ fault, (readBlocks cursor blocks).2.2 = some fault) ∧
        ∃ block ∈ blocks, ∀ found, publications block ≠ .ok found := by
  induction blocks generalizing cursor with
  | nil => exact .inl ⟨[], rfl, fun _ member => absurd member List.not_mem_nil⟩
  | cons block rest inductionHypothesis =>
    cases isRead : publications block with
    | error fault =>
      refine .inr ⟨⟨fault, ?_⟩, block, List.mem_cons_self, by simp [isRead]⟩
      rw [readBlocks, isRead]
    | ok found =>
      have isNext := @cursorAfter_of_publications cursor block found isRead
      rcases inductionHypothesis
          (if (block.part "digest").isFull then block.part "digest" else cursor) with
        ⟨more, isRest, areRead⟩ | ⟨⟨fault, isFault⟩, broken, isAmong, unread⟩
      · refine .inl ⟨found ++ more, ?_, List.forall_mem_cons.mpr ⟨⟨found, isRead⟩, areRead⟩⟩
        rw [readBlocks, isRead]
        dsimp only
        rw [isNext]
        dsimp only
        rw [isRest, lastDigest?_cons]
      · refine .inr ⟨⟨fault, ?_⟩, broken, List.mem_cons_of_mem _ isAmong, unread⟩
        rw [readBlocks, isRead]
        dsimp only
        rw [isNext]
        exact isFault

/-- After a page whose transactions are listed a poll rests unless it announces a successor. -/
theorem onPage_eq {poll : Poll} {page : Value} {blocks : List Value}
    (areBlocks : blocksOf page = .ok blocks) : let read := readBlocks poll.cursor blocks
    poll.onPage page = (⟨{ poll with cursor := read.2.1 }, read.1,
      !((orEmpty page).part "hasNextPage").isFull, blocks.length⟩, read.2.2) := by
  unfold onPage
  rw [areBlocks]
  cases orEmpty page <;> rfl

/-- A page after which a poll goes on stalls it exactly if the cursor is left where it was and there
is no rest. -/
theorem stalls_iff {poll : Poll} {page : Value} {turn : Turn}
    (came : poll.onPage page = (turn, none)) :
    (∃ blocks, Stalls poll.cursor page blocks) ↔
      turn.poll.cursor = poll.cursor ∧ turn.rests = false := by
  cases areBlocks : blocksOf page with
  | error fault =>
    unfold onPage at came
    rw [areBlocks] at came
    cases came
  | ok blocks =>
    rw [onPage_eq areBlocks] at came
    rcases readBlocks_cases poll.cursor blocks with
      ⟨found, isRead, areRead⟩ | ⟨⟨fault, isFault⟩, -⟩
    · rw [isRead] at came
      cases came
      dsimp only
      rw [Bool.not_eq_false']
      constructor
      · rintro ⟨others, areOthers, -, announces, stays⟩
        rw [areBlocks] at areOthers
        cases areOthers
        refine ⟨?_, announces⟩
        cases isLast : lastDigest? blocks with
        | none => rfl
        | some digest => exact stays digest isLast
      · rintro ⟨stays, announces⟩
        refine ⟨blocks, areBlocks, areRead, announces, fun digest isLast => ?_⟩
        rwa [isLast] at stays
    · have isEnd : (readBlocks poll.cursor blocks).2.2 = none := congrArg Prod.snd came
      rw [isFault] at isEnd
      cases isEnd

theorem exists_turn_of_stalls {poll : Poll} {page : Value} {blocks : List Value}
    (stalls : Stalls poll.cursor page blocks) : ∃ turn, poll.onPage page = (turn, none) := by
  rw [onPage_eq stalls.areBlocks]
  rcases readBlocks_cases poll.cursor blocks with ⟨found, isRead, -⟩ | ⟨-, broken, isAmong, unread⟩
  · rw [isRead]
    exact ⟨_, rfl⟩
  · obtain ⟨found, isRead⟩ := stalls.areRead broken isAmong
    exact absurd isRead (unread found)

theorem isPlaced_onPage (poll : Poll) (page : Value) :
    (poll.onPage page).1.poll.isPlaced = poll.isPlaced := by
  unfold onPage
  cases blocksOf page <;> rfl

/-- A turn that leads on is made on an answer, or after a refusal. -/
theorem turn_cases {policy : Policy} {poll : Poll} {scene answered : Scene Line} {turn : Turn}
    (ran : (poll.turn policy).run scene = (.ok (turn, none), answered)) :
    (∃ answer left, (transactions policy poll.question).run scene = (.ok answer, left) ∧
        poll.onAnswer answer = (turn, none)) ∨
      (∃ method refusal left, (transactions policy poll.question).run scene =
        (.error (.refused method refusal), left)) ∧ turn = poll.onFailure := by
  cases asked : (transactions policy poll.question).run scene with
  | mk outcome left =>
    cases outcome with
    | ok answer =>
      obtain ⟨last, turned⟩ := exists_run_turn_of_answer asked
      rw [turned] at ran
      exact .inl ⟨answer, left, rfl, Except.ok.inj (congrArg Prod.fst ran)⟩
    | error failure =>
      cases failure with
      | refused method refusal =>
        obtain ⟨last, turned⟩ := exists_run_turn_of_refusal asked
        rw [turned] at ran
        have same := Except.ok.inj (congrArg Prod.fst ran)
        exact .inr ⟨⟨method, refusal, left, rfl⟩, (congrArg Prod.fst same).symm⟩
      | _ =>
        unfold Poll.turn at ran
        rw [Act.run_bind_ok _ (Act.run_settle asked)] at ran
        cases ran

end Poll

/-! ### Questions in a row -/

/-- A poll at a line when it puts a question. -/
structure Asking where
  poll : Poll
  scene : Scene Line

namespace Asking

/-- The next question after a turn: what was found is noticed, and the rest is taken if the turn
calls for one. -/
def after (policy : Policy) (asking : Asking) (turn : Poll.Turn) (answered : Scene Line) :
    Asking where
  poll := turn.poll
  scene := {
    world := if turn.rests then answered.world.rest asking.poll.interval else answered.world
    notices := if turn.found.isEmpty then answered.notices
      else answered.notices ++ [turn.foundNotice policy] }

/-- One question follows another: the turn on the first one leads on to it. -/
inductive Follows (policy : Policy) (first : Asking) : Asking → Prop
  | intro {turn : Poll.Turn} {answered : Scene Line}
    (ran : (first.poll.turn policy).run first.scene = (.ok (turn, none), answered)) :
    Follows policy first (first.after policy turn answered)

/-- The questions that a poll comes to put, one after the other. -/
def Reaches (policy : Policy) : Asking → Asking → Prop :=
  Relation.ReflTransGen (Follows policy)

/-- The packages are gathered by these questions: what is gathered from one on is what was found by
the turn on it and what is gathered from the next one on. -/
theorem run_gatherFrom_after {policy : Policy} {wanted turns : Nat} {asking : Asking}
    {found : List Publication} {turn : Poll.Turn} {answered : Scene Line}
    (ran : (asking.poll.turn policy).run asking.scene = (.ok (turn, none), answered))
    (fewer : turn.found = [] ∨ (found ++ turn.found).length < wanted) :
    (asking.poll.gatherFrom policy wanted (turns + 1) found).run asking.scene =
      ((asking.after policy turn answered).poll.gatherFrom policy wanted turns
        (found ++ turn.found)).run (asking.after policy turn answered).scene := by
  have goesOn :
      (!turn.found.isEmpty && decide (wanted ≤ (found ++ turn.found).length)) = false := by
    rcases fewer with none | few
    · rw [none]
      rfl
    · rw [decide_eq_false (Nat.not_le_of_lt few), Bool.and_false]
  conv =>
    lhs
    unfold Poll.gatherFrom
  rw [Act.run_bind_ok _ (Act.run_settle ran)]
  dsimp only
  rw [goesOn, if_neg Bool.false_ne_true]
  unfold after
  cases turn.found.isEmpty <;> cases turn.rests <;> rfl

/-- A question that asks onwards from the cursor. -/
def IsOnward (asking : Asking) : Prop :=
  asking.poll.question.isDescending = .bool false

/-- Between two questions onwards from one cursor there is a rest. -/
def NeverSpins (policy : Policy) (start : Asking) : Prop :=
  ∀ first, Reaches policy start first → first.IsOnward → ∀ turn answered,
    (first.poll.turn policy).run first.scene = (.ok (turn, none), answered) →
    let second := first.after policy turn answered
    second.IsOnward → second.poll.question.cursor = first.poll.question.cursor →
      second.scene.world.rests = answered.world.rests ++ [first.poll.interval]

theorem isOnward_iff {asking : Asking} : asking.IsOnward ↔ asking.poll.isPlaced = true := by
  unfold IsOnward Poll.question
  cases asking.poll.isPlaced with
  | true => exact iff_of_true rfl rfl
  | false => exact iff_of_false nofun nofun

theorem rests_after_iff {policy : Policy} {asking : Asking} {turn : Poll.Turn}
    {answered : Scene Line} :
    (asking.after policy turn answered).scene.world.rests =
        answered.world.rests ++ [asking.poll.interval] ↔ turn.rests = true := by
  unfold after
  cases turn.rests with
  | true => exact iff_of_true rfl rfl
  | false =>
    refine iff_of_false (fun same => ?_) nofun
    have lengths := congrArg List.length same
    simp at lengths

/-- A poll never repeats a question onwards without a rest exactly if no answer to such a question
is a page that stalls it. -/
theorem never_spins_iff {policy : Policy} {start : Asking} :
    NeverSpins policy start ↔
      ∀ asking, Reaches policy start asking → asking.IsOnward → ∀ page left,
        (transactions policy asking.poll.question).run asking.scene = (.ok page, left) →
          ∀ blocks, ¬ Stalls asking.poll.cursor page blocks := by
  have onwards {asking : Asking} (isPlaced : asking.poll.isPlaced = true) (page : Value) :
      asking.poll.onAnswer page = asking.poll.onPage page ∧
        asking.poll.question.cursor = asking.poll.cursor := by
    unfold Poll.onAnswer Poll.question
    rw [if_pos isPlaced, if_pos isPlaced]
    exact ⟨rfl, rfl⟩
  constructor
  · intro neverSpins asking reached isOnward page left answers blocks stalls
    have isPlaced := isOnward_iff.mp isOnward
    obtain ⟨turn, came⟩ := Poll.exists_turn_of_stalls stalls
    obtain ⟨stays, restless⟩ := (Poll.stalls_iff came).mp ⟨blocks, stalls⟩
    obtain ⟨answered, ran⟩ := @Poll.exists_run_turn_of_answer policy _ _ _ _ answers
    rw [(onwards isPlaced page).1, came] at ran
    have stillPlaced : (asking.after policy turn answered).poll.isPlaced = true := by
      have kept := asking.poll.isPlaced_onPage page
      rw [came, isPlaced] at kept
      exact kept
    have rests := neverSpins asking reached isOnward turn answered ran
      (isOnward_iff.mpr stillPlaced) (by
        rw [(onwards stillPlaced page).2, (onwards isPlaced page).2]
        exact stays)
    rw [rests_after_iff, restless] at rests
    cases rests
  · intro moves first reached isOnward turn answered ran second isOnwardToo same
    have isPlaced := isOnward_iff.mp isOnward
    have isPlacedToo := isOnward_iff.mp isOnwardToo
    rw [rests_after_iff]
    rcases Poll.turn_cases ran with ⟨page, left, answers, came⟩ | ⟨-, rfl⟩
    · rw [(onwards isPlacedToo page).2, (onwards isPlaced page).2] at same
      rw [(onwards isPlaced page).1] at came
      cases restless : turn.rests with
      | true => rfl
      | false =>
        obtain ⟨blocks, stalls⟩ := (Poll.stalls_iff came).mpr ⟨same, restless⟩
        exact absurd stalls (moves first reached isOnward page left answers blocks)
    · rfl

/-- A line at which a page without transactions announces a successor. -/
def emptyPageLine : Scene Line :=
  ⟨{ node := .script [Ledger.result (.object [("data", .array []),
    ("hasNextPage", .bool true)])] }, []⟩

/-- A poll that gets a page without transactions and with a successor asks the same again at once.
-/
theorem spins_on_empty_page :
    let start : Asking := ⟨({} : Poll).after (.string "d1"), emptyPageLine⟩
    (∃ turn answered, (start.poll.turn {}).run start.scene = (.ok (turn, none), answered) ∧
      let second := start.after {} turn answered
      start.IsOnward ∧ start.poll.question.cursor = .string "d1" ∧ second.IsOnward ∧
        second.poll.question.cursor = .string "d1" ∧
        second.scene.world.rests = answered.world.rests) ∧ ¬ NeverSpins {} start := by
  intro start
  let page : Value := .object [("data", .array []), ("hasNextPage", .bool true)]
  have isFilter : transactionFilter start.poll.question.kind =
      .ok (.object [("TransactionKind", .string publishingKind)]) := by
    have trimmed : Text.trimmed publishingKind = publishingKind := by decide +kernel
    have notAll : (Text.lowered publishingKind == "all") = false := by decide +kernel
    show Except.ok (if Text.lowered (Text.trimmed publishingKind) == "all" then Value.null
      else .object [("TransactionKind", .string (Text.trimmed publishingKind))]) = _
    rw [trimmed, notAll]
    rfl
  obtain ⟨left, answers⟩ := @exists_run_transactions {} start.poll.question start.scene _ page
    isFilter _ [] rfl rfl
  have stalls : Stalls start.poll.cursor page [] :=
    ⟨rfl, fun _ member => absurd member List.not_mem_nil, rfl, fun _ isLast => by cases isLast⟩
  obtain ⟨answered, ran⟩ := Poll.exists_run_turn_of_answer answers
  refine ⟨⟨_, answered, ran, rfl, rfl, rfl, rfl, rfl⟩, fun neverSpins => ?_⟩
  exact never_spins_iff.mp neverSpins start .refl rfl page left answers [] stalls

end Asking

end MoveAudit.Chain
