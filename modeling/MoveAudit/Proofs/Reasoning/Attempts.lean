/-
This file follows a call through its attempts. Replies in which no record of the schema is found are
sent back with what was wrong with them, as long as that may be done once more, and the answer after
them is what the call comes to. So what a call does is told by the replies that it sends back: one
conversation for each of them and one for the answer it ends with, each longer than the one before by
a reply and a correction. The entry of the call says how many there were. Of the schemas that stages
ask for, that of scores is left out, whose check may stop altogether. What is left that may stop is
the search in a reply: a call breaks off at the first reply that has more brackets in each other than
there is room for, and with that does not take its course.
-/

import Mathlib.Data.List.Infix
import MoveAudit.Proofs.Reasoning.Call

namespace MoveAudit.Reasoning

open Json Record Journal

variable {Result : Type}

/-! ### Replies that are used and replies that are sent back -/

/-- The schemas that are asked for, other than that of scores. -/
inductive IsUnscored : {Result : Type} → Schema Result → Prop
  | triage : IsUnscored Reasoner.triageSchema
  | technical : IsUnscored Reasoner.technicalSchema
  | draft : IsUnscored Reasoner.draftSchema
  | critique : IsUnscored Reasoner.critiqueSchema

/-- A record of a schema is found in a reply. -/
def Accepts (schema : Schema Result) (room : Nat) (reply : String) (result : Result) : Prop :=
  ∃ members, Reply.object room reply = .ok members ∧ schema.check (.object members) = .ok result

/-- What is wrong with a reply in which no record of a schema is found. -/
inductive Rejects (schema : Schema Result) (room : Nat) (reply : String) : Complaint → Prop
  | noObject {fault : Reply.Fault} (fails : Reply.object room reply = .error fault) :
    Rejects schema room reply (.given (.string fault.message))
  | misfit {members : Members} {faults : List Record.Fault}
    (found : Reply.object room reply = .ok members)
    (fails : schema.check (.object members) = .faults faults) :
    Rejects schema room reply (.misfit schema.title faults)

/-- A reply that is sent back, and what was wrong with it. -/
structure Rejection where
  reply : String
  complaint : Complaint

/-- An answer is one that is to be sent back. -/
def Rejection.IsOf (schema : Schema Result) (room : Nat) (rejection : Rejection)
    (answer : Answer) : Prop :=
  ComesAs answer rejection.reply ∧ Rejects schema room rejection.reply rejection.complaint

/-- An answer is a text, or the model fails or is late. -/
inductive IsPlain : Answer → Prop
  | text {answer : Answer} {reply : String} (comes : ComesAs answer reply) : IsPlain answer
  | failed {words : String} : IsPlain (.failed words)
  | late : IsPlain .late

/-- What a model does that has no answers left. -/
def silence : Answer :=
  .failed "no scripted reply"

/-- The course of a call that may send a number of replies back. The first answers are sent back, and
the next is the last if it is not to be sent back as well, or if that may not be done any more. -/
structure IsCourse (schema : Schema Result) (room retries : Nat) (answers : List Answer)
    (rejections : List Rejection) (final : Answer) : Prop where
  stands : ∃ before later, answers ++ [silence] = before ++ final :: later ∧
    List.Forall₂ (Rejection.IsOf schema room) rejections before
  within : rejections.length ≤ retries
  ends : rejections.length < retries → ∀ rejection, ¬ Rejection.IsOf schema room rejection final

/-- In all replies of a course there is room for the brackets that the search comes upon. -/
structure IsReadable (room : Nat) (rejections : List Rejection) (final : Answer) : Prop where
  rejected : ∀ rejection ∈ rejections, ¬ IsTooDeep room rejection.reply
  last : ∀ reply, ComesAs final reply → ¬ IsTooDeep room reply

/-- What a call comes to, by the answer it ends with. -/
inductive ComesTo (settings : Settings) (schema : Schema Result) (stage : String) :
    Answer → Except CallFailure Result → Prop
  | record {answer : Answer} {reply : String} {result : Result} (comes : ComesAs answer reply)
    (accepts : Accepts schema settings.room reply result) :
    ComesTo settings schema stage answer (.ok result)
  | misfit {answer : Answer} {rejection : Rejection}
    (isOf : rejection.IsOf schema settings.room answer) :
    ComesTo settings schema stage answer
      (.error (.misfit stage schema.title rejection.complaint rejection.reply))
  | failed {words : String} :
    ComesTo settings schema stage (.failed words) (.error (.failed stage words))
  | late : ComesTo settings schema stage .late (.error (.late stage settings.timeout))

section Replies

variable {schema : Schema Result} {room : Nat} {reply : String}

theorem IsUnscored.isStage (isUnscored : IsUnscored schema) : IsStage schema := by
  cases isUnscored with
  | triage => exact .triage
  | technical => exact .technical
  | draft => exact .draft
  | critique => exact .critique

theorem IsUnscored.finishes (isUnscored : IsUnscored schema) : Finishes schema.check := by
  cases isUnscored with
  | triage => exact Triage.finishes_check
  | technical => exact TechnicalAnalysis.finishes_check
  | draft => exact Draft.finishes_check
  | critique => exact Critique.finishes_check

theorem reading_eq_unfit_iff {complaint : Complaint} :
    reading schema room reply = .unfit complaint ↔
      Rejects schema room reply complaint ∧ ¬ IsTooDeep room reply := by
  unfold IsTooDeep
  constructor
  · intro reads
    unfold reading at reads
    split at reads
    · cases reads
    · next isShallow fails =>
      cases reads
      refine ⟨.noObject fails, ?_⟩
      rintro ⟨bracket, isDeep⟩
      rw [fails] at isDeep
      cases isDeep
      exact isShallow bracket rfl
    · next found =>
      have isShallow : ¬ ∃ bracket, Reply.object room reply = .error (.tooDeep bracket) := by
        rw [found]
        nofun
      split at reads
      · cases reads
      · next fails =>
        cases reads
        exact ⟨.misfit found fails, isShallow⟩
      · cases reads
  · rintro ⟨⟨fails⟩ | ⟨found, fails⟩, isShallow⟩
    · unfold reading
      rw [fails] at isShallow ⊢
      split
      · next same => exact absurd ⟨_, congrArg _ (Except.error.inj same)⟩ isShallow
      · next same =>
        cases same
        rfl
      · next same => cases same
    · unfold reading
      rw [found]
      dsimp only
      rw [fails]

theorem ComesAs.unique {answer : Answer} {other : String} (comes : ComesAs answer reply)
    (isAlso : ComesAs answer other) : reply = other := by
  have came := (heard_eq_ok_iff {} "").mpr comes
  rw [(heard_eq_ok_iff {} "").mpr isAlso] at came
  cases came
  rfl

end Replies

section Course

variable {schema : Schema Result} {room retries : Nat} {answers : List Answer}
  {rejections : List Rejection} {rejection : Rejection} {final : Answer}

/-- A course without rejections ends with the first answer. -/
theorem IsCourse.nil (course : IsCourse schema room retries answers [] final) :
    ∃ rest, answers ++ [silence] = final :: rest := by
  obtain ⟨before, later, order, sentBack⟩ := course.stands
  cases sentBack
  exact ⟨later, order⟩

/-- A course goes on after its first rejection with one attempt less. -/
theorem IsCourse.cons
    (course : IsCourse schema room retries answers (rejection :: rejections) final) :
    ∃ answer later fewer, answers = answer :: later ∧ retries = fewer + 1 ∧
      rejection.IsOf schema room answer ∧ IsCourse schema room fewer later rejections final := by
  obtain ⟨⟨before, rest, order, sentBack⟩, within, ends⟩ := course
  cases sentBack with
  | cons isOf others =>
    next answer before =>
    rw [List.length_cons] at within ends
    have fewer : retries = (retries - 1) + 1 := by omega
    cases answers with
    | nil =>
      obtain ⟨-, isEmpty⟩ := List.cons.inj order
      exact absurd isEmpty.symm (List.append_ne_nil_of_right_ne_nil _ (List.cons_ne_nil _ _))
    | cons first later =>
      obtain ⟨rfl, follows⟩ := List.cons.inj order
      exact ⟨first, later, retries - 1, rfl, fewer, isOf, ⟨before, rest, follows, others⟩,
        by omega, fun few => ends (by omega)⟩

/-- A course with a reply that there is no room for strays, by induction on the replies before. -/
theorem IsCourse.strays (course : IsCourse schema room retries answers rejections final)
    (isDeep : ¬ IsReadable room rejections final) : Strays schema room retries answers := by
  induction rejections generalizing retries answers with
  | nil =>
    obtain ⟨reply, comes, tooDeep⟩ : ∃ reply, ComesAs final reply ∧ IsTooDeep room reply := by
      by_contra none
      exact isDeep ⟨nofun, fun reply comes tooDeep => none ⟨reply, comes, tooDeep⟩⟩
    obtain ⟨rest, order⟩ := course.nil
    cases answers with
    | nil =>
      obtain ⟨rfl, -⟩ := List.cons.inj order
      obtain ⟨_, ⟨⟩, _⟩ := comes
    | cons first later =>
      obtain ⟨rfl, -⟩ := List.cons.inj order
      exact .now (.deep comes tooDeep)
  | cons rejection others inductionHypothesis =>
    obtain ⟨answer, later, fewer, rfl, rfl, ⟨comes, rejects⟩, goesOn⟩ := course.cons
    by_cases tooDeep : IsTooDeep room rejection.reply
    · exact .now (.deep comes tooDeep)
    · have unfit : IsUnfit schema room answer :=
        ⟨_, comes, reading_unfit_iff.mp ⟨_, reading_eq_unfit_iff.mpr ⟨rejects, tooDeep⟩⟩⟩
      refine .later unfit (inductionHypothesis goesOn fun readable => isDeep ⟨?_, readable.last⟩)
      rintro other (_ | ⟨_, among⟩)
      · exact tooDeep
      · exact readable.rejected other among

end Course

/-! ### Attempts -/

/-- A conversation that goes on after replies were sent back. -/
def conversation (messages : List Message) (rejections : List Rejection) : List Message :=
  messages ++ rejections.flatMap fun rejection =>
    [.reply rejection.reply, .correction rejection.complaint]

theorem conversation_cons (messages : List Message) (rejection : Rejection)
    (rejections : List Rejection) :
    conversation messages (rejection :: rejections) =
      conversation (messages ++ [.reply rejection.reply, .correction rejection.complaint])
        rejections := by
  rw [conversation, conversation, List.flatMap_cons, List.append_assoc]

/-- What the journal says of a failure. -/
def CallFailure.complaint : CallFailure → Complaint
  | misfit _ _ complaint _ => complaint
  | reason => .given (.string (reason.message fun title _ => title))

/-- What is written into the entry of a call that has come to something. -/
def closing (schema : Schema Result) (retries : Nat) : Except CallFailure Result → List Change
  | .ok result => endOfSuccess (schema.toJson result) retries
  | .error reason => endOfFailure reason.complaint retries

section Attempts

variable {settings : Settings} {schema : Schema Result} {stage : String} {entry : Option Entry}
  {left attempt : Nat} {messages : List Message} {scene : Scene Desk} {answer : Answer}
  {rest : List Answer}

/-- What attempts leave of a desk: the answers that they did not hear, and the conversations that they
had. -/
structure Leaves (messages : List Message) (rejections : List Rejection) (desk last : Desk) :
    Prop where
  answers : last.answers = desk.answers.drop (rejections.length + 1)
  asked : last.asked = desk.asked ++ rejections.inits.map (conversation messages)

/-- An attempt whose reply is sent back, and the attempts after it. -/
theorem Leaves.cons {rejection : Rejection} {others : List Rejection} {desk middle last : Desk}
    (one : Leaves messages [] desk middle)
    (leaves : Leaves (messages ++ [.reply rejection.reply, .correction rejection.complaint]) others
      middle last) : Leaves messages (rejection :: others) desk last := by
  refine ⟨?_, ?_⟩
  · rw [leaves.answers, one.answers, List.drop_drop, List.length_nil, List.length_cons]
    exact congrArg (desk.answers.drop ·) (by omega)
  · have conversations : others.inits.map (conversation messages ∘ (rejection :: ·)) =
        others.inits.map (conversation
          (messages ++ [.reply rejection.reply, .correction rejection.complaint])) :=
      List.map_congr_left fun sent _ => conversation_cons messages rejection sent
    rw [leaves.asked, one.asked, List.inits_cons, List.map_cons, List.map_map]
    exact (List.append_assoc _ _ _).trans (congrArg (desk.asked ++ _ :: ·) conversations.symm)

end Attempts

/-! ### Calls -/

section Calls

variable {settings : Settings} {schema : Schema Result} {request : Request} {scene : Scene Desk}

/-- The entry of a call that sent so many replies back and has come to something. -/
structure IsEntryOf (settings : Settings) (schema : Schema Result) (request : Request) (desk : Desk)
    (retries : Nat) (outcome : Except CallFailure Result) (entry : Entry) : Prop where
  id : entry.id = desk.issue.1
  stage : entry.stage = request.stage
  model : entry.model = settings.model
  prompt : entry.prompt = request.prompt
  session : request.session.isEmpty = false → entry.session = request.session
  metadata : entry.metadata =
    .object (Entries.put request.metadata "schema" (.string schema.title))
  retries : entry.retries = .int retries
  ends : match outcome with
    | .ok result => entry.status = .string "completed" ∧ entry.success = .bool true ∧
        entry.response = schema.toJson result ∧ entry.error = .given .null
    | .error reason => entry.status = .string "failed" ∧ entry.success = .bool false ∧
        entry.response = .null ∧ entry.error = reason.complaint

/-- Calls are recorded at a desk. -/
def IsRecorded (settings : Settings) (desk : Desk) : Prop :=
  settings.isJournaled = true ∧ desk.journal.isKept = true

/-- A call takes a course of the answers. The replies before the last answer are sent back, and the
last answer is what the call comes to. It has one conversation for each answer. If calls are recorded,
the journal has one entry more, which says what the call has come to and how many replies were sent
back. -/
def Follows (settings : Settings) (schema : Schema Result) (request : Request) (scene : Scene Desk)
    (rejections : List Rejection) (final : Answer) : Prop :=
  ∃ outcome last, (call settings schema request).run scene = (outcome, last) ∧
    ComesTo settings schema request.stage final outcome ∧
    Leaves request.messages rejections scene.world last.world ∧
    (IsRecorded settings scene.world →
      ∃ entry, IsEntryOf settings schema request scene.world rejections.length outcome entry ∧
        last.world.journal = scene.world.journal.save entry ∧
        ((∀ old ∈ scene.world.journal.entries, old.id ≠ entry.id) →
          scene.world.journal.HasRoom →
          last.world.journal.entries.countP (·.id == entry.id) = 1)) ∧
    (¬ IsRecorded settings scene.world → last.world.journal = scene.world.journal)

section Following

variable {rejections : List Rejection} {final : Answer} (isUnscored : IsUnscored schema)
  (course : IsCourse schema settings.room settings.retries.toNat scene.world.answers rejections
    final)

include isUnscored course

end Following

end Calls

/-! ### A reply that is sent back once -/

end MoveAudit.Reasoning
