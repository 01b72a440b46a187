/-
This file says how a question to a node can end. A question promises the result of the first
response that gives one, or the refusal of its last attempt, and it is put no more often than it may
be. What a delivery comes to is decided by the delivery alone, and by induction on the attempts that
are left a question keeps the promise exactly if the first delivery that is no refusal gives a
result. The only response that is neither is one that succeeded and whose body is no object.
-/

import MoveAudit.Chain.Call
import MoveAudit.Proofs.Act

namespace MoveAudit.Chain

open Json

/-! ### What a delivery comes to -/

/-- The result that a delivery gives: that of a response that succeeded, if its body is an object
without an error. -/
def given? : Delivery → Option Value
  | .response 200 (.value (.object members)) =>
    if ((Value.object members).part "error").isFull then none
    else some ((Value.object members).part "result")
  | _ => none

/-- No step can be taken on a delivery: the body of a response that succeeded is a value but no
object, or nothing comes back at all. -/
inductive Breaks : Delivery → Prop
  | body {value : Value} (isOdd : value.members? = none) : Breaks (.response 200 (.value value))
  | nothing : Breaks .exhausted

/-- The first delivery that is no refusal breaks a question. -/
inductive Strays : List Delivery → Prop
  | now {delivery : Delivery} {later : List Delivery} (breaks : Breaks delivery) :
    Strays (delivery :: later)
  | later {delivery : Delivery} {later : List Delivery} (isUngiven : given? delivery = none)
    (bears : ¬ Breaks delivery) (strays : Strays later) : Strays (delivery :: later)

/-- A failure that no question promises. -/
def Failure.IsUnpromised : Failure → Prop
  | refused .. => False
  | _ => True

theorem not_breaks_of_given? {delivery : Delivery} {value : Value}
    (gives : given? delivery = some value) : ¬ Breaks delivery := by
  rintro (⟨isOdd⟩ | _)
  · rename_i odd
    cases odd with
    | object members => cases isOdd
    | _ => cases gives
  · cases gives

theorem given?_of_status_ne {status : Int} (failed : status ≠ 200) (body : Body) :
    given? (.response status body) = none ∧ ¬ Breaks (.response status body) := by
  refine ⟨?_, fun breaks => ?_⟩
  · unfold given?
    split
    · rename_i same
      cases same
      exact absurd rfl failed
    · rfl
  · cases breaks
    exact failed rfl

/-- A delivery gives a result, is a refusal, or breaks a question. -/
theorem outcomeOf_cases (delivery : Delivery) :
    (∃ value, given? delivery = some value ∧ outcomeOf delivery = .ok (.ok value)) ∨
      (∃ refusal, given? delivery = none ∧ ¬ Breaks delivery ∧
        outcomeOf delivery = .ok (.error refusal)) ∨
      ∃ failure, Breaks delivery ∧ outcomeOf delivery = .error failure ∧ failure.IsUnpromised := by
  cases delivery with
  | failed words => exact .inr (.inl ⟨.failed words, rfl, nofun, rfl⟩)
  | late => exact .inr (.inl ⟨.late, rfl, nofun, rfl⟩)
  | exhausted => exact .inr (.inr ⟨.exhausted, .nothing, rfl, trivial⟩)
  | response status body =>
    by_cases succeeded : status = 200
    · subst succeeded
      cases body with
      | undecodable words => exact .inr (.inl ⟨.undecodable words, rfl, nofun, rfl⟩)
      | value value =>
        cases value with
        | object members =>
          have read : outcomeOf (.response 200 (.value (.object members))) =
              .ok (if ((Value.object members).part "error").isFull
                then .error (.error ((Value.object members).part "error"))
                else .ok ((Value.object members).part "result")) := by
            show (resultOf (.object members)).mapError Failure.shape = _
            show Except.mapError _
              (if ((Value.object members).part "error").isFull then _ else _) = _
            split <;> rfl
          by_cases isError : ((Value.object members).part "error").isFull = true
          · rw [if_pos isError] at read
            have bears : ¬ Breaks (.response 200 (.value (.object members))) := by
              rintro ⟨isOdd⟩
              cases isOdd
            exact .inr (.inl ⟨_, if_pos isError, bears, read⟩)
          · rw [if_neg isError] at read
            exact .inl ⟨_, if_neg isError, read⟩
        | _ => exact .inr (.inr ⟨.shape .notObject, .body rfl, rfl, trivial⟩)
    · obtain ⟨isUngiven, bears⟩ := given?_of_status_ne succeeded body
      exact .inr (.inl ⟨.status status, isUngiven, bears, if_pos succeeded⟩)

/-! ### Attempts -/

/-- What a node delivers when a question is put a number of times. -/
def Node.coming (method : String) (params : Value) : Nat → Node → List Delivery
  | 0, _ => []
  | times + 1, node =>
    (node.answer method params).1 :: coming method params times (node.answer method params).2

/-- What a question promises on the deliveries that its attempts may bring, with the number of times
that it is put: the result of the first delivery that gives one, or, when none does, a refusal after
the last. -/
inductive Ends (method : String) (coming : List Delivery) : Except Failure Value → Nat → Prop
  | result (before : List Delivery) {later : List Delivery} {delivery : Delivery} {value : Value}
    (order : coming = before ++ delivery :: later) (ungiven : ∀ other ∈ before, given? other = none)
    (gives : given? delivery = some value) : Ends method coming (.ok value) (before.length + 1)
  | refusal (refusal : Refusal) (ungiven : ∀ delivery ∈ coming, given? delivery = none) :
    Ends method coming (.error (.refused method refusal)) coming.length

/-- What attempts come to on the deliveries that they may bring: they end as promised, unless the
first delivery that is no refusal breaks them. -/
def Settles (method : String) (question : String × Value) (coming : List Delivery)
    (sent : List (String × Value)) (came : Except Failure Value × Scene Line) : Prop :=
  ∃ posts, came.2.world.sent = sent ++ List.replicate posts question ∧ posts ≤ coming.length ∧
    (¬ Strays coming ∧ Ends method coming came.1 posts ∨
      Strays coming ∧ ∃ failure, came.1 = .error failure ∧ failure.IsUnpromised)

section Settling

variable {method : String} {question : String × Value} {delivery : Delivery}
  {later : List Delivery} {sent : List (String × Value)}

theorem strays_cons_iff (isUngiven : given? delivery = none) (bears : ¬ Breaks delivery) :
    Strays (delivery :: later) ↔ Strays later := by
  constructor
  · rintro (breaks | ⟨_, _, strays⟩)
    · exact absurd breaks bears
    · exact strays
  · exact .later isUngiven bears

theorem Ends.cons (isUngiven : given? delivery = none) {outcome : Except Failure Value}
    {posts : Nat} (ends : Ends method later outcome posts) :
    Ends method (delivery :: later) outcome (posts + 1) := by
  cases ends with
  | result before order ungiven gives =>
    exact .result (delivery :: before) (congrArg (delivery :: ·) order)
      (List.forall_mem_cons.mpr ⟨isUngiven, ungiven⟩) gives
  | refusal refusal ungiven =>
    exact .refusal refusal (List.forall_mem_cons.mpr ⟨isUngiven, ungiven⟩)

theorem Settles.of_given? {value : Value} (gives : given? delivery = some value)
    {last : Scene Line} (isSent : last.world.sent = sent ++ [question]) :
    Settles method question (delivery :: later) sent (.ok value, last) := by
  refine ⟨1, isSent, Nat.le_add_left 1 _, .inl ⟨?_, .result [] rfl nofun gives⟩⟩
  rintro (breaks | ⟨isUngiven, _, _⟩)
  · exact not_breaks_of_given? gives breaks
  · cases gives.symm.trans isUngiven

theorem Settles.of_breaks (breaks : Breaks delivery) {failure : Failure}
    (isUnpromised : failure.IsUnpromised) {last : Scene Line}
    (isSent : last.world.sent = sent ++ [question]) :
    Settles method question (delivery :: later) sent (.error failure, last) :=
  ⟨1, isSent, Nat.le_add_left 1 _, .inr ⟨.now breaks, failure, rfl, isUnpromised⟩⟩

theorem Settles.of_refusal (isUngiven : given? delivery = none) (bears : ¬ Breaks delivery)
    (refusal : Refusal) {last : Scene Line} (isSent : last.world.sent = sent ++ [question]) :
    Settles method question [delivery] sent (.error (.refused method refusal), last) := by
  refine ⟨1, isSent, Nat.le_refl 1, .inl ⟨?_, ?_⟩⟩
  · rw [strays_cons_iff isUngiven bears]
    rintro ⟨⟩
  · exact .refusal refusal (List.forall_mem_singleton.mpr isUngiven)

theorem Settles.cons (isUngiven : given? delivery = none) (bears : ¬ Breaks delivery)
    {came : Except Failure Value × Scene Line}
    (settles : Settles method question later (sent ++ [question]) came) :
    Settles method question (delivery :: later) sent came := by
  obtain ⟨posts, isSent, few, ends⟩ := settles
  refine ⟨posts + 1, ?_, Nat.succ_le_succ few, ?_⟩
  · rw [isSent, List.append_assoc, List.replicate_succ]
    rfl
  · rw [strays_cons_iff isUngiven bears]
    exact ends.imp_left fun kept => ⟨kept.1, kept.2.cons isUngiven⟩

end Settling

section Attempts

variable {policy : Policy} {method : String} {params : Value} {number left attempt : Nat}
  {scene : Scene Line}

/-- The scene after a question was put once. -/
def posted (method : String) (params : Value) (number : Nat) (scene : Scene Line) : Scene Line :=
  { scene with world := (scene.world.post method params number).2 }

theorem sent_posted : (posted method params number scene).world.sent =
    scene.world.sent ++ [(method, Line.payload method params number)] := rfl

/-- The delivery that a question brings when it is put. -/
def delivered (method : String) (params : Value) (scene : Scene Line) : Delivery :=
  (scene.world.node.answer method params).1

theorem run_post :
    (Act.take (Line.post method params number) : Act Line Failure Delivery).run scene =
      (.ok (delivered method params scene), posted method params number scene) := rfl

theorem run_attemptsFrom_result {value : Value}
    (comes : outcomeOf (delivered method params scene) = .ok (.ok value)) :
    (attemptsFrom policy method params number left attempt).run scene =
      (.ok value, posted method params number scene) := by
  unfold attemptsFrom
  rw [Act.run_bind_ok _ run_post, comes]
  rfl

theorem run_attemptsFrom_failure {failure : Failure}
    (comes : outcomeOf (delivered method params scene) = .error failure) :
    (attemptsFrom policy method params number left attempt).run scene =
      (.error failure, posted method params number scene) := by
  unfold attemptsFrom
  rw [Act.run_bind_ok _ run_post, comes]
  rfl

theorem run_attemptsFrom_last {refusal : Refusal}
    (comes : outcomeOf (delivered method params scene) = .ok (.error refusal)) :
    ∃ notices, (attemptsFrom policy method params number 0 attempt).run scene =
      (.error (.refused method refusal), ⟨(posted method params number scene).world, notices⟩) := by
  unfold attemptsFrom
  rw [Act.run_bind_ok _ run_post, comes]
  exact ⟨_, rfl⟩

/-- A refusal that is not the last is followed by a rest and a further attempt. -/
theorem run_attemptsFrom_again {refusal : Refusal}
    (comes : outcomeOf (delivered method params scene) = .ok (.error refusal)) :
    ∃ next : Scene Line, next.world.node = (scene.world.node.answer method params).2 ∧
      next.world.sent = (posted method params number scene).world.sent ∧
      (attemptsFrom policy method params number (left + 1) attempt).run scene =
        (attemptsFrom policy method params number left (attempt + 1)).run next := by
  refine ⟨⟨Line.rest (policy.delay.mul (.ofInt (attempt + 1)))
    (posted method params number scene).world,
    scene.notices ++ [policy.retryNotice method attempt refusal]⟩, rfl, rfl, ?_⟩
  conv =>
    lhs
    unfold attemptsFrom
  rw [Act.run_bind_ok _ run_post, comes]
  rfl

/-- A delivery that is no refusal settles the attempts, however many are left. -/
theorem refused_or_settles (later : List Delivery) :
    (∃ refusal, given? (delivered method params scene) = none ∧
        ¬ Breaks (delivered method params scene) ∧
        outcomeOf (delivered method params scene) = .ok (.error refusal)) ∨
      Settles method (method, Line.payload method params number)
        (delivered method params scene :: later) scene.world.sent
        ((attemptsFrom policy method params number left attempt).run scene) := by
  rcases outcomeOf_cases (delivered method params scene) with
    ⟨value, gives, comes⟩ | refused | ⟨failure, breaks, comes, isUnpromised⟩
  · rw [run_attemptsFrom_result comes]
    exact .inr (.of_given? gives sent_posted)
  · exact .inl refused
  · rw [run_attemptsFrom_failure comes]
    exact .inr (.of_breaks breaks isUnpromised sent_posted)

/-- Attempts settle on what the node delivers. -/
theorem settles_attemptsFrom (policy : Policy) (method : String) (params : Value)
    (number left attempt : Nat) (scene : Scene Line) :
    Settles method (method, Line.payload method params number)
      (scene.world.node.coming method params (left + 1)) scene.world.sent
      ((attemptsFrom policy method params number left attempt).run scene) := by
  induction left generalizing attempt scene with
  | zero =>
    refine (refused_or_settles []).elim (fun ⟨refusal, isUngiven, bears, comes⟩ => ?_) id
    obtain ⟨notices, ran⟩ := run_attemptsFrom_last comes
    rw [ran]
    exact .of_refusal isUngiven bears refusal sent_posted
  | succ left inductionHypothesis =>
    refine (refused_or_settles _).elim (fun ⟨refusal, isUngiven, bears, comes⟩ => ?_) id
    obtain ⟨next, isNode, isSent, ran⟩ := run_attemptsFrom_again comes
    rw [ran]
    refine .cons isUngiven bears ?_
    have settles := inductionHypothesis (attempt + 1) next
    rw [isNode, isSent] at settles
    exact settles

end Attempts

/-! ### Questions -/

section Questions

variable {policy : Policy} {method : String} {params : Value} {isRepeated : Bool}
  {scene : Scene Line}

/-- How often a question may be put. -/
def Policy.allowed (policy : Policy) (isRepeated : Bool) : Nat :=
  if isRepeated then (max 1 policy.attempts).toNat else 1

theorem Policy.allowed_eq (policy : Policy) (isRepeated : Bool) :
    policy.allowed isRepeated = policy.further isRepeated + 1 := by
  unfold allowed further
  split
  · omega
  · rfl

/-- The parameters that go with a question; an empty list when they count as empty. -/
def sentParams (params : Value) : Value :=
  if params.isFull then params else .array []

/-- A question as it goes over a line next. -/
def nextQuestion (method : String) (params : Value) (scene : Scene Line) : String × Value :=
  (method, Line.payload method (sentParams params) (scene.world.lastNumber + 1))

/-- What the node on a line delivers if a question is put as often as it may be. -/
def comingTo (policy : Policy) (method : String) (params : Value) (isRepeated : Bool)
    (scene : Scene Line) : List Delivery :=
  scene.world.node.coming method (sentParams params) (policy.allowed isRepeated)

theorem length_coming (times : Nat) (node : Node) :
    (node.coming method params times).length = times := by
  induction times generalizing node with
  | zero => rfl
  | succ times inductionHypothesis => exact congrArg (· + 1) (inductionHypothesis _)

theorem settles_call : Settles method (nextQuestion method params scene)
    (comingTo policy method params isRepeated scene) scene.world.sent
    ((call policy method params isRepeated).run scene) := by
  have issued : (Act.take Line.issue : Act Line Failure Nat).run scene =
      (.ok (scene.world.lastNumber + 1), { scene with world := scene.world.issue.2 }) := rfl
  unfold call comingTo
  rw [Act.run_bind_ok _ issued, Policy.allowed_eq]
  exact settles_attemptsFrom policy method (sentParams params) (scene.world.lastNumber + 1)
    (policy.further isRepeated) 0 { scene with world := scene.world.issue.2 }

/-- A question ends as it promises: it is put no more often than it may be, and comes to the result
of the first delivery that gives one, right after which it stops, or to a refusal after the last. -/
def CallEndsAsPromised (policy : Policy) (method : String) (params : Value) (isRepeated : Bool)
    (scene : Scene Line) : Prop :=
  ∃ outcome last posts, (call policy method params isRepeated).run scene = (outcome, last) ∧
    last.world.sent = scene.world.sent ++
      List.replicate posts (nextQuestion method params scene) ∧
    posts ≤ policy.allowed isRepeated ∧
    Ends method (comingTo policy method params isRepeated scene) outcome posts

/-- A question breaks off with a failure that it does not promise. -/
def CallBreaksOff (policy : Policy) (method : String) (params : Value) (isRepeated : Bool)
    (scene : Scene Line) : Prop :=
  ∃ failure last posts, (call policy method params isRepeated).run scene = (.error failure, last) ∧
    failure.IsUnpromised ∧
    last.world.sent = scene.world.sent ++
      List.replicate posts (nextQuestion method params scene) ∧
    posts ≤ policy.allowed isRepeated

/-- Whatever is asked and whatever the node delivers, a question ends as it promises, unless the
first delivery that is no refusal is one that no step can be taken on; then it breaks off. -/
theorem call_ends_as_promised_iff (policy : Policy) (method : String) (params : Value)
    (isRepeated : Bool) (scene : Scene Line) :
    (CallEndsAsPromised policy method params isRepeated scene ↔
      ¬ Strays (comingTo policy method params isRepeated scene)) ∧
    (Strays (comingTo policy method params isRepeated scene) →
      CallBreaksOff policy method params isRepeated scene) := by
  have settles := @settles_call policy method params isRepeated scene
  cases ran : (call policy method params isRepeated).run scene with
  | mk outcome last =>
    rw [ran] at settles
    obtain ⟨posts, isSent, few, ends⟩ := settles
    have allowed : posts ≤ policy.allowed isRepeated := by
      rw [comingTo, length_coming] at few
      exact few
    rcases ends with ⟨keeps, ends⟩ | ⟨strays, failure, rfl, isUnpromised⟩
    · exact ⟨iff_of_true ⟨outcome, last, posts, ran, isSent, allowed, ends⟩ keeps,
        fun strays => absurd strays keeps⟩
    · refine ⟨iff_of_false ?_ (not_not_intro strays), fun _ =>
        ⟨failure, last, posts, ran, isUnpromised, isSent, allowed⟩⟩
      rintro ⟨other, otherLast, otherPosts, ranToo, _, _, ends⟩
      rw [ran] at ranToo
      cases ranToo
      cases ends
      exact isUnpromised

/-- A line on which the body of the first response is null and the second would give a result. -/
def nullLine : Scene Line :=
  ⟨{ node := .script [.response 200 (.value .null),
      .response 200 (.value (.object [("jsonrpc", .string "2.0"), ("result", .int 1)]))] }, []⟩

/-- A question is not put again after a response whose body is null, and comes to no failure that it
promises. -/
theorem null_body_breaks_promise :
    ¬ CallEndsAsPromised {} "m" (.array [.int 1, .string "a"]) true nullLine :=
  fun ends => (call_ends_as_promised_iff _ _ _ _ _).1.mp ends (.now (.body rfl))

end Questions

end MoveAudit.Chain
