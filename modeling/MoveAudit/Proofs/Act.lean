/-
This file says how a course of action runs that is put together from others. A course that goes on
with a result runs the first part, and then the second from where the first left the world; a
failure of the first part is the failure of the whole, and the second part is never begun. All that
is shown about longer courses is shown by these equations. What is true of a world stays true of it
as long as every part of a course keeps it so, and a course comes to something as long as every part
does where the one before has left the world. What is true of all that one part can come to may be
made use of in the next.
-/

import Mathlib.Data.List.Forall2
import MoveAudit.Act

namespace MoveAudit.Act

variable {World Part Failure Other Result Next : Type}

/-- A course goes on from where its first part left the world. -/
theorem run_bind_ok {action : Act World Failure Result} {scene left : Scene World}
    {result : Result} (next : Result → Act World Failure Next)
    (ran : action.run scene = (.ok result, left)) :
    (action >>= next).run scene = (next result).run left := by
  show (ExceptT.bindCont next (action.run scene).1) (action.run scene).2 = _
  rw [ran]
  rfl

/-- A course ends where its first part fails. -/
theorem run_bind_error {action : Act World Failure Result} {scene left : Scene World}
    {failure : Failure} (next : Result → Act World Failure Next)
    (ran : action.run scene = (.error failure, left)) :
    (action >>= next).run scene = (.error failure, left) := by
  show (ExceptT.bindCont next (action.run scene).1) (action.run scene).2 = _
  rw [ran]
  rfl

/-- A course that comes to something has come to something in its first part. -/
theorem exists_of_run_bind {action : Act World Failure Result}
    {next : Result → Act World Failure Next} {scene last : Scene World} {outcome : Next}
    (ran : (action >>= next).run scene = (.ok outcome, last)) :
    ∃ result left, action.run scene = (.ok result, left) ∧
      (next result).run left = (.ok outcome, last) := by
  cases first : action.run scene with
  | mk answer left =>
    cases answer with
    | ok result => exact ⟨result, left, rfl, (run_bind_ok next first).symm.trans ran⟩
    | error failure => cases (run_bind_error next first).symm.trans ran

/-- Looking at the world gives the world and changes nothing. -/
theorem run_look_bind (next : World → Act World Failure Next) (scene : Scene World) :
    (look >>= next).run scene = (next scene.world).run scene := rfl

/-- A course whose failure is a result runs as it did. -/
theorem run_settle {action : Act World Failure Result} {scene left : Scene World}
    {outcome : Except Failure Result} (ran : action.run scene = (outcome, left)) :
    (action.settle : Act World Other (Except Failure Result)).run scene = (.ok outcome, left) := by
  show (Except.ok (action.run scene).1, (action.run scene).2) = _
  rw [ran]

theorem run_relabel (rename : Failure → Other) {action : Act World Failure Result}
    {scene left : Scene World} {outcome : Except Failure Result}
    (ran : action.run scene = (outcome, left)) :
    (action.relabel rename).run scene = (outcome.mapError rename, left) := by
  show ((action.run scene).1.mapError rename, (action.run scene).2) = _
  rw [ran]

theorem run_of_relabel {rename : Failure → Other} {action : Act World Failure Result}
    {scene left : Scene World} {result : Result}
    (ran : (action.relabel rename).run scene = (.ok result, left)) :
    action.run scene = (.ok result, left) := by
  cases first : action.run scene with
  | mk answer last =>
    rw [run_relabel rename first] at ran
    cases answer with
    | ok given =>
      cases ran
      rfl
    | error failure => cases ran

/-- Notices on the items of a list are left in order, and nothing else is done. -/
theorem run_notes {Item : Type} (items : List Item) (notice : Item → Notice)
    (scene : Scene World) :
    (forIn items PUnit.unit fun item _ => do
        note (notice item)
        pure (.yield PUnit.unit) : Act World Failure PUnit).run scene =
      (.ok PUnit.unit, { scene with notices := scene.notices ++ items.map notice }) := by
  induction items generalizing scene with
  | nil => simp only [List.map_nil, List.append_nil]; rfl
  | cons item rest inductionHypothesis =>
    rw [List.forIn_cons]
    refine Eq.trans (inductionHypothesis _) ?_
    simp only [List.map_cons, List.append_assoc, List.singleton_append]

/-- A course on each item of a list, each of which comes to something and leaves the scene as it
is. -/
theorem run_mapM {Item : Type} {course : Item → Act World Failure Result} {result : Item → Result}
    {scene : Scene World} (items : List Item)
    (ran : ∀ item ∈ items, (course item).run scene = (.ok (result item), scene)) :
    (items.mapM course).run scene = (.ok (items.map result), scene) := by
  induction items with
  | nil => rfl
  | cons item rest inductionHypothesis =>
    rw [List.mapM_cons, run_bind_ok _ (ran item List.mem_cons_self),
      run_bind_ok _ (inductionHypothesis fun other member =>
        ran other (List.mem_cons_of_mem _ member))]
    rfl

/-- A course on each item of a list, each of which comes to something wherever a condition is met,
and leaves it met. -/
theorem run_mapM_of {Item : Type} {course : Item → Act World Failure Result}
    {result : Item → Result} {condition : Scene World → Prop}
    (ran : ∀ item scene, condition scene →
      ∃ left, (course item).run scene = (.ok (result item), left) ∧ condition left)
    (items : List Item) {scene : Scene World} (isMet : condition scene) :
    ∃ left, (items.mapM course).run scene = (.ok (items.map result), left) ∧ condition left := by
  induction items generalizing scene with
  | nil => exact ⟨scene, rfl, isMet⟩
  | cons item rest inductionHypothesis =>
    obtain ⟨between, first, stillMet⟩ := ran item scene isMet
    obtain ⟨left, others, metAtLast⟩ := inductionHypothesis stillMet
    refine ⟨left, ?_, metAtLast⟩
    rw [List.mapM_cons, run_bind_ok _ first, run_bind_ok _ others]
    rfl

/-- A course on each item of a list comes to something if it does so on any item, however the items
before it left the scene. -/
theorem exists_run_mapM {Item : Type} {course : Item → Act World Failure Result}
    (comes : ∀ item scene, ∃ result left, (course item).run scene = (.ok result, left))
    (items : List Item) (scene : Scene World) :
    ∃ results left, (items.mapM course).run scene = (.ok results, left) := by
  induction items generalizing scene with
  | nil => exact ⟨[], scene, rfl⟩
  | cons item rest inductionHypothesis =>
    obtain ⟨result, left, first⟩ := comes item scene
    obtain ⟨results, last, others⟩ := inductionHypothesis left
    refine ⟨result :: results, last, ?_⟩
    rw [List.mapM_cons, run_bind_ok _ first, run_bind_ok _ others]
    rfl

/-- A course on each item of a list that comes to something has come to something on each. -/
theorem exists_of_run_mapM {Item : Type} {course : Item → Act World Failure Result}
    {items : List Item} {scene last : Scene World} {results : List Result}
    (ran : (items.mapM course).run scene = (.ok results, last)) :
    ∀ item ∈ items, ∃ result before left, (course item).run before = (.ok result, left) := by
  induction items generalizing scene last results with
  | nil => exact nofun
  | cons item rest inductionHypothesis =>
    rw [List.mapM_cons] at ran
    obtain ⟨result, between, first, goesOn⟩ := exists_of_run_bind ran
    obtain ⟨others, left, later, -⟩ := exists_of_run_bind goesOn
    exact List.forall_mem_cons.mpr ⟨⟨result, scene, between, first⟩, inductionHypothesis later⟩

/-! ### What a course keeps and brings about -/

/-- A course keeps what is true of the world. -/
def Keeps (invariant : World → Prop) (action : Act World Failure Result) : Prop :=
  ∀ scene, invariant scene.world → invariant (action.run scene).2.world

/-- A course brings something about in a world in which something else is true, whether it succeeds
or fails. -/
def Brings (before after : World → Prop) (action : Act World Failure Result) : Prop :=
  ∀ scene, before scene.world → after (action.run scene).2.world

theorem Brings.bind {before after : World → Prop} {action : Act World Failure Result}
    {next : Result → Act World Failure Next} (brings : action.Brings before after)
    (keeps : ∀ result, (next result).Keeps after) : (action >>= next).Brings before after := by
  intro scene holds
  have held := brings scene holds
  cases ran : action.run scene with
  | mk outcome left =>
    rw [ran] at held
    cases outcome with
    | ok result =>
      rw [run_bind_ok _ ran]
      exact keeps result left held
    | error failure =>
      rw [run_bind_error _ ran]
      exact held

namespace Keeps

variable {invariant : World → Prop}

theorem pure (result : Result) :
    Keeps invariant (Pure.pure result : Act World Failure Result) :=
  fun _ holds => holds

theorem throw (failure : Failure) :
    Keeps invariant (MonadExcept.throw failure : Act World Failure Result) :=
  fun _ holds => holds

theorem note (notice : Notice) : Keeps invariant (Act.note notice : Act World Failure Unit) :=
  fun _ holds => holds

theorem ofExcept (outcome : Except Failure Result) :
    Keeps invariant (Act.ofExcept outcome : Act World Failure Result) :=
  fun _ holds => holds

theorem notes {Item : Type} (items : List Item) (notice : Item → Notice) :
    Keeps invariant (forIn items PUnit.unit fun item _ => do
      Act.note (notice item)
      Pure.pure (.yield PUnit.unit) : Act World Failure PUnit) := by
  intro scene holds
  rw [run_notes]
  exact holds

variable {action : Act World Failure Result}

theorem relabel (rename : Failure → Other) (keeps : Keeps invariant action) :
    Keeps invariant (action.relabel rename) :=
  keeps

theorem settle (keeps : Keeps invariant action) :
    Keeps invariant (action.settle : Act World Other (Except Failure Result)) :=
  keeps

theorem bind {next : Result → Act World Failure Next} (keeps : Keeps invariant action)
    (goesOn : ∀ result, Keeps invariant (next result)) : Keeps invariant (action >>= next) :=
  Brings.bind keeps goesOn

theorem mapM {Item : Type} {course : Item → Act World Failure Result} (items : List Item)
    (keeps : ∀ item, Keeps invariant (course item)) : Keeps invariant (items.mapM course) := by
  induction items with
  | nil => exact .pure []
  | cons item rest inductionHypothesis =>
    rw [List.mapM_cons]
    exact .bind (keeps item) fun _ => .bind inductionHypothesis fun _ => .pure _

/-- A course on a part of the world keeps what it keeps of that part. -/
theorem within {part : World → Part} {put : Part → World → World} {kept : Part → Prop}
    {action : Act Part Failure Result} (keeps : Keeps kept action)
    (isPart : ∀ world, invariant world → kept (part world))
    (isWhole : ∀ world left, invariant world → kept left → invariant (put left world)) :
    Keeps invariant (action.within part put) :=
  fun scene holds => isWhole scene.world _ holds (keeps ⟨part scene.world, scene.notices⟩
    (isPart scene.world holds))

end Keeps

/-! ### What a course comes to -/

/-- A course comes to something in a world in which something is true, and then something is true
of what it comes to and of the world that it leaves. -/
def Yields (before : World → Prop) (after : Result → World → Prop)
    (action : Act World Failure Result) : Prop :=
  ∀ scene, before scene.world →
    ∃ result left, action.run scene = (.ok result, left) ∧ after result left.world

namespace Yields

variable {before : World → Prop} {after : Result → World → Prop}

theorem pure {result : Result} (holds : ∀ world, before world → after result world) :
    Yields before after (Pure.pure result : Act World Failure Result) :=
  fun scene stands => ⟨result, scene, rfl, holds scene.world stands⟩

theorem note (notice : Notice) :
    Yields before (fun _ => before) (Act.note notice : Act World Failure Unit) :=
  fun _ stands => ⟨(), _, rfl, stands⟩

/-- A course whose failure is a result comes to something, be it a failure. -/
theorem settle {action : Act World Failure Result} (keeps : Keeps before action) :
    Yields before (fun _ => before)
      (action.settle : Act World Other (Except Failure Result)) :=
  fun scene stands => ⟨_, _, run_settle rfl, keeps scene stands⟩

theorem bind {between : Result → World → Prop} {last : Next → World → Prop}
    {action : Act World Failure Result} {next : Result → Act World Failure Next}
    (yields : Yields before between action)
    (goesOn : ∀ result, Yields (between result) last (next result)) :
    Yields before last (action >>= next) := by
  intro scene stands
  obtain ⟨result, left, ran, holds⟩ := yields scene stands
  rw [run_bind_ok _ ran]
  exact goesOn result left holds

/-- What every step of a course over a list hands on to the next one is true after the last. -/
theorem foldlM {Item : Type} {holds : Result → World → Prop}
    {step : Result → Item → Act World Failure Result}
    (yields : ∀ result item, Yields (holds result) holds (step result item)) (items : List Item)
    (result : Result) : Yields (holds result) holds (items.foldlM step result) := by
  induction items generalizing result with
  | nil => exact .pure fun _ stands => stands
  | cons item rest inductionHypothesis =>
    rw [List.foldlM_cons]
    exact .bind (yields result item) inductionHypothesis

end Yields

/-! ### What is true of all that a course comes to -/

/-- Whatever a course comes to, if it does come to something, something is true of it. -/
def ComesTo (holds : Result → Prop) (action : Act World Failure Result) : Prop :=
  ∀ scene result left, action.run scene = (.ok result, left) → holds result

theorem Keeps.bind_of {invariant : World → Prop} {holds : Result → Prop}
    {action : Act World Failure Result} {next : Result → Act World Failure Next}
    (keeps : action.Keeps invariant) (comes : action.ComesTo holds)
    (goesOn : ∀ result, holds result → (next result).Keeps invariant) :
    (action >>= next).Keeps invariant := by
  intro scene stands
  have held := keeps scene stands
  cases ran : action.run scene with
  | mk outcome left =>
    rw [ran] at held
    cases outcome with
    | ok result =>
      rw [run_bind_ok _ ran]
      exact goesOn result (comes scene result left ran) left held
    | error failure =>
      rw [run_bind_error _ ran]
      exact held

namespace ComesTo

variable {holds : Result → Prop} {action : Act World Failure Result}

theorem pure {result : Result} (stands : holds result) :
    ComesTo holds (Pure.pure result : Act World Failure Result) := by
  intro scene came left ran
  cases ran
  exact stands

theorem ofExcept {outcome : Except Failure Result} (stands : ∀ result, outcome = .ok result →
    holds result) : ComesTo holds (Act.ofExcept outcome : Act World Failure Result) := by
  intro scene came left ran
  exact stands came (congrArg Prod.fst ran)

theorem bind_of {stands : Next → Prop} {next : Result → Act World Failure Next}
    (comes : action.ComesTo holds) (goesOn : ∀ result, holds result → (next result).ComesTo stands) :
    (action >>= next).ComesTo stands := by
  intro scene came last ran
  obtain ⟨result, left, first, second⟩ := exists_of_run_bind ran
  exact goesOn result (comes scene result left first) left came last second

theorem bind {stands : Next → Prop} {next : Result → Act World Failure Next}
    (goesOn : ∀ result, (next result).ComesTo stands) : (action >>= next).ComesTo stands := by
  intro scene came last ran
  obtain ⟨result, left, _, second⟩ := exists_of_run_bind ran
  exact goesOn result left came last second

theorem relabel {rename : Failure → Other} (comes : action.ComesTo holds) :
    (action.relabel rename).ComesTo holds :=
  fun scene result left ran => comes scene result left (run_of_relabel ran)

theorem within {part : World → Part} {put : Part → World → World}
    {action : Act Part Failure Result} (comes : action.ComesTo holds) :
    (action.within part put).ComesTo holds :=
  fun scene result _ ran => comes ⟨part scene.world, scene.notices⟩ result _
    (Prod.ext (show _ = Except.ok result from congrArg Prod.fst ran) rfl)

/-- What is true of all that a course comes to is true of its outcome if it succeeds. -/
theorem settle (comes : action.ComesTo holds) :
    (action.settle : Act World Other (Except Failure Result)).ComesTo fun outcome =>
      ∀ result, outcome = .ok result → holds result := by
  rintro scene outcome left ran result rfl
  cases first : action.run scene with
  | mk answer last =>
    rw [run_settle first] at ran
    cases ran
    exact comes scene result _ first

end ComesTo

end MoveAudit.Act

namespace MoveAudit

/-- A reading that succeeds has succeeded up to its last part. -/
theorem ok_of_bind {Fault Part Whole : Type} {first : Except Fault Part}
    {next : Part → Except Fault Whole} {whole : Whole} (isOk : (first >>= next) = .ok whole) :
    ∃ part, first = .ok part ∧ next part = .ok whole := by
  cases first with
  | error fault => cases isOk
  | ok part => exact ⟨part, rfl, isOk⟩

theorem ok_of_mapError {Fault Other Outcome : Type} {rename : Fault → Other}
    {outcome : Except Fault Outcome} {result : Outcome}
    (isOk : outcome.mapError rename = .ok result) : outcome = .ok result := by
  cases outcome with
  | error fault => cases isOk
  | ok found => exact congrArg Except.ok (Except.ok.inj isOk)

/-- Where something is seen of an outcome, there is an outcome. -/
theorem exists_result_of_map {Fault Outcome Seen : Type} {outcome : Except Fault Outcome}
    {see : Outcome → Seen} {seen : Seen} (isSeen : outcome.toOption.map see = some seen) :
    ∃ result, outcome = .ok result ∧ see result = seen := by
  cases outcome with
  | error fault => cases isSeen
  | ok result => exact ⟨result, rfl, Option.some.inj isSeen⟩

/-- A reading of several things fails exactly if that of one of them does. -/
theorem mapM_fails_iff {Item Text Fault : Type} {course : Item → Except Fault Text}
    (items : List Item) :
    (∃ fault, items.mapM course = .error fault) ↔
      ∃ item ∈ items, ∃ fault, course item = .error fault := by
  induction items with
  | nil => simp [pure, Except.pure]
  | cons item rest inductionHypothesis =>
    simp only [List.mapM_cons, List.mem_cons, exists_eq_or_imp, ← inductionHypothesis]
    cases course item with
    | error fault => simp [bind, Except.bind]
    | ok text => cases rest.mapM course <;> simp [bind, Except.bind, pure, Except.pure]

theorem forall₂_of_mapM {Fault Item Outcome : Type} {read : Item → Except Fault Outcome}
    {items : List Item} {outcomes : List Outcome} (isRead : items.mapM read = .ok outcomes) :
    List.Forall₂ (fun item outcome => read item = .ok outcome) items outcomes := by
  induction items generalizing outcomes with
  | nil =>
    cases isRead
    exact .nil
  | cons item rest inductionHypothesis =>
    rw [List.mapM_cons] at isRead
    obtain ⟨outcome, isOutcome, isRead⟩ := ok_of_bind isRead
    obtain ⟨others, areOthers, isRead⟩ := ok_of_bind isRead
    cases isRead
    exact .cons isOutcome (inductionHypothesis areOthers)

end MoveAudit
