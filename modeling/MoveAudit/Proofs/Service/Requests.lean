/-
This file says what requests do to a store in memory. A request leaves the store as it is, or puts a
card there that it has made, and whatever card it is answered with is sound. So the store holds
nothing but verdicts after any number of requests, whatever the packages, the nodes and the model
come up with, and dependencies pass on just what their scores in the store say.
-/

import MoveAudit.Proofs.Analysis.Keeping
import MoveAudit.Proofs.Analysis.Verdict
import MoveAudit.Proofs.Dependency.Risk
import MoveAudit.Service.Audit

namespace MoveAudit.Service

open Json Analysis

/-! ### What leaves the store alone -/

section Setting

variable {invariant : World → Prop} {plan : Plan} {network : Network}
  (desk : ∀ world desk, invariant world → invariant { world with desk })
  (structs : ∀ names, (Analysis.Office.onChain (Structs.resolve
    (structSource (plan.policy network) network) names)).Keeps invariant)
  (risks : ∀ mode asked dependencies, (Analysis.Office.inStore
    (Dependency.risks mode asked dependencies)).Keeps invariant)
include desk structs risks

/-- Analyses keep what the looks at structs and at dependencies keep, unless the desk matters. -/
theorem keeps_setting (manner : Analysis.Manner) (asked : String) : SettingKeeps invariant
    (manner.setting asked (structSource (plan.policy network) network)) where
  reasoner := .within _ fun world left holds => desk world left holds
  structs := structs
  risks := risks _ _

/-- So does what an audit makes of a snapshot. -/
theorem keeps_judging (snapshot : Chain.Snapshot) :
    (do
      let manner ← Act.ofExcept plan.manner
      (Analysis.analyse manner (structSource (plan.policy network) network) "" snapshot).relabel
        .analysis : Course Analysis.Result).Keeps invariant := by
  refine .bind (.ofExcept _) fun manner => .relabel _ (.bind ?_ fun session =>
    keeps_run (keeps_setting desk structs risks manner snapshot.network) session snapshot)
  unfold Analysis.sessionName
  split
  · exact fun scene holds => desk scene.world _ holds
  · exact .pure _

end Setting

section InMemory

variable {values : Members}

theorem keeps_inStore_risks (mode : Dependency.Mode) (asked : String) (dependencies : List Value) :
    (Analysis.Office.inStore (Dependency.risks mode asked dependencies)).Keeps
      fun world : World => world.store = .memory values :=
  .within (Dependency.keeps_risks mode asked dependencies) (fun _ holds => holds)
    fun _ _ _ holds => holds

/-- The making of a card leaves a store in memory as it is. -/
theorem keeps_audit (plan : Plan) (network : Network) (package : String) :
    (audit plan network package).Keeps fun world => world.store = .memory values :=
  .bind (fun _ holds => holds) (keeps_judging (fun _ _ holds => holds)
    (fun _ _ holds => holds) keeps_inStore_risks)

end InMemory

/-- A card that is made is sound. -/
theorem comesTo_audit (plan : Plan) (network : Network) (package : String) :
    (audit plan network package).ComesTo fun result => result.card.IsSound :=
  .bind fun _ => .bind fun _ => .relabel (.bind fun _ => comesTo_run _ _)

/-! ### One request -/

/-- What a request for a package on a network is answered with, and what is kept after it. -/
inductive Answers (values : Members) (written : Value) (network : Network) :
    Except Failure (Card × Bool) → Members → Prop where
  | fails (failure : Failure) : Answers values written network (.error failure) values
  | finds {package : String} {card : Card} (named : namedPackage written = .ok package)
    (kept : Cache.cardUnder? values (Cache.key package network.word) = some card) :
    Answers values written network (.ok (card, true)) values
  | makes {package : String} {card : Card} (named : namedPackage written = .ok package)
    (missing : Cache.cardUnder? values (Cache.key package network.word) = none)
    (sound : card.IsSound) : Answers values written network (.ok (card, false))
      (Entries.put values (Cache.key package network.word) card.toJson)

theorem run_onResults {Outcome : Type} {action : Act Cache.Store Cache.Fault Outcome}
    {world : World} {outcome : Except Cache.Fault Outcome} {store : Cache.Store}
    {notices more : List Notice}
    (ran : action.run ⟨world.store, notices⟩ = (outcome, ⟨store, more⟩)) :
    (onResults action).run ⟨world, notices⟩ =
      (outcome.mapError .cache, ⟨{ world with store }, more⟩) := by
  refine Act.run_relabel _ ?_
  show ((action.run ⟨world.store, notices⟩).1, (⟨{ world with
    store := (action.run ⟨world.store, notices⟩).2.world },
    (action.run ⟨world.store, notices⟩).2.notices⟩ : Scene World)) = _
  rw [ran]

/-- A card that is made is kept; when none is, nothing is. -/
theorem run_made {values : Members} (name : String) {course : Course Card}
    (keeps : course.Keeps fun world => world.store = .memory values) {world : World}
    (stands : world.store = .memory values) (notices : List Notice) :
    (∃ failure left, (made name course).run ⟨world, notices⟩ = (.error failure, left) ∧
        left.world.store = .memory values) ∨
      ∃ card before left, course.run ⟨world, notices⟩ = (.ok card, before) ∧
        (made name course).run ⟨world, notices⟩ = (.ok card, left) ∧
        left.world.store = .memory (Entries.put values name card.toJson) := by
  have held := keeps ⟨world, notices⟩ stands
  unfold made
  cases ran : course.run ⟨world, notices⟩ with
  | mk answer before =>
    rw [ran] at held
    cases answer with
    | error failure =>
      exact Or.inl ⟨failure, _, Act.run_bind_ok _ (Act.run_settle (Act.run_bind_error _ ran)), held⟩
    | ok card =>
      obtain ⟨left, isKept, holds⟩ : ∃ left,
          (onResults (Cache.set name card)).run before = (.ok (), left) ∧
            left.world.store = .memory (Entries.put values name card.toJson) := by
        have isSet := Cache.run_set values name card before.notices
        rw [← show before.world.store = .memory values from held] at isSet
        exact ⟨_, run_onResults isSet, rfl⟩
      have computed : (do
          let card ← course
          onResults (Cache.set name card)
          return card : Course Card).run ⟨world, notices⟩ = (.ok card, left) :=
        (Act.run_bind_ok _ ran).trans (Act.run_bind_ok _ isKept)
      exact Or.inr ⟨card, before, left, rfl, Act.run_bind_ok _ (Act.run_settle computed), holds⟩

theorem run_get {values : Members} (name : String) {world : World}
    (stands : world.store = .memory values) (notices : List Notice) :
    (onResults (Cache.get name)).run ⟨world, notices⟩ =
      ((Cache.cardOf (.ofOption (Entries.get? values name))).mapError .cache,
        ⟨world, notices⟩) := by
  have asked := Cache.run_get values name notices
  rw [← stands] at asked
  exact run_onResults asked

section Requests

variable {values : Members}

/-- A request for a package that there is a card of is answered with it, and nobody else is
asked. -/
theorem run_analyse_of_kept (plan : Plan) {written network : Value} {package : String}
    (named : namedPackage written = .ok package) {world : World}
    (stands : world.store = .memory values) {card : Card}
    (kept : Cache.cardUnder? values (Cache.key package (Network.ofValue network).word) = some card)
    (notices : List Notice) :
    ∃ more, (analyse plan written network).run ⟨world, notices⟩ =
      (.ok (card, true), ⟨world, more⟩) := by
  have looked := run_get (Cache.key package (Network.ofValue network).word) stands
    (notices ++ [requestNotice package (.ofValue network)])
  rw [Cache.cardOf_of_cardUnder? kept] at looked
  refine ⟨notices ++ [requestNotice package (.ofValue network)] ++
    [Cache.hitNotice (Cache.key package (Network.ofValue network).word)], ?_⟩
  unfold analyse
  rw [named]
  exact Act.run_bind_ok _ looked

/-- A request is answered out of the store, or with a card that is made and kept, or not at all. -/
theorem run_analyse_answers (plan : Plan) (written network : Value) {world : World}
    (stands : world.store = .memory values) (notices : List Notice) : ∃ kept,
      ((analyse plan written network).run ⟨world, notices⟩).2.world.store = .memory kept ∧
        Answers values written (.ofValue network)
          ((analyse plan written network).run ⟨world, notices⟩).1 kept := by
  unfold analyse
  cases named : namedPackage written with
  | error failure => exact ⟨values, stands, .fails failure⟩
  | ok package =>
    let name := Cache.key package (Network.ofValue network).word
    let course : Course Card := do return (← audit plan (.ofValue network) package).card
    have keeps : course.Keeps fun world => world.store = .memory values :=
      .bind (keeps_audit plan _ package) fun _ => .pure _
    let told := notices ++ [requestNotice package (.ofValue network)]
    have looked := run_get name stands told
    show ∃ kept, ((obtain name course).run ⟨world, told⟩).2.world.store = _ ∧
      Answers _ _ _ ((obtain name course).run ⟨world, told⟩).1 _
    unfold Service.obtain
    cases found : Cache.cardOf (.ofOption (Entries.get? values name)) with
    | error fault =>
      rw [found] at looked
      rw [Act.run_bind_error _ looked]
      exact ⟨values, stands, .fails _⟩
    | ok card? =>
      have kept := Cache.cardUnder?_of_cardOf found
      rw [found] at looked
      rw [Act.run_bind_ok _ looked]
      cases card? with
      | some card => exact ⟨values, stands, .finds named kept⟩
      | none =>
        rcases run_made name keeps stands told with
          ⟨failure, left, ran, held⟩ | ⟨card, before, left, came, ran, held⟩
        · dsimp only
          rw [Act.run_bind_error _ ran]
          exact ⟨values, held, .fails failure⟩
        · dsimp only
          rw [Act.run_bind_ok _ ran]
          obtain ⟨result, _, came, same⟩ := Act.exists_of_run_bind came
          cases same
          exact ⟨_, held, .makes named kept (comesTo_audit _ _ _ _ _ _ came)⟩

@[inherit_doc run_analyse_answers]
theorem analyse_answers (plan : Plan) (written network : Value) {world : World}
    (stands : world.store = .memory values) : ∃ kept,
      ((analyse plan written network).outcome world).2.world.store = .memory kept ∧
        Answers values written (.ofValue network)
          ((analyse plan written network).outcome world).1 kept :=
  run_analyse_answers plan written network stands []

variable (verdicts : Cache.AreVerdicts values)
include verdicts

/-- What is kept after a request are verdicts still, and a card that it is answered with is
sound. -/
theorem Answers.keeps {written : Value} {network : Network}
    {answer : Except Failure (Card × Bool)} {kept : Members}
    (answers : Answers values written network answer kept) :
    Cache.AreVerdicts kept ∧ ∀ card isShared, answer = .ok (card, isShared) → card.IsSound := by
  cases answers with
  | fails failure => exact ⟨verdicts, nofun⟩
  | finds named isKept =>
    refine ⟨verdicts, fun card isShared same => ?_⟩
    cases same
    exact verdicts.isSound isKept
  | makes named missing sound =>
    refine ⟨verdicts.put _ network sound, fun card isShared same => ?_⟩
    cases same
    exact sound

end Requests

/-! ### Requests one after another -/

/-- A request, with the desk and the lines that it finds: whatever the model answers and whatever
the nodes know. -/
structure Request where
  package : Value
  network : Value
  desk : Reasoning.Desk
  lines : Lines

/-- What requests are answered with, and the store after them. -/
def serve (plan : Plan) : List Request → Cache.Store →
    List (Except Failure (Card × Bool)) × Cache.Store
  | [], store => ([], store)
  | request :: rest, store =>
    let (answer, left) := (analyse plan request.package request.network).outcome
      ⟨request.desk, store, request.lines⟩
    let (answers, last) := serve plan rest left.world.store
    (answer :: answers, last)

theorem serve_keeps (plan : Plan) (requests : List Request) {values : Members}
    (verdicts : Cache.AreVerdicts values) :
    (∃ kept, (serve plan requests (.memory values)).2 = .memory kept ∧ Cache.AreVerdicts kept) ∧
      ∀ answer ∈ (serve plan requests (.memory values)).1, ∀ card isShared,
        answer = .ok (card, isShared) → card.IsSound := by
  induction requests generalizing values with
  | nil => exact ⟨⟨values, rfl, verdicts⟩, fun _ member => nomatch member⟩
  | cons request rest inductionHypothesis =>
    obtain ⟨kept, held, answers⟩ := @analyse_answers values plan request.package
      request.network ⟨request.desk, .memory values, request.lines⟩ rfl
    obtain ⟨verdictsToo, sound⟩ := answers.keeps verdicts
    unfold serve
    dsimp only
    rw [held]
    obtain ⟨isMemory, soundToo⟩ := inductionHypothesis verdictsToo
    refine ⟨isMemory, fun answer member => ?_⟩
    rcases List.mem_cons.mp member with rfl | isLater
    · exact sound
    · exact soundToo answer isLater

/-- From an empty store in memory on, whatever is asked for and whatever the model and the nodes come
up with, every card that is kept or handed out has a score from 0 to 100 and the level of its score.
A dependency then passes on a risk exactly if the score that counts for it is from 30 to 69, with
that score and its level, and once, where it is mentioned first. -/
theorem requests_keep_to_scores (plan : Plan) (requests : List Request) :
    (∀ answer ∈ (serve plan requests .empty).1, ∀ card isShared,
        answer = .ok (card, isShared) → card.IsSound) ∧
      ∃ values, (serve plan requests .empty).2 = .memory values ∧ Cache.AreVerdicts values ∧
        ∀ (mode : Dependency.Mode) (network : Network) (packages : List String),
          ((Dependency.risks mode network.word (packages.map .string)).outcome
              (serve plan requests .empty).2).1 =
            .ok (packages.eraseDups.filterMap fun package =>
              (Dependency.countingScore? values mode network package).bind
                (Dependency.passedOnAt? package)) := by
  obtain ⟨⟨values, held, verdicts⟩, sound⟩ := serve_keeps plan requests .nil
  refine ⟨sound, values, held, verdicts, fun mode network packages => ?_⟩
  obtain ⟨more, ran⟩ := Dependency.run_risks verdicts mode network packages []
  have held : (serve plan requests .empty).2 = .memory values := held
  rw [held]
  exact congrArg Prod.fst ran

end MoveAudit.Service
