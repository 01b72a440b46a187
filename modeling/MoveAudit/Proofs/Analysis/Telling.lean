/-
This file says what each part of an analysis puts on record, whatever world it begins in. Most parts
put nothing there; a stage of the reasoner puts a single exchange there, and what the stage comes to
is made of the answer, or is the reason that there is none.
-/

import MoveAudit.Proofs.Analysis.Record

namespace MoveAudit.Analysis

open Json Chain

variable {World Reason Fault Other Outcome Next : Type}

/-! ### What a course puts on record -/

/-- Whatever world a course begins in, its outcome and what it puts on record are as a condition
says. -/
def Tells (action : Act (Recorded World Reason) Fault Outcome)
    (condition : Except Fault Outcome → List (Exchange Reason) → Prop) : Prop :=
  ∀ scene, ∃ more, (action.run scene).2.world.exchanges = scene.world.exchanges ++ more ∧
    condition (action.run scene).1 more

namespace Tells

variable {condition : Except Fault Outcome → List (Exchange Reason) → Prop}

/-- A course that changes nothing but notices puts nothing on record. -/
theorem silent {action : Act (Recorded World Reason) Fault Outcome} {outcome : Except Fault Outcome}
    (ran : ∀ scene, ∃ notices, action.run scene = (outcome, ⟨scene.world, notices⟩))
    (holds : condition outcome []) : Tells action condition := by
  intro scene
  obtain ⟨notices, same⟩ := ran scene
  rw [same]
  exact ⟨[], (List.append_nil _).symm, holds⟩

theorem pure {outcome : Outcome} (holds : condition (.ok outcome) []) :
    Tells (Pure.pure outcome : Act (Recorded World Reason) Fault Outcome) condition :=
  silent (fun scene => ⟨scene.notices, rfl⟩) holds

theorem throw {fault : Fault} (holds : condition (.error fault) []) :
    Tells (MonadExcept.throw fault : Act (Recorded World Reason) Fault Outcome) condition :=
  silent (fun scene => ⟨scene.notices, rfl⟩) holds

theorem ofExcept {outcome : Except Fault Outcome} (holds : condition outcome []) :
    Tells (Act.ofExcept outcome : Act (Recorded World Reason) Fault Outcome) condition :=
  silent (fun scene => ⟨scene.notices, rfl⟩) holds

theorem unrecorded {action : Act World Fault Outcome} (holds : ∀ outcome, condition outcome []) :
    Tells (Analysis.unrecorded action) condition :=
  fun _ => ⟨[], (List.append_nil _).symm, holds _⟩

theorem onRecord {exchange : Except Fault Outcome → Exchange Reason}
    {action : Act World Fault Outcome} (holds : ∀ answer, condition answer [exchange answer]) :
    Tells (Analysis.onRecord exchange action) condition :=
  fun _ => ⟨[_], rfl, holds _⟩

variable {action : Act (Recorded World Reason) Fault Outcome}

theorem mono {weaker : Except Fault Outcome → List (Exchange Reason) → Prop}
    (tells : Tells action condition)
    (implies : ∀ outcome more, condition outcome more → weaker outcome more) :
    Tells action weaker := by
  intro scene
  obtain ⟨more, recorded, holds⟩ := tells scene
  exact ⟨more, recorded, implies _ _ holds⟩

theorem relabel {rename : Fault → Other}
    {after : Except Other Outcome → List (Exchange Reason) → Prop}
    (tells : Tells action fun outcome more => after (outcome.mapError rename) more) :
    Tells (action.relabel rename) after :=
  tells

theorem settle {after : Except Other (Except Fault Outcome) → List (Exchange Reason) → Prop}
    (tells : Tells action fun outcome more => after (.ok outcome) more) :
    Tells (action.settle : Act _ Other _) after :=
  tells

/-- A course goes on with what its first part left on record, or fails with it. -/
theorem bind {next : Outcome → Act (Recorded World Reason) Fault Next}
    {after : Except Fault Next → List (Exchange Reason) → Prop} (tells : Tells action condition)
    (fails : ∀ fault more, condition (.error fault) more → after (.error fault) more)
    (goesOn : ∀ outcome before, condition (.ok outcome) before →
      Tells (next outcome) fun last more => after last (before ++ more)) :
    Tells (action >>= next) after := by
  intro scene
  obtain ⟨before, recorded, holds⟩ := tells scene
  cases found : action.run scene with
  | mk answer left =>
    rw [found] at recorded holds
    cases answer with
    | error fault =>
      rw [Act.run_bind_error _ found]
      exact ⟨before, recorded, fails fault before holds⟩
    | ok outcome =>
      rw [Act.run_bind_ok _ found]
      obtain ⟨more, recordedToo, holdsToo⟩ := goesOn outcome before holds left
      exact ⟨before ++ more, by rw [recordedToo, recorded, List.append_assoc], holdsToo⟩

/-- What a course puts on record goes with an outcome that it can have without a record. -/
theorem mirrored {plain : Act World Fault Outcome} (tells : Tells action condition)
    (mirrors : Mirrors action plain) :
    Tells action fun outcome more => condition outcome more ∧
      ∃ scene, (plain.run scene).1 = outcome := by
  intro scene
  obtain ⟨more, recorded, holds⟩ := tells scene
  exact ⟨more, recorded, holds, bare scene, by rw [mirrors scene]⟩

/-- A course with its outcome seen in another way puts the same on record. -/
theorem returns {use : Outcome → Next}
    {after : Except Fault Next → List (Exchange Reason) → Prop} (tells : Tells action condition)
    (fails : ∀ fault more, condition (.error fault) more → after (.error fault) more)
    (succeeds : ∀ outcome more, condition (.ok outcome) more → after (.ok (use outcome)) more) :
    Tells (action >>= fun outcome => Pure.pure (use outcome)) after := by
  refine tells.bind fails fun outcome before holds => .pure ?_
  rw [List.append_nil]
  exact succeeds outcome before holds

theorem noted {notice : Notice} {next : Unit → Act (Recorded World Reason) Fault Outcome}
    (tells : Tells (next ()) condition) : Tells (Act.note notice >>= next) condition :=
  fun scene => tells ⟨scene.world, scene.notices ++ [notice]⟩

theorem allNoted {Item : Type} {items : List Item} {notice : Item → Notice}
    {next : PUnit → Act (Recorded World Reason) Fault Outcome}
    (tells : Tells (next PUnit.unit) condition) :
    Tells ((forIn items PUnit.unit fun item _ => do
      Act.note (notice item)
      Pure.pure (.yield PUnit.unit)) >>= next) condition := by
  intro scene
  rw [Act.run_bind_ok next (Act.run_notes items notice scene)]
  exact tells _

/-- A course whose failure is a result always goes on. -/
theorem settled {Answer : Type} {action : Act (Recorded World Reason) Other Answer}
    {part : List (Exchange Reason) → Prop}
    {next : Except Other Answer → Act (Recorded World Reason) Fault Outcome}
    (tells : Tells action fun _ more => part more)
    (goesOn : ∀ answer before, part before →
      Tells (next answer) fun outcome more => condition outcome (before ++ more)) :
    Tells (action.settle >>= next) condition := by
  have isOver : Tells (action.settle : Act _ Fault _) fun outcome more =>
      outcome.isOk = true ∧ part more :=
    .settle (tells.mono fun _ _ holds => ⟨rfl, holds⟩)
  exact isOver.bind (fun _ _ impossible => nomatch impossible.1)
    fun answer before holds => goesOn answer before holds.2

/-- What is given goes on with a result and ends with a fault. -/
theorem given {Answer : Type} {given : Except Fault Answer}
    {next : Answer → Act (Recorded World Reason) Fault Outcome}
    (fails : ∀ fault, given = .error fault → condition (.error fault) [])
    (goesOn : ∀ answer, given = .ok answer → Tells (next answer) condition) :
    Tells (Act.ofExcept given >>= next) condition := by
  cases given with
  | error fault => exact silent (fun scene => ⟨scene.notices, rfl⟩) (fails fault rfl)
  | ok answer => exact goesOn answer rfl

/-- Something that is read goes on when it has the right shape. -/
theorem read {Answer : Type} {result : Except ShapeFault Answer}
    {next : Answer → Course (Recorded World Reason) Reason Outcome}
    {condition : Except (Failure Reason) Outcome → List (Exchange Reason) → Prop}
    (fails : ∀ fault, result = .error fault → condition (.error (.shape fault)) [])
    (goesOn : ∀ answer, result = .ok answer → Tells (next answer) condition) :
    Tells (shaped (Act.ofExcept result) >>= next) condition := by
  cases result with
  | error fault => exact silent (fun scene => ⟨scene.notices, rfl⟩) (fails fault rfl)
  | ok answer => exact goesOn answer rfl

end Tells

/-! ### What each function puts on record -/

/-- The package that is read off a snapshot. -/
def packageOf (snapshot : Snapshot) : Except ShapeFault Move.Package :=
  (orEmpty snapshot.modules).allMembers.map fun modules =>
    (Move.extract modules snapshot.disassembly (some snapshot.package)).package

/-- A context holds the functions and the code of a package. -/
def IsContextOf (context : Prompt.Context) (package : Move.Package) : Prop :=
  context.functions = package.functions ∧ context.disassembly = package.disassembly

/-- A single exchange is put on record, and its answer is what the outcome is made of. -/
def Uses {Answer : Type} (exchange : Except Reason Answer → Exchange Reason)
    (use : Answer → Outcome) (outcome : Except (Failure Reason) Outcome)
    (more : List (Exchange Reason)) : Prop :=
  ∃ answer, more = [exchange answer] ∧ outcome = (answer.map use).mapError .reasoning

/-- A stage that comes to something was answered. -/
theorem Uses.ok {Answer : Type} {exchange : Except Reason Answer → Exchange Reason}
    {use : Answer → Outcome} {outcome : Outcome} {more : List (Exchange Reason)}
    (uses : Uses exchange use (.ok outcome) more) :
    ∃ answer, more = [exchange (.ok answer)] ∧ outcome = use answer := by
  obtain ⟨answer, rfl, same⟩ := uses
  cases answer with
  | ok given =>
    cases same
    exact ⟨given, rfl, rfl⟩
  | error reason => cases same

/-- A stage that fails was not answered, and fails for the same reason. -/
theorem Uses.error {Answer : Type} {exchange : Except Reason Answer → Exchange Reason}
    {use : Answer → Outcome} {failure : Failure Reason} {more : List (Exchange Reason)}
    (uses : Uses exchange use (.error failure) more) :
    ∃ reason, more = [exchange (.error reason)] ∧ failure = .reasoning reason := by
  obtain ⟨answer, rfl, same⟩ := uses
  cases answer with
  | ok given => cases same
  | error reason =>
    cases same
    exact ⟨reason, rfl, rfl⟩

theorem tells_asked {Answer : Type} {exchange : Except Reason Answer → Exchange Reason}
    {action : Act World Reason Answer} {use : Answer → Outcome}
    {next : Answer → Course (Recorded World Reason) Reason Outcome}
    (goesOn : ∀ answer, Tells (next answer) fun outcome more =>
      more = [] ∧ outcome = .ok (use answer)) :
    Tells (reasoned (onRecord exchange action) >>= next) (Uses exchange use) := by
  have asked : Tells (reasoned (onRecord exchange action)) fun outcome more =>
      ∃ answer, more = [exchange answer] ∧ outcome = answer.mapError .reasoning :=
    .relabel (.onRecord fun answer => ⟨answer, rfl, rfl⟩)
  refine asked.bind ?_ ?_
  · rintro fault more ⟨answer, rfl, same⟩
    cases answer with
    | ok given => cases same
    | error reason =>
      cases same
      exact ⟨.error reason, rfl, rfl⟩
  · rintro given before ⟨answer, rfl, same⟩
    cases answer with
    | error reason => cases same
    | ok answered =>
      cases same
      refine (goesOn given).mono ?_
      rintro outcome more ⟨rfl, rfl⟩
      exact ⟨.ok given, rfl, rfl⟩

section Functions

variable (setting : Setting World Reason)

theorem tells_extractPackage (snapshot : Snapshot) :
    Tells (extractPackage snapshot : Course (Recorded World Reason) Reason Move.Package)
      fun outcome more => more = [] ∧ outcome = (packageOf snapshot).mapError .shape := by
  refine .read (fun fault same => ?_) fun modules same => .allNoted (.noted (.noted (.pure ?_))) <;>
    rw [packageOf, same] <;> exact ⟨rfl, rfl⟩

theorem tells_gatherContext (package : Move.Package) :
    Tells (gatherContext setting.recorded package) fun outcome more =>
      (∃ answer, more = [.structs answer]) ∧
        ∀ context, outcome = .ok context → IsContextOf context package := by
  have risks : Tells (setting.recorded.risks package.dependencies) fun _ more => more = [] :=
    .unrecorded fun _ => rfl
  have structs : Tells (setting.recorded.structs package.referencedStructs) fun _ more =>
      ∃ answer, more = [.structs answer] :=
    .onRecord fun answer => ⟨answer, rfl⟩
  refine .settled risks ?_
  rintro _ _ rfl
  refine .settled structs ?_
  rintro _ _ ⟨answer, rfl⟩
  refine .read (fun _ _ => ⟨⟨answer, rfl⟩, nofun⟩) fun _ _ => ?_
  refine .read (fun _ _ => ⟨⟨answer, rfl⟩, nofun⟩) fun _ _ => ?_
  refine .read (fun _ _ => ⟨⟨answer, rfl⟩, nofun⟩) fun _ _ => .noted ?_
  refine .read (fun _ _ => ⟨⟨answer, rfl⟩, nofun⟩) fun _ _ => .noted (.noted (.pure ?_))
  refine ⟨⟨answer, rfl⟩, ?_⟩
  rintro context same
  cases same
  exact ⟨rfl, rfl⟩

theorem tells_flag (session : String) (context : Prompt.Context) :
    Tells (flag setting.recorded session context)
      (Uses .triage fun triage => Entries.distinct triage.flagged) :=
  tells_asked fun _ => .noted (.pure ⟨rfl, rfl⟩)

theorem tells_findings (session : String) (context : Prompt.Context) (flagged : List String) :
    Tells (findings setting.recorded session context flagged)
      (Uses .analysis fun analysis => ⟨context.risks, Evidence.reviewed setting.base
        ⟨context.functions, [], context.disassembly⟩ analysis.findings⟩) :=
  tells_asked fun _ => .allNoted (.noted (.noted (.pure ⟨rfl, rfl⟩)))

theorem tells_agreeOnReport (session : String) (known : Findings) (own : ScoreReport) :
    Tells (agreeOnReport setting.recorded session known own) fun outcome more =>
      setting.asksForScore = false ∧ more = [] ∧ outcome = .ok own ∨
        setting.asksForScore = true ∧ Uses .score
          (fun given => if given.score = own.score then given else own) outcome more := by
  unfold agreeOnReport
  rw [recorded_asksForScore]
  split
  · next asks =>
    refine (tells_asked fun given => ?_).mono fun _ _ uses => Or.inr ⟨asks, uses⟩
    split
    · exact .pure ⟨rfl, rfl⟩
    · exact .noted (.pure ⟨rfl, rfl⟩)
  · next asks => exact .pure (Or.inl ⟨eq_false_of_ne_true asks, rfl, rfl⟩)

theorem tells_ownReport (known : Findings) :
    Tells (ownReport setting.recorded known) fun outcome more => more = [] ∧
      outcome = (Scoring.report setting.base known.findings).mapError .unscored := by
  unfold ownReport Scoring.report
  rw [recorded_base]
  cases Scoring.account setting.base known.findings with
  | error fault => exact .silent (fun scene => ⟨scene.notices, rfl⟩) ⟨rfl, rfl⟩
  | ok account =>
    refine .given (fun _ impossible => nomatch impossible) fun known same => ?_
    cases same
    exact .noted (.ofExcept ⟨rfl, rfl⟩)

theorem tells_scoreFindings (session : String) (known : Findings) :
    Tells (scoreFindings setting.recorded session known) fun outcome more =>
      (∃ fault, Scoring.report setting.base known.findings = .error fault ∧ more = [] ∧
        outcome = .error (.unscored fault)) ∨
      ∃ own, Scoring.report setting.base known.findings = .ok own ∧
        (setting.asksForScore = false ∧ more = [] ∧ outcome = .ok { known with score := own } ∨
          setting.asksForScore = true ∧ Uses .score (fun given =>
            { known with score := if given.score = own.score then given else own })
              outcome more) := by
  unfold scoreFindings
  refine (tells_ownReport setting known).bind ?_ ?_
  · rintro failure _ ⟨rfl, same⟩
    cases reported : Scoring.report setting.base known.findings with
    | error fault =>
      rw [reported] at same
      cases same
      exact Or.inl ⟨fault, rfl, rfl, rfl⟩
    | ok own =>
      rw [reported] at same
      cases same
  rintro own _ ⟨rfl, same⟩
  cases reported : Scoring.report setting.base known.findings with
  | error fault =>
    rw [reported] at same
    cases same
  | ok found =>
    rw [reported] at same
    cases same
    refine (tells_agreeOnReport setting session known own).bind ?_ ?_
    · rintro fault more (⟨_, _, impossible⟩ | ⟨asks, uses⟩)
      · cases impossible
      · obtain ⟨reason, rfl, rfl⟩ := uses.error
        exact Or.inr ⟨own, rfl, Or.inr ⟨asks, .error reason, rfl, rfl⟩⟩
    · rintro report before (⟨asks, rfl, same⟩ | ⟨asks, uses⟩)
      · cases same
        exact .noted (.pure (Or.inr ⟨own, rfl, Or.inl ⟨asks, rfl, rfl⟩⟩))
      · obtain ⟨given, rfl, rfl⟩ := uses.ok
        exact .noted (.pure (Or.inr ⟨own, rfl, Or.inr ⟨asks, .ok given, rfl, rfl⟩⟩))

theorem tells_keepBacked (findings : List Finding) (draft : Draft) :
    Tells (keepBacked findings draft : Course (Recorded World Reason) Reason Draft)
      fun outcome more => more = [] ∧ outcome = .ok (draft.backedBy findings) := by
  unfold keepBacked
  split
  · exact .noted (.pure ⟨rfl, rfl⟩)
  · exact .pure ⟨rfl, rfl⟩

theorem tells_writeReport (session : String) (known : Scored) :
    Tells (writeReport setting.recorded session known)
      (Uses .report fun draft => draft.backedBy known.findings) :=
  tells_asked fun _ => tells_keepBacked _ _

theorem tells_critiqueReport (session : String) (known : Scored) (draft : Draft) :
    Tells (critiqueReport setting.recorded session known draft) (Uses .critique id) :=
  tells_asked fun _ => .noted (.pure ⟨rfl, rfl⟩)

theorem tells_correctReport (session : String) (known : Scored) (draft : Draft)
    (feedback : String) :
    Tells (correctReport setting.recorded session known draft feedback)
      (Uses .correction fun mended => mended.backedBy known.findings) :=
  tells_asked fun _ => tells_keepBacked _ _

end Functions

end MoveAudit.Analysis
