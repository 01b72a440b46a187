/-
This file says that no audit goes by unnoticed. A line counts the questions that are put over it,
and never counts back. The first thing that an audit does is to put a question to the node of its
network, so the line has counted further when the audit is over, whatever came of it; whoever finds
a line as it was has seen no audit on its network.
-/

import MoveAudit.Proofs.Service.Requests

namespace MoveAudit

/-! ### Lines count on -/

namespace Chain

/-- So many questions have been put over a line, or more. -/
def Line.HasCounted (number : Nat) (line : Line) : Prop :=
  number ≤ line.lastNumber

variable {number : Nat} {policy : Policy}

theorem keeps_attemptsFrom (method : String) (params : Json.Value) (put left attempt : Nat) :
    (attemptsFrom policy method params put left attempt).Keeps (Line.HasCounted number) := by
  induction left generalizing attempt with
  | zero =>
    unfold attemptsFrom
    refine .bind (fun _ holds => holds) fun delivery => .bind (.ofExcept _) fun outcome => ?_
    cases outcome with
    | ok value => exact .pure _
    | error refusal => exact .bind (.note _) fun _ => .throw _
  | succ left inductionHypothesis =>
    unfold attemptsFrom
    refine .bind (fun _ holds => holds) fun delivery => .bind (.ofExcept _) fun outcome => ?_
    cases outcome with
    | ok value => exact .pure _
    | error refusal =>
      exact .bind (.note _) fun _ => .bind (fun _ holds => holds) fun _ => inductionHypothesis _

/-- A question is counted. -/
theorem brings_call (method : String) (params : Json.Value) (isRepeated : Bool) :
    (call policy method params isRepeated).Brings (Line.HasCounted number)
      (Line.HasCounted (number + 1)) :=
  .bind (fun _ holds => Nat.succ_le_succ holds) fun _ => keeps_attemptsFrom _ _ _ _ _

theorem keeps_call (method : String) (params : Json.Value) (isRepeated : Bool) :
    (call policy method params isRepeated).Keeps (Line.HasCounted number) :=
  fun scene holds => Nat.le_of_succ_le (brings_call method params isRepeated scene holds)

/-- A snapshot takes a question at least. -/
theorem brings_snapshot (package : String) :
    (snapshot policy package).Brings (Line.HasCounted number) (Line.HasCounted (number + 1)) := by
  refine .bind (brings_call _ _ _) fun answer => ?_
  refine .bind (.ofExcept _) fun (disassembled?, owner) => ?_
  cases disassembled? with
  | none => exact .throw _
  | some disassembled =>
    exact .bind (.ofExcept _) fun _ => .bind (.note _) fun _ => .bind (keeps_call _ _ _) fun _ =>
      .bind (.ofExcept _) fun _ => .pure _

end Chain

namespace Structs

open Json Move

variable {World Refusal : Type} [ToString Refusal] {invariant : World → Prop}
  {source : Source World Refusal}

theorem keeps_fieldsOf (keeps : ∀ package module name, (source package module name).Keeps invariant)
    (id : String) : (fieldsOf source id).Keeps invariant := by
  have unknown (noticed : Notice) : (do
      Act.note noticed
      return [.unknown] : Act World ShapeFault (List Field)).Keeps invariant :=
    .bind (.note _) fun _ => .pure _
  unfold fieldsOf
  split
  · exact .bind (.note _) fun _ => .pure _
  · refine .bind (.settle (keeps _ _ _)) fun answer => ?_
    cases answer with
    | error refusal => exact unknown _
    | ok definition =>
      refine .bind (.ofExcept _) fun fields? => ?_
      cases fields? with
      | some fields => exact .pure _
      | none => exact unknown _

/-- Structs are gathered by nothing but questions to the source. -/
theorem keeps_resolve (keeps : ∀ package module name, (source package module name).Keeps invariant)
    (ids : List String) : (resolve source ids).Keeps invariant := by
  unfold resolve
  dsimp only
  split
  · exact .pure _
  · refine .bind (.mapM _ fun id => .bind (.settle (keeps_fieldsOf keeps id)) fun _ => .pure _)
      fun outcomes => .bind (.mapM _ fun _ => .bind (.ofExcept _) fun _ => .pure _) fun _ => ?_
    exact .bind (.note _) fun _ => .pure _

end Structs

/-! ### Audits are counted -/

namespace Service

open Chain (Line)

/-- So many questions have been put to the node of a network, or more. -/
def HasCounted (network : Network) (number : Nat) (world : World) : Prop :=
  (world.chain.of network).HasCounted number

/-- What questions on the line to a network bring about there, they bring about among the lines. -/
theorem brings_on {network : Network} {Fault Outcome : Type} {action : Act Line Fault Outcome}
    {before after : Line → Prop} (brings : action.Brings before after) :
    (Lines.on network action).Brings (fun lines => before (lines.of network))
      fun lines => after (lines.of network) := by
  intro scene holds
  have put (line : Line) : (scene.world.put line network).of network = line := by
    cases network <;> rfl
  show after ((scene.world.put _ network).of network)
  rw [put]
  exact brings ⟨scene.world.of network, scene.notices⟩ holds

/-- An audit puts a question to the node of its network, whatever comes of it. -/
theorem lastNumber_lt_audit (plan : Plan) (network : Network) (package : String)
    (scene : Scene World) :
    (scene.world.chain.of network).lastNumber <
      (((audit plan network package).run scene).2.world.chain.of network).lastNumber := by
  generalize counted : (scene.world.chain.of network).lastNumber = number
  have snapshot : (snapshot plan network package).Brings (HasCounted network number)
      (HasCounted network (number + 1)) := fun scene =>
    brings_on (Chain.brings_snapshot package) ⟨scene.world.chain, scene.notices⟩
  have asks (package module name : String) : (structSource (plan.policy network) network package
      module name).Keeps fun lines => (lines.of network).HasCounted (number + 1) :=
    brings_on (Chain.keeps_call _ _ _)
  have structs (names : List String) : (Analysis.Office.onChain (Structs.resolve
      (structSource (plan.policy network) network) names)).Keeps
        (HasCounted network (number + 1)) := fun scene =>
    Structs.keeps_resolve asks names ⟨scene.world.chain, scene.notices⟩
  have brings : (audit plan network package).Brings (HasCounted network number)
      (HasCounted network (number + 1)) :=
    .bind snapshot (keeps_judging (fun _ _ holds => holds) structs fun _ _ _ _ holds => holds)
  exact brings scene (Nat.le_of_eq counted.symm)

end Service

end MoveAudit
