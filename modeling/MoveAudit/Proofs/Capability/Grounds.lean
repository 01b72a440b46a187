/-
This file says which risks a report on capabilities names. There are three grounds for a risk: a
capability that several modules use is handed out, a capability is shared, and a capability that is
handed out somewhere is used in many modules other than its own. The report names one risk for each
ground that holds and no other, and each risk lists the modules that its ground concerns.
-/

import Mathlib.Data.Finset.Card
import Mathlib.Data.List.Forall2
import MoveAudit.Proofs.Capability.Flows
import MoveAudit.Proofs.Text.Search

namespace MoveAudit.Capability

open Entries Move

variable {package : Package}

/-! ### What a report is to say -/

/-- The modules that use a capability. -/
def Report.users (report : Report) (capability : String) : Finset String :=
  ((report.usages.filter (·.capability == capability)).map (·.module)).toFinset

/-- A reason to name a risk. -/
inductive Ground where
  /-- A function hands out a capability on which several modules depend. -/
  | handedOut (capability module function : String)
  /-- A function shares a capability. -/
  | shared (capability module function : String)
  /-- A capability that is handed out somewhere reaches many modules. -/
  | spread (definition : Definition)
  deriving DecidableEq, Repr

/-- The capability that a reason is about. -/
def Ground.capability : Ground → String
  | handedOut capability _ _ | shared capability _ _ => capability
  | spread definition => definition.name

/-- Whether there is this reason to name a risk of a package. -/
def Ground.Holds (package : Package) (report : Report) : Ground → Prop
  | handedOut capability module function =>
    capability ∈ report.capabilities.map (·.name) ∧ HandsOut package capability module function ∧
      2 ≤ (report.users capability).card
  | shared capability module function =>
    capability ∈ report.capabilities.map (·.name) ∧
      Performs package .shared capability module function
  | spread definition =>
    definition ∈ report.capabilities ∧
      (∃ module function, HandsOut package definition.name module function) ∧
      3 ≤ ((report.users definition.name).erase definition.module).card

/-- How severe it is to share a capability. -/
def sharingSeverity (capability : String) : Severity :=
  if ∃ name ∈ ["AdminCap", "TreasuryCap", "UpgradeCap", "MintCap"],
    name.toList <:+: capability.toList then .critical else .high

/-- A risk has a pattern, a severity and a place, its text names a capability, and it lists the
modules of a set, each once. -/
structure Risk.Tells (risk : Risk) (pattern : String) (severity : Severity)
    (module function capability : String) (affected : Finset String) : Prop where
  pattern_eq : risk.pattern = pattern
  severity_eq : risk.severity = severity
  module_eq : risk.module = module
  function_eq : risk.function = function
  named : capability.toList <:+: risk.description.toList
  nodup : risk.affected.Nodup
  affected_eq : risk.affected.toFinset = affected

/-- What the risk that is named for a reason says. -/
def Ground.IsToldBy (report : Report) : Ground → Risk → Prop
  | handedOut capability module function, risk =>
    risk.Tells "CROSS-MODULE-CAP-TRANSFER" .critical module function capability
      (report.users capability)
  | shared capability module function, risk =>
    risk.Tells "CROSS-MODULE-CAP-SHARED" (sharingSeverity capability) module function capability
      (report.users capability)
  | spread definition, risk =>
    risk.Tells "CROSS-MODULE-WIDE-IMPACT" .high "multiple" "multiple" definition.name
      ((report.users definition.name).erase definition.module)

/-! ### The grounds in the order of the risks -/

/-- The reason that a movement gives when it hands a capability out. -/
def Flow.handing (flow : Flow) : Ground :=
  .handedOut flow.capability flow.source flow.via

/-- The reason that a movement gives when it shares a capability. -/
def Flow.sharing (flow : Flow) : Ground :=
  .shared flow.capability flow.source flow.via

/-- The reasons that handing out one capability gives. -/
def transferGrounds (package : Package) (capability : String) : List Ground :=
  if (modulesUsing (usagesOf package) capability).length < 2 then []
  else ((flowsIn package).filter fun flow =>
    flow.route == .externalTransfer && flow.capability == capability).map Flow.handing

/-- The reason that the reach of one capability gives. -/
def spreadGround? (package : Package) (capability : String) : Option Ground :=
  if (importers (flowsIn package) capability).length < wideImpactModules then none
  else ((capabilitiesOf package).find? (·.name == capability)).map .spread

/-- All reasons to name a risk, in the order in which the risks are named. -/
def grounds (package : Package) : List Ground :=
  (handedOut (flowsIn package)).flatMap (transferGrounds package) ++
    ((flowsIn package).filter (·.route == .publicShare)).map Flow.sharing ++
    (handedOut (flowsIn package)).filterMap (spreadGround? package)

theorem users_reportOf (package : Package) (capability : String) :
    (reportOf package).users capability =
      (modulesUsing (usagesOf package) capability).toFinset := by
  ext module
  unfold Report.users modulesUsing
  rw [List.mem_toFinset, List.mem_toFinset, mem_distinct]
  rfl

theorem card_users_reportOf (package : Package) (capability : String) :
    ((reportOf package).users capability).card =
      (modulesUsing (usagesOf package) capability).length := by
  rw [users_reportOf, List.toFinset_card_of_nodup (nodup_modulesUsing _ _)]

theorem mem_handedOut_iff {capability : String} :
    capability ∈ handedOut (flowsIn package) ↔
      capability ∈ (capabilitiesOf package).map (·.name) ∧
        ∃ module function, HandsOut package capability module function := by
  unfold handedOut
  simp only [mem_distinct, List.mem_map, List.mem_filter, beq_iff_eq]
  constructor
  · rintro ⟨flow, ⟨member, isExternal⟩, rfl⟩
    obtain ⟨known, handsOut⟩ := exists_external_iff.mp ⟨flow, member, isExternal, rfl, rfl, rfl⟩
    exact ⟨List.mem_map.mp known, _, _, handsOut⟩
  · rintro ⟨known, module, function, handsOut⟩
    obtain ⟨flow, member, isExternal, named, _⟩ :=
      exists_external_iff.mpr ⟨List.mem_map.mpr known, handsOut⟩
    exact ⟨flow, ⟨member, isExternal⟩, named⟩

theorem toFinset_importers {definition : Definition}
    (member : definition ∈ capabilitiesOf package) :
    (importers (flowsIn package) definition.name).toFinset =
      ((reportOf package).users definition.name).erase definition.module := by
  rw [importers_flowsIn member, users_reportOf]
  ext module
  simp [and_comm]

theorem nodup_importers {definition : Definition} (member : definition ∈ capabilitiesOf package) :
    (importers (flowsIn package) definition.name).Nodup := by
  rw [importers_flowsIn member]
  exact (nodup_modulesUsing _ _).filter _

theorem mem_transferGrounds_iff {ground : Ground} {capability : String} :
    ground ∈ transferGrounds package capability ↔
      ∃ module function, ground = .handedOut capability module function ∧
        ground.Holds package (reportOf package) := by
  unfold transferGrounds
  rw [← card_users_reportOf]
  split
  · next few =>
    refine iff_of_false List.not_mem_nil ?_
    rintro ⟨module, function, rfl, _, _, many⟩
    exact Nat.not_le_of_lt few many
  · next many =>
    rw [List.mem_map]
    constructor
    · rintro ⟨flow, member, rfl⟩
      obtain ⟨isFlow, tested⟩ := List.mem_filter.mp member
      rw [Bool.and_eq_true, beq_iff_eq, beq_iff_eq] at tested
      obtain ⟨isExternal, rfl⟩ := tested
      obtain ⟨known, handsOut⟩ := exists_external_iff.mp ⟨flow, isFlow, isExternal, rfl, rfl, rfl⟩
      exact ⟨flow.source, flow.via, rfl, known, handsOut, Nat.le_of_not_lt many⟩
    · rintro ⟨module, function, rfl, known, handsOut, _⟩
      obtain ⟨flow, isFlow, isExternal, rfl, rfl, rfl⟩ := exists_external_iff.mpr ⟨known, handsOut⟩
      exact ⟨flow, List.mem_filter.mpr ⟨isFlow, by simp [isExternal]⟩, rfl⟩

theorem spreadGround?_eq_some_iff {ground : Ground} {capability : String} :
    spreadGround? package capability = some ground ↔
      ∃ definition ∈ capabilitiesOf package, definition.name = capability ∧
        ground = .spread definition ∧
        3 ≤ (((reportOf package).users capability).erase definition.module).card := by
  have reach {definition : Definition} (member : definition ∈ capabilitiesOf package) :
      (importers (flowsIn package) definition.name).length =
        (((reportOf package).users definition.name).erase definition.module).card := by
    rw [← toFinset_importers member, List.toFinset_card_of_nodup (nodup_importers member)]
  unfold spreadGround?
  split
  · next few =>
    refine iff_of_false nofun ?_
    rintro ⟨definition, member, rfl, _, many⟩
    rw [reach member] at few
    exact Nat.not_le_of_lt few many
  · next many =>
    rw [Option.map_eq_some_iff]
    constructor
    · rintro ⟨definition, found, rfl⟩
      have member := List.mem_of_find?_eq_some found
      obtain rfl : definition.name = capability := by simpa using List.find?_some found
      rw [reach member] at many
      exact ⟨definition, member, rfl, rfl, Nat.le_of_not_lt many⟩
    · rintro ⟨definition, member, rfl, rfl, _⟩
      exact ⟨definition, find?_of_nodup (nodup_capabilityNames package) member, rfl⟩

/-- A reason is among those listed exactly if there is that reason. -/
theorem mem_grounds_iff {ground : Ground} :
    ground ∈ grounds package ↔ ground.Holds package (reportOf package) := by
  unfold grounds
  rw [List.mem_append, List.mem_append, List.mem_flatMap, List.mem_map, List.mem_filterMap]
  simp only [mem_transferGrounds_iff, spreadGround?_eq_some_iff]
  cases ground with
  | handedOut capability module function =>
    constructor
    · rintro ((⟨_, _, _, _, _, holds⟩ | ⟨_, _, same⟩) | ⟨_, _, _, _, _, same, _⟩)
      · exact holds
      · cases same
      · cases same
    · intro holds
      exact .inl (.inl ⟨capability, mem_handedOut_iff.mpr ⟨holds.1, module, function, holds.2.1⟩,
        module, function, rfl, holds⟩)
  | shared capability module function =>
    constructor
    · rintro ((⟨_, _, _, _, same, _⟩ | ⟨flow, member, same⟩) | ⟨_, _, _, _, _, same, _⟩)
      · cases same
      · obtain ⟨isFlow, isShared⟩ := List.mem_filter.mp member
        cases same
        exact exists_shared_iff.mp ⟨flow, isFlow, eq_of_beq isShared, rfl, rfl, rfl⟩
      · cases same
    · intro holds
      obtain ⟨flow, isFlow, isShared, rfl, rfl, rfl⟩ := exists_shared_iff.mpr holds
      exact .inl (.inr ⟨flow, List.mem_filter.mpr ⟨isFlow, beq_iff_eq.mpr isShared⟩, rfl⟩)
  | spread definition =>
    constructor
    · rintro ((⟨_, _, _, _, same, _⟩ | ⟨_, _, same⟩) | ⟨_, isHandedOut, _, member, rfl, same, many⟩)
      · cases same
      · cases same
      · cases same
        exact ⟨member, (mem_handedOut_iff.mp isHandedOut).2, many⟩
    · rintro ⟨member, handsOut, many⟩
      exact .inr ⟨definition.name, mem_handedOut_iff.mpr ⟨List.mem_map_of_mem member, handsOut⟩,
        definition, member, rfl, rfl, many⟩

/-- Movements along one route that give a capability away give different reasons. -/
theorem nodup_map_of_route (differ : (package.codes.map Prod.fst).Nodup) (route : Route)
    (gives : route ≠ .crossModule) {reason : Flow → Ground}
    (tells : ∀ one other, reason one = reason other → one.capability = other.capability ∧
      one.source = other.source ∧ one.via = other.via) {keep : Flow → Bool}
    (alongRoute : ∀ flow, keep flow = true → flow.route = route) :
    (((flowsIn package).filter keep).map reason).Nodup := by
  refine ((nodup_flowsIn differ).filter _).map_on fun one memberOne other memberOther same => ?_
  obtain ⟨isOne, oneKept⟩ := List.mem_filter.mp memberOne
  obtain ⟨isOther, otherKept⟩ := List.mem_filter.mp memberOther
  obtain ⟨sameCapability, sameSource, sameVia⟩ := tells one other same
  have sameRoute := (alongRoute one oneKept).trans (alongRoute other otherKept).symm
  exact eq_of_giving isOne isOther (by rwa [alongRoute one oneKept]) sameCapability sameSource
    sameVia sameRoute

/-- No reason is listed twice. -/
theorem nodup_grounds (differ : (package.codes.map Prod.fst).Nodup) : (grounds package).Nodup := by
  have capabilities : (handedOut (flowsIn package)).Nodup := nodup_distinct _
  have handing : ((handedOut (flowsIn package)).flatMap (transferGrounds package)).Nodup := by
    refine nodup_flatMap_of_label (by rwa [List.map_id]) Ground.capability ?_ ?_
    · intro capability _
      unfold transferGrounds
      split
      · exact List.nodup_nil
      · refine nodup_map_of_route differ .externalTransfer (by decide) ?_ ?_
        · exact fun one other same => Ground.handedOut.inj same
        · intro flow kept
          rw [Bool.and_eq_true] at kept
          exact eq_of_beq kept.1
    · intro capability _ ground member
      obtain ⟨_, _, rfl, _⟩ := mem_transferGrounds_iff.mp member
      rfl
  have sharing : (((flowsIn package).filter (·.route == .publicShare)).map Flow.sharing).Nodup :=
    nodup_map_of_route differ .publicShare (by decide)
      (fun one other same => Ground.shared.inj same) fun flow kept => eq_of_beq kept
  have spreading : ((handedOut (flowsIn package)).filterMap (spreadGround? package)).Nodup := by
    refine capabilities.filterMap fun one other ground ofOne ofOther => ?_
    obtain ⟨_, _, rfl, rfl, _⟩ := spreadGround?_eq_some_iff.mp ofOne
    obtain ⟨_, _, rfl, same, _⟩ := spreadGround?_eq_some_iff.mp ofOther
    rw [Ground.spread.inj same]
  refine List.nodup_append'.mpr ⟨List.nodup_append'.mpr ⟨handing, sharing, ?_⟩, spreading, ?_⟩
  · intro ground isHanding isSharing
    obtain ⟨_, _, member⟩ := List.mem_flatMap.mp isHanding
    obtain ⟨_, _, rfl, _⟩ := mem_transferGrounds_iff.mp member
    obtain ⟨_, _, same⟩ := List.mem_map.mp isSharing
    cases same
  · intro ground isGiven isSpreading
    obtain ⟨_, _, found⟩ := List.mem_filterMap.mp isSpreading
    obtain ⟨_, _, _, rfl, _⟩ := spreadGround?_eq_some_iff.mp found
    rcases List.mem_append.mp isGiven with isHanding | isSharing
    · obtain ⟨_, _, member⟩ := List.mem_flatMap.mp isHanding
      obtain ⟨_, _, same, _⟩ := mem_transferGrounds_iff.mp member
      cases same
    · obtain ⟨_, _, same⟩ := List.mem_map.mp isSharing
      cases same

/-! ### One risk for each ground -/

theorem isToldBy_transferRisk (flow : Flow) : flow.handing.IsToldBy (reportOf package)
    (transferRisk (modulesUsing (usagesOf package) flow.capability) flow) where
  pattern_eq := rfl
  severity_eq := rfl
  module_eq := rfl
  function_eq := rfl
  named := by
    unfold transferRisk
    simp only [String.toList_append, List.append_assoc]
    exact ⟨[], _, rfl⟩
  nodup := nodup_modulesUsing _ _
  affected_eq := (users_reportOf package _).symm

theorem isToldBy_shareRisk (flow : Flow) : flow.sharing.IsToldBy (reportOf package)
    (shareRisk (usagesOf package) flow) where
  pattern_eq := rfl
  severity_eq := by
    unfold shareRisk sharingSeverity criticalNames
    simp only [List.any_eq_true, Text.includes, Text.contains_iff_infix]
  module_eq := rfl
  function_eq := rfl
  named := by
    unfold shareRisk
    simp only [String.toList_append, List.append_assoc]
    exact ⟨"Capability ".toList, _, rfl⟩
  nodup := nodup_modulesUsing _ _
  affected_eq := (users_reportOf package _).symm

/-- The risks tell the reasons one by one. -/
theorem forall₂_grounds (package : Package) : List.Forall₂ (Ground.IsToldBy (reportOf package))
    (grounds package) (reportOf package).risks := by
  refine List.rel_append (List.rel_append ?_ ?_) ?_
  · refine List.rel_flatMap (R := Eq) (List.forall₂_same.mpr fun _ _ => rfl) ?_
    rintro capability _ rfl
    unfold transferGrounds transferRisks
    dsimp only
    split
    · exact .nil
    · rw [List.forall₂_map_left_iff, List.forall₂_map_right_iff, List.forall₂_same]
      intro flow member
      obtain rfl : flow.capability = capability := by
        have tested := (List.mem_filter.mp member).2
        rw [Bool.and_eq_true] at tested
        exact eq_of_beq tested.2
      exact isToldBy_transferRisk flow
  · exact List.forall₂_map_left_iff.mpr (List.forall₂_map_right_iff.mpr
      (List.forall₂_same.mpr fun flow _ => isToldBy_shareRisk flow))
  · refine List.rel_filterMap (R := fun one other =>
      one ∈ handedOut (flowsIn package) ∧ one = other) ?_
        (List.forall₂_same.mpr fun _ member => ⟨member, rfl⟩)
    rintro capability _ ⟨isHandedOut, rfl⟩
    -- What is handed out is a capability of the package, so the search for its entry finds one.
    obtain ⟨definition, member, rfl⟩ := List.mem_map.mp (mem_handedOut_iff.mp isHandedOut).1
    unfold spreadGround? wideRisk?
    dsimp only
    split
    · exact .none
    · rw [find?_of_nodup (nodup_capabilityNames package) member]
      refine .some ⟨rfl, rfl, rfl, rfl, ?_, nodup_importers member, toFinset_importers member⟩
      simp only [String.toList_append, List.append_assoc]
      exact ⟨"Capability ".toList, _, rfl⟩

theorem exists_related_of_mem {One Other : Type} {related : One → Other → Prop} {ones : List One}
    {others : List Other} (pairs : List.Forall₂ related ones others) {one : One}
    (member : one ∈ ones) : ∃ other ∈ others, related one other := by
  induction pairs with
  | nil => cases member
  | cons first rest inductionHypothesis =>
    rcases List.mem_cons.mp member with rfl | isLater
    · exact ⟨_, List.mem_cons_self, first⟩
    · obtain ⟨other, isOther, isRelated⟩ := inductionHypothesis isLater
      exact ⟨other, List.mem_cons_of_mem _ isOther, isRelated⟩

/-- The report on a package whose modules have different names collects every use of a capability that
a parameter or the instructions of a function show, tells each reason to name a risk in a risk of its
own, and tells nothing else. -/
theorem risks_tell_grounds (text : package.HasText)
    (differ : (package.disassembly.map Prod.fst).Nodup) :
    ∃ report, analyse package = .ok report ∧
      (∀ usage, usage ∈ report.usages ↔
        usage.capability ∈ report.capabilities.map (·.name) ∧
          (Takes package usage.use usage.capability usage.module usage.function ∨
            Performs package usage.use usage.capability usage.module usage.function)) ∧
      ∃ grounds : List Ground, grounds.Nodup ∧
        (∀ ground, ground ∈ grounds ↔ ground.Holds package report) ∧
        List.Forall₂ (Ground.IsToldBy report) grounds report.risks :=
  ⟨reportOf package, analyse_of_text text, fun _ => mem_usagesOf_iff, grounds package,
    nodup_grounds (nodup_codes differ), fun _ => mem_grounds_iff, forall₂_grounds package⟩

/-- A function that hands over the capability that it takes. -/
def handOver : String :=
  "public hand_over(Arg0: AdminCap) \x7b\nCall transfer::public_transfer<AdminCap>(AdminCap)\n\x7d"

/-- A module that hands its capability over and another one that takes it. -/
def adminAndPool : Package where
  functions := [⟨"admin", "hand_over", [⟨.struct, some "0xfeed::admin::AdminCap", [], none, none⟩],
      false, 0⟩,
    ⟨"pool", "set_fee", [⟨.reference, some "0xfeed::admin::AdminCap", [], some false, some .struct⟩],
      false, 0⟩]
  disassembly := [("admin", .string ("struct AdminCap has key \x7b\n\x7d\n" ++ handOver)),
    ("pool", .string "public set_fee(Arg0: &AdminCap) \x7b\nRet\n\x7d")]

/-- The capability is used in two modules, so handing it over is a risk. -/
theorem hand_over_told : adminAndPool.HasText ∧ (adminAndPool.disassembly.map Prod.fst).Nodup ∧
    ∃ report, analyse adminAndPool = .ok report ∧ ∃ risk ∈ report.risks,
      (Ground.handedOut "AdminCap" "admin" "hand_over").IsToldBy report risk := by
  have text : adminAndPool.HasText := by simp [Package.HasText, adminAndPool]
  have differ : (adminAndPool.disassembly.map Prod.fst).Nodup := by decide
  obtain ⟨report, analysed, _, grounds, _, mem_grounds, told⟩ := risks_tell_grounds text differ
  refine ⟨text, differ, report, analysed, exists_related_of_mem told ((mem_grounds _).mpr ?_)⟩
  obtain rfl := Except.ok.inj ((analyse_of_text text).symm.trans analysed)
  have handsOut : HandsOut adminAndPool "AdminCap" "admin" "hand_over" :=
    ⟨⟨("struct AdminCap has key \x7b\n\x7d\n" ++ handOver).toList, handOver.toList,
      by decide +kernel, by decide +kernel, by decide +kernel⟩, by decide, by decide⟩
  exact ⟨by decide +kernel, handsOut, by decide +kernel⟩

end MoveAudit.Capability
