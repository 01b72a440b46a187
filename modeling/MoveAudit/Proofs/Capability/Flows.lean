/-
This file says which uses of capabilities a report collects and which movements it makes of them. A
use is collected exactly if a function takes the capability as a parameter or its instructions show
the use, and a movement gives a capability away exactly if the instructions of its function do. When
modules have different names nothing is collected twice, because every pass goes through things that
are told apart by what it writes down of them.
-/

import MoveAudit.Proofs.Capability.Definitions

namespace MoveAudit.Capability

open Entries Move

variable {package : Package} {use : Use} {capability module function : String}

/-! ### Uses -/

/-- A function takes a capability as a parameter, in the way that its first such parameter tells. -/
def Takes (package : Package) (use : Use) (capability module function : String) : Prop :=
  ∃ record ∈ package.functions, record.module = module ∧ record.name = function ∧
    takenAs? record capability = some use

/-- The instructions of a function in a module's disassembly show a use of a capability. -/
def Performs (package : Package) (use : Use) (capability module function : String) : Prop :=
  ∃ code body, (module, code) ∈ package.codes ∧ (function, body) ∈ Listing.bodies code ∧
    use.isIn capability.toList body = true

theorem mem_shown_of_isIn {name body : List Char} (isIn : use.isIn name body = true) :
    use ∈ Use.shown := by
  cases use with
  | created | transferred | shared | destroyed => decide
  | parameter | borrowedMutably | borrowed => cases isIn

theorem not_takes_of_shown (shown : use ∈ Use.shown) :
    ¬ Takes package use capability module function := by
  rintro ⟨record, _, _, _, taken⟩
  obtain ⟨param, _, rfl⟩ := Option.map_eq_some_iff.mp taken
  revert shown
  split
  · split <;> decide
  · decide

/-- A function that takes a capability into the package takes it in some way. -/
theorem exists_takenAs? {record : Function} {definition : Definition}
    (takes : definition ∈ record.params.filterMap (takenBy? record)) :
    ∃ use, takenAs? record definition.name = some use := by
  obtain ⟨param, isParam, isTaken⟩ := List.mem_filterMap.mp takes
  have named : param.structName = definition.name := by
    unfold takenBy? at isTaken
    dsimp only at isTaken
    split at isTaken
    · cases isTaken
      rfl
    · cases isTaken
  have found : (record.params.find? (·.structName == definition.name)).isSome = true :=
    List.find?_isSome.mpr ⟨param, isParam, beq_iff_eq.mpr named⟩
  obtain ⟨first, isFirst⟩ := Option.isSome_iff_exists.mp found
  exact ⟨_, Option.map_eq_some_iff.mpr ⟨first, isFirst, rfl⟩⟩

theorem mem_paramUsages_iff {capabilities : List String} {usage : Usage} :
    usage ∈ paramUsages package capabilities ↔ usage.capability ∈ capabilities ∧
      Takes package usage.use usage.capability usage.module usage.function := by
  constructor
  · intro member
    obtain ⟨record, isRecord, ofRecord⟩ := List.mem_flatMap.mp member
    obtain ⟨capability, known, isTaken⟩ := List.mem_filterMap.mp ofRecord
    obtain ⟨use, taken, rfl⟩ := Option.map_eq_some_iff.mp isTaken
    exact ⟨known, record, isRecord, rfl, rfl, taken⟩
  · obtain ⟨capability, module, function, use⟩ := usage
    rintro ⟨known, record, isRecord, rfl, rfl, taken⟩
    exact List.mem_flatMap.mpr ⟨record, isRecord,
      List.mem_filterMap.mpr ⟨capability, known, Option.map_eq_some_iff.mpr ⟨use, taken, rfl⟩⟩⟩

theorem mem_bodyUsages_iff {capabilities : List String} {usage : Usage} :
    usage ∈ bodyUsages (bodiesOf package) capabilities ↔ usage.capability ∈ capabilities ∧
      Performs package usage.use usage.capability usage.module usage.function := by
  constructor
  · intro member
    obtain ⟨capability, known, inModules⟩ := List.mem_flatMap.mp member
    obtain ⟨⟨module, functions⟩, isModule, inFunctions⟩ := List.mem_flatMap.mp inModules
    obtain ⟨⟨function, body⟩, isFunction, shows⟩ := List.mem_flatMap.mp inFunctions
    obtain ⟨⟨_, code⟩, isCode, same⟩ := List.mem_map.mp isModule
    obtain ⟨use, isShown, rfl⟩ := List.mem_map.mp shows
    cases same
    exact ⟨known, code, body, isCode, isFunction, (List.mem_filter.mp isShown).2⟩
  · obtain ⟨capability, module, function, use⟩ := usage
    rintro ⟨known, code, body, isCode, isFunction, isIn⟩
    refine List.mem_flatMap.mpr ⟨capability, known, List.mem_flatMap.mpr
      ⟨(module, Listing.bodies code), List.mem_map_of_mem isCode, List.mem_flatMap.mpr
        ⟨(function, body), isFunction, List.mem_map_of_mem ?_⟩⟩⟩
    exact List.mem_filter.mpr ⟨mem_shown_of_isIn isIn, isIn⟩

/-- A use of a capability of the package is collected exactly if a function takes the capability in
that way or its instructions show the use. -/
theorem mem_usagesOf_iff {usage : Usage} : usage ∈ usagesOf package ↔
    usage.capability ∈ (capabilitiesOf package).map (·.name) ∧
      (Takes package usage.use usage.capability usage.module usage.function ∨
        Performs package usage.use usage.capability usage.module usage.function) := by
  unfold usagesOf usages
  rw [List.mem_append, mem_paramUsages_iff, and_or_left]
  exact or_congr_right mem_bodyUsages_iff

theorem mem_usagesOf_of_shown {usage : Usage} (shown : usage.use ∈ Use.shown) :
    usage ∈ usagesOf package ↔ usage.capability ∈ (capabilitiesOf package).map (·.name) ∧
      Performs package usage.use usage.capability usage.module usage.function :=
  mem_usagesOf_iff.trans (and_congr_right fun _ => or_iff_right (not_takes_of_shown shown))

/-! ### Movements -/

/-- A public function other than the initializer hands a capability over. -/
def HandsOut (package : Package) (capability module function : String) : Prop :=
  Performs package .transferred capability module function ∧
    (∃ record ∈ package.functions, record.module = module ∧ record.name = function) ∧
    function ≠ "init"

theorem isPublic_iff : isPublic package module function = true ↔
    ∃ record ∈ package.functions, record.module = module ∧ record.name = function := by
  unfold isPublic
  simp only [List.any_eq_true, Bool.and_eq_true, beq_iff_eq]

/-- What a use amounts to is a movement of its capability out of its module through its function,
along a route that tells which use it was. -/
theorem flowOf?_cases {usage : Usage} {flow : Flow} (moved : flowOf? package usage = some flow) :
    (flow.capability = usage.capability ∧ flow.source = usage.module ∧ flow.via = usage.function) ∧
      (usage.use = .shared ∧ flow.route = .publicShare ∨
        usage.use = .transferred ∧ (flow.route = .initialGrant ∨ flow.route = .externalTransfer ∧
          isPublic package usage.module usage.function = true ∧ usage.function ≠ "init")) := by
  unfold flowOf? isInitializer at moved
  split at moved
  · next isTransferred =>
    split at moved
    · next isOutside =>
      cases moved
      rw [Bool.and_eq_true, Bool.not_eq_true', beq_eq_false_iff_ne] at isOutside
      exact ⟨⟨rfl, rfl, rfl⟩, .inr ⟨isTransferred, .inr ⟨rfl, isOutside⟩⟩⟩
    · cases moved
      exact ⟨⟨rfl, rfl, rfl⟩, .inr ⟨isTransferred, .inl rfl⟩⟩
  · next isShared =>
    cases moved
    exact ⟨⟨rfl, rfl, rfl⟩, .inl ⟨isShared, rfl⟩⟩
  · cases moved

theorem mem_shown_of_flowOf? {usage : Usage} {flow : Flow}
    (moved : flowOf? package usage = some flow) : usage.use ∈ Use.shown := by
  obtain ⟨_, ⟨use, _⟩ | ⟨use, _⟩⟩ := flowOf?_cases moved <;>
  · rw [use]
    decide

theorem route_ne_of_flowOf? {usage : Usage} {flow : Flow}
    (moved : flowOf? package usage = some flow) : flow.route ≠ .crossModule := by
  obtain ⟨_, ⟨_, route⟩ | ⟨_, route | ⟨route, _⟩⟩⟩ := flowOf?_cases moved <;>
    simp [route]

theorem capability_of_mem_flowsOf {used : List Usage} {definition : Definition} {flow : Flow}
    (member : flow ∈ flowsOf package used definition) : flow.capability = definition.name := by
  rcases List.mem_append.mp member with isGiven | crosses
  · obtain ⟨usage, isUsed, moved⟩ := List.mem_filterMap.mp isGiven
    rw [(flowOf?_cases moved).1.1, eq_of_beq (List.mem_filter.mp isUsed).2]
  · obtain ⟨_, _, rfl⟩ := List.mem_map.mp crosses
    rfl

/-- A movement's capability, place and route tell which use it is made of. -/
theorem eq_of_flowOf? {one other : Usage} {first second : Flow}
    (ofOne : flowOf? package one = some first) (ofOther : flowOf? package other = some second)
    (sameCapability : first.capability = second.capability)
    (sameSource : first.source = second.source) (sameVia : first.via = second.via)
    (sameRoute : first.route = second.route) : one = other := by
  obtain ⟨⟨capabilityOne, sourceOne, viaOne⟩, usedOne⟩ := flowOf?_cases ofOne
  obtain ⟨⟨capabilityOther, sourceOther, viaOther⟩, usedOther⟩ := flowOf?_cases ofOther
  have sameUse : one.use = other.use := by
    rcases usedOne with ⟨use, route⟩ | ⟨use, route | ⟨route, _⟩⟩ <;>
      rcases usedOther with ⟨otherUse, otherRoute⟩ | ⟨otherUse, otherRoute | ⟨otherRoute, _⟩⟩ <;>
      first
      | exact use.trans otherUse.symm
      | cases route.symm.trans (sameRoute.trans otherRoute)
  obtain ⟨capability, module, function, use⟩ := one
  obtain ⟨otherCapability, otherModule, otherFunction, otherUse⟩ := other
  obtain rfl := capabilityOne.symm.trans (sameCapability.trans capabilityOther)
  obtain rfl := sourceOne.symm.trans (sameSource.trans sourceOther)
  obtain rfl := viaOne.symm.trans (sameVia.trans viaOther)
  obtain rfl := sameUse
  rfl

theorem mem_flowsIn_iff {flow : Flow} : flow ∈ flowsIn package ↔
    ∃ definition ∈ capabilitiesOf package,
      (∃ usage ∈ usagesOf package, usage.capability = definition.name ∧
        flowOf? package usage = some flow) ∨
      ∃ user ∈ modulesUsing (usagesOf package) definition.name, user ≠ definition.module ∧
        flow = ⟨definition.name, definition.module, user, "cross_module_import", .crossModule⟩ := by
  unfold flowsIn flowsOf
  simp only [List.mem_flatMap, List.mem_append, List.mem_filterMap, List.mem_map, List.mem_filter,
    beq_iff_eq, bne_iff_ne, and_assoc, eq_comm (a := flow)]

theorem mem_flowsIn_of_giving {flow : Flow} (gives : flow.route ≠ .crossModule) :
    flow ∈ flowsIn package ↔ ∃ usage ∈ usagesOf package, flowOf? package usage = some flow := by
  rw [mem_flowsIn_iff]
  constructor
  · rintro ⟨definition, _, ⟨usage, isUsed, _, moved⟩ | ⟨_, _, _, rfl⟩⟩
    · exact ⟨usage, isUsed, moved⟩
    · exact absurd rfl gives
  · rintro ⟨usage, isUsed, moved⟩
    obtain ⟨definition, isDefined, named⟩ := List.mem_map.mp (mem_usagesOf_iff.mp isUsed).1
    exact ⟨definition, isDefined, .inl ⟨usage, isUsed, named.symm, moved⟩⟩

/-- A capability is given away along a route exactly if a use that instructions show of it goes
there. -/
theorem exists_route_iff {route : Route} (gives : route ≠ .crossModule) :
    (∃ flow ∈ flowsIn package, flow.route = route ∧ flow.capability = capability ∧
        flow.source = module ∧ flow.via = function) ↔
      capability ∈ (capabilitiesOf package).map (·.name) ∧
        ∃ use, Performs package use capability module function ∧
          (flowOf? package ⟨capability, module, function, use⟩).map (·.route) = some route := by
  constructor
  · rintro ⟨flow, member, rfl, rfl, rfl, rfl⟩
    obtain ⟨usage, isUsed, moved⟩ := (mem_flowsIn_of_giving gives).mp member
    obtain ⟨⟨sameCapability, sameSource, sameVia⟩, _⟩ := flowOf?_cases moved
    obtain ⟨known, performed⟩ := (mem_usagesOf_of_shown (mem_shown_of_flowOf? moved)).mp isUsed
    rw [sameCapability, sameSource, sameVia]
    exact ⟨known, usage.use, performed, Option.map_eq_some_iff.mpr ⟨flow, moved, rfl⟩⟩
  · rintro ⟨known, use, performed, routed⟩
    obtain ⟨flow, moved, rfl⟩ := Option.map_eq_some_iff.mp routed
    exact ⟨flow, (mem_flowsIn_of_giving gives).mpr
      ⟨_, mem_usagesOf_iff.mpr ⟨known, .inr performed⟩, moved⟩, rfl, (flowOf?_cases moved).1⟩

/-- A movement gives a capability to whomever a caller names exactly if its function hands the
capability out. -/
theorem exists_external_iff : (∃ flow ∈ flowsIn package, flow.route = .externalTransfer ∧
      flow.capability = capability ∧ flow.source = module ∧ flow.via = function) ↔
    capability ∈ (capabilitiesOf package).map (·.name) ∧
      HandsOut package capability module function := by
  have outside_iff (use : Use) : (flowOf? package ⟨capability, module, function, use⟩).map
      (·.route) = some .externalTransfer ↔ use = .transferred ∧
        isPublic package module function = true ∧ function ≠ "init" := by
    unfold flowOf? isInitializer
    cases use <;> grind
  rw [exists_route_iff (by decide)]
  simp only [outside_iff, isPublic_iff]
  refine and_congr_right fun _ => ⟨?_, fun handsOut => ⟨.transferred, handsOut.1, rfl, handsOut.2⟩⟩
  rintro ⟨_, performed, rfl, outside⟩
  exact ⟨performed, outside⟩

/-- A movement shares a capability exactly if the instructions of its function do. -/
theorem exists_shared_iff : (∃ flow ∈ flowsIn package, flow.route = .publicShare ∧
      flow.capability = capability ∧ flow.source = module ∧ flow.via = function) ↔
    capability ∈ (capabilitiesOf package).map (·.name) ∧
      Performs package .shared capability module function := by
  have shared_iff (use : Use) : (flowOf? package ⟨capability, module, function, use⟩).map
      (·.route) = some .publicShare ↔ use = .shared := by
    unfold flowOf?
    cases use <;> grind
  rw [exists_route_iff (by decide)]
  simp only [shared_iff, exists_eq_right]

/-! ### Nothing is collected twice -/

theorem nodup_capabilityNames (package : Package) :
    ((capabilitiesOf package).map (·.name)).Nodup :=
  nodup_keepFirst _ _

theorem nodup_bodies (code : List Char) : ((Listing.bodies code).map Prod.fst).Nodup := by
  have entered : Listing.bodies code = _ :=
    foldl_putNew Prod.fst Prod.snd (Listing.cutAtNext (Listing.headers code))
  rw [entered, List.map_map]
  exact nodup_keepFirst Prod.fst (Listing.cutAtNext (Listing.headers code))

/-- Modules, functions and uses tell apart what instructions show of a capability. -/
theorem nodup_bodyUsages (differ : (package.codes.map Prod.fst).Nodup) {capabilities : List String}
    (names : capabilities.Nodup) : (bodyUsages (bodiesOf package) capabilities).Nodup := by
  have modules : ((bodiesOf package).map Prod.fst).Nodup := by
    unfold bodiesOf
    rwa [List.map_map]
  rw [← List.map_id capabilities] at names
  unfold bodyUsages
  refine nodup_flatMap_of_label names Usage.capability ?_ ?_
  · intro capability _
    refine nodup_flatMap_of_label modules Usage.module ?_ ?_
    · intro described isModule
      obtain ⟨⟨module, code⟩, _, rfl⟩ := List.mem_map.mp isModule
      refine nodup_flatMap_of_label (nodup_bodies code) Usage.function ?_ ?_
      · rintro ⟨function, body⟩ _
        refine ((by decide : Use.shown.Nodup).filter _).map fun one other same => ?_
        exact (Usage.mk.inj same).2.2.2
      · rintro ⟨function, body⟩ _ usage shows
        obtain ⟨_, _, rfl⟩ := List.mem_map.mp shows
        rfl
    · rintro ⟨module, functions⟩ _ usage inFunctions
      obtain ⟨_, _, shows⟩ := List.mem_flatMap.mp inFunctions
      obtain ⟨_, _, rfl⟩ := List.mem_map.mp shows
      rfl
  · intro capability _ usage inModules
    obtain ⟨_, _, inFunctions⟩ := List.mem_flatMap.mp inModules
    obtain ⟨_, _, shows⟩ := List.mem_flatMap.mp inFunctions
    obtain ⟨_, _, rfl⟩ := List.mem_map.mp shows
    rfl

/-- The movements of a package with modules of different names are all different. -/
theorem nodup_flowsIn (differ : (package.codes.map Prod.fst).Nodup) : (flowsIn package).Nodup := by
  -- A parameter amounts to no movement, so only what instructions show has to be told apart here;
  -- two functions of one name may well take a capability in the same way.
  have given (definition : Definition) : (((usagesOf package).filter
      (·.capability == definition.name)).filterMap (flowOf? package)).Nodup := by
    have none : ((paramUsages package ((capabilitiesOf package).map (·.name))).filter
        (·.capability == definition.name)).filterMap (flowOf? package) = [] := by
      refine List.filterMap_eq_nil_iff.mpr fun usage member =>
        Option.eq_none_iff_forall_ne_some.mpr fun flow moved => ?_
      exact not_takes_of_shown (mem_shown_of_flowOf? moved)
        (mem_paramUsages_iff.mp (List.mem_filter.mp member).1).2
    have bodies := nodup_bodyUsages differ (nodup_capabilityNames package)
    unfold usagesOf usages
    rw [List.filter_append, List.filterMap_append, none, List.nil_append]
    exact (bodies.filter _).filterMap fun _ _ _ ofOne ofOther =>
      eq_of_flowOf? ofOne ofOther rfl rfl rfl rfl
  refine nodup_flatMap_of_label (nodup_capabilityNames package) Flow.capability ?_ ?_
  · intro definition _
    refine List.nodup_append'.mpr ⟨given definition, ?_, ?_⟩
    · exact ((nodup_distinct _).filter _).map fun _ _ same => (Flow.mk.inj same).2.2.1
    · intro flow isGiven crosses
      obtain ⟨usage, _, moved⟩ := List.mem_filterMap.mp isGiven
      obtain ⟨_, _, rfl⟩ := List.mem_map.mp crosses
      exact route_ne_of_flowOf? moved rfl
  · exact fun definition _ flow => capability_of_mem_flowsOf

/-- Movements that give a capability away are told apart by the capability, the place and the
route. -/
theorem eq_of_giving {one other : Flow} (isOne : one ∈ flowsIn package)
    (isOther : other ∈ flowsIn package) (gives : one.route ≠ .crossModule)
    (sameCapability : one.capability = other.capability) (sameSource : one.source = other.source)
    (sameVia : one.via = other.via) (sameRoute : one.route = other.route) : one = other := by
  obtain ⟨first, _, ofFirst⟩ := (mem_flowsIn_of_giving gives).mp isOne
  obtain ⟨second, _, ofSecond⟩ := (mem_flowsIn_of_giving (sameRoute ▸ gives)).mp isOther
  rw [eq_of_flowOf? ofFirst ofSecond sameCapability sameSource sameVia sameRoute] at ofFirst
  exact Option.some.inj (ofFirst.symm.trans ofSecond)

/-! ### The modules that a capability reaches -/

theorem mem_modulesUsing_iff {used : List Usage} :
    module ∈ modulesUsing used capability ↔
      ∃ usage ∈ used, usage.capability = capability ∧ usage.module = module := by
  unfold modulesUsing
  simp only [mem_distinct, List.mem_map, List.mem_filter, beq_iff_eq, and_assoc]

theorem nodup_modulesUsing (used : List Usage) (capability : String) :
    (modulesUsing used capability).Nodup :=
  nodup_distinct _

/-- The modules that movements lead a capability into are those that use it, without its own. -/
theorem importers_flowsIn {definition : Definition} (member : definition ∈ capabilitiesOf package) :
    importers (flowsIn package) definition.name =
      (modulesUsing (usagesOf package) definition.name).filter (· != definition.module) := by
  have none : (((usagesOf package).filter (·.capability == definition.name)).filterMap
      (flowOf? package)).filter (fun flow =>
        flow.capability == definition.name && flow.route == .crossModule) = [] := by
    refine List.filter_eq_nil_iff.mpr fun flow isGiven => ?_
    obtain ⟨usage, _, moved⟩ := List.mem_filterMap.mp isGiven
    simp [route_ne_of_flowOf? moved]
  unfold importers flowsIn
  rw [List.filter_flatMap, flatMap_of_nodup (nodup_capabilityNames package) member]
  · unfold flowsOf
    rw [List.filter_append, none, List.nil_append, List.filter_eq_self.mpr, List.map_map]
    · exact List.map_id _
    · intro flow crosses
      obtain ⟨_, _, rfl⟩ := List.mem_map.mp crosses
      simp
  · intro other _ different
    refine List.filter_eq_nil_iff.mpr fun flow isOther => ?_
    rw [capability_of_mem_flowsOf isOther, beq_false_of_ne different]
    simp

end MoveAudit.Capability
