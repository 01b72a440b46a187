/-
This file says that a further module hides no risk. Everything that is known of a smaller package is
known of the larger one, so a capability keeps its users and its movements. Only the module that a
capability counts to can change, and then the new module either declares the capability, and was
none of its users, or takes it, and is a user more. Either way as many other modules use the
capability as before.
-/

import MoveAudit.Proofs.Capability.Grounds

namespace MoveAudit.Capability

open Entries Move

/-- One package is another one with a module put in: without the functions and the code of that
module, wherever they stand, it is the smaller one. -/
structure GainsModule (smaller larger : Package) (module : String) : Prop where
  functions_eq : larger.functions.filter (·.module != module) = smaller.functions
  disassembly_eq : larger.disassembly.filter (·.1 != module) = smaller.disassembly

/-- What a risk is told by: its pattern, its severity and its place. -/
def Risk.subject (risk : Risk) : String × Severity × String × String :=
  (risk.pattern, risk.severity, risk.module, risk.function)

variable {smaller larger : Package} {module : String}

/-- What is found first is found in an item that is dropped, or it is still found first. -/
theorem findSome?_cases {Item Found : Type} (keep : Item → Bool) {items : List Item}
    {test : Item → Option Found} {found : Found} (isFirst : items.findSome? test = some found) :
    (∃ item ∈ items, keep item = false ∧ test item = some found) ∨
      (items.filter keep).findSome? test = some found := by
  induction items with
  | nil => cases isFirst
  | cons item rest inductionHypothesis =>
    rw [List.findSome?_cons] at isFirst
    cases tested : test item with
    | some other =>
      rw [tested] at isFirst
      cases isFirst
      cases kept : keep item with
      | false => exact .inl ⟨item, List.mem_cons_self, kept, tested⟩
      | true => exact .inr (by rw [List.filter_cons_of_pos kept, List.findSome?_cons, tested])
    | none =>
      rw [tested] at isFirst
      refine (inductionHypothesis isFirst).imp ?_ fun isKept => ?_
      · exact fun ⟨other, member, isNew⟩ => ⟨other, List.mem_cons_of_mem _ member, isNew⟩
      · cases kept : keep item with
        | false => rwa [List.filter_cons_of_neg (by simp [kept])]
        | true => rwa [List.filter_cons_of_pos kept, List.findSome?_cons, tested]

namespace GainsModule

theorem hasText (gains : GainsModule smaller larger module) (text : larger.HasText) :
    smaller.HasText := by
  intro described member
  rw [← gains.disassembly_eq] at member
  exact text described (List.mem_filter.mp member).1

theorem codes_eq (gains : GainsModule smaller larger module) :
    larger.codes.filter (·.1 != module) = smaller.codes := by
  unfold Package.codes
  rw [← gains.disassembly_eq, List.filter_map]
  rfl

theorem mem_functions (gains : GainsModule smaller larger module) {record : Function}
    (member : record ∈ smaller.functions) : record ∈ larger.functions ∧ record.module ≠ module := by
  rw [← gains.functions_eq, List.mem_filter, bne_iff_ne] at member
  exact member

theorem mem_codes (gains : GainsModule smaller larger module) {described : String × List Char}
    (member : described ∈ smaller.codes) : described ∈ larger.codes ∧ described.1 ≠ module := by
  rw [← gains.codes_eq, List.mem_filter, bne_iff_ne] at member
  exact member

/-! ### What stays known -/

theorem takes (gains : GainsModule smaller larger module) {use : Use}
    {capability user function : String} (taken : Takes smaller use capability user function) :
    Takes larger use capability user function ∧ user ≠ module := by
  obtain ⟨record, member, rfl, named, takenAs⟩ := taken
  obtain ⟨stays, isOther⟩ := gains.mem_functions member
  exact ⟨⟨record, stays, rfl, named, takenAs⟩, isOther⟩

theorem performs (gains : GainsModule smaller larger module) {use : Use}
    {capability user function : String}
    (performed : Performs smaller use capability user function) :
    Performs larger use capability user function ∧ user ≠ module := by
  obtain ⟨code, body, isCode, isBody, isIn⟩ := performed
  obtain ⟨stays, isOther⟩ := gains.mem_codes isCode
  exact ⟨⟨code, body, stays, isBody, isIn⟩, isOther⟩

theorem handsOut (gains : GainsModule smaller larger module) {capability user function : String}
    (handed : HandsOut smaller capability user function) :
    HandsOut larger capability user function := by
  obtain ⟨performed, ⟨record, member, inModule, named⟩, notInitial⟩ := handed
  exact ⟨(gains.performs performed).1, ⟨record, (gains.mem_functions member).1, inModule, named⟩,
    notInitial⟩

theorem declared_subset (gains : GainsModule smaller larger module) :
    declared smaller.codes ⊆ declared larger.codes := by
  intro candidate isDeclared
  obtain ⟨described, isCode, declares⟩ := List.mem_flatMap.mp isDeclared
  exact List.mem_flatMap.mpr ⟨described, (gains.mem_codes isCode).1, declares⟩

theorem taken_subset (gains : GainsModule smaller larger module) :
    taken smaller.functions ⊆ taken larger.functions := by
  intro candidate isTaken
  obtain ⟨record, isRecord, takes⟩ := List.mem_flatMap.mp isTaken
  exact List.mem_flatMap.mpr ⟨record, (gains.mem_functions isRecord).1, takes⟩

theorem names (gains : GainsModule smaller larger module) {name : String}
    (known : name ∈ (capabilitiesOf smaller).map (·.name)) :
    name ∈ (capabilitiesOf larger).map (·.name) := by
  obtain ⟨candidate, member, named⟩ := mem_names_iff.mp known
  refine mem_names_iff.mpr ⟨candidate, ?_, named⟩
  exact (List.mem_append.mp member).elim (fun isDeclared =>
    List.mem_append_left _ (gains.declared_subset isDeclared)) fun isTaken =>
      List.mem_append_right _ (gains.taken_subset isTaken)

/-- Every user of a capability stays one, and none of them is the new module. -/
theorem users (gains : GainsModule smaller larger module) {capability user : String}
    (member : user ∈ (reportOf smaller).users capability) :
    user ∈ (reportOf larger).users capability ∧ user ≠ module := by
  rw [users_reportOf, List.mem_toFinset, mem_modulesUsing_iff] at member ⊢
  obtain ⟨usage, isUsed, named, rfl⟩ := member
  obtain ⟨known, taken | performed⟩ := mem_usagesOf_iff.mp isUsed
  · obtain ⟨stays, isOther⟩ := gains.takes taken
    exact ⟨⟨usage, mem_usagesOf_iff.mpr ⟨gains.names known, .inl stays⟩, named, rfl⟩, isOther⟩
  · obtain ⟨stays, isOther⟩ := gains.performs performed
    exact ⟨⟨usage, mem_usagesOf_iff.mpr ⟨gains.names known, .inr stays⟩, named, rfl⟩, isOther⟩

theorem users_subset (gains : GainsModule smaller larger module) (capability : String) :
    (reportOf smaller).users capability ⊆ (reportOf larger).users capability :=
  fun _ member => (gains.users member).1

/-! ### The module that a capability counts to -/

/-- The first capability that is declared under a name stays the first one, or the new module
declares it. -/
theorem declared_cases (gains : GainsModule smaller larger module) {name : String}
    {definition : Definition}
    (isFirst : (declared larger.codes).find? (·.name == name) = some definition) :
    (declared smaller.codes).find? (·.name == name) = some definition ∨
      definition.module = module := by
  unfold declared at isFirst ⊢
  rw [List.find?_flatMap] at isFirst ⊢
  rcases findSome?_cases (·.1 != module) isFirst with ⟨described, _, isNew, found⟩ | stays
  · obtain ⟨_, _, _, rfl⟩ := mem_declaredIn_iff.mp (List.mem_of_find?_eq_some found)
    exact .inr (by simpa using isNew)
  · rw [gains.codes_eq] at stays
    exact .inl stays

/-- The first capability that is taken under a name stays the first one, or the new module uses
it. -/
theorem taken_cases (gains : GainsModule smaller larger module) {definition : Definition}
    (member : definition ∈ capabilitiesOf larger)
    (isFirst : (taken larger.functions).find? (·.name == definition.name) = some definition) :
    (taken smaller.functions).find? (·.name == definition.name) = some definition ∨
      module ∈ (reportOf larger).users definition.name := by
  unfold taken at isFirst ⊢
  rw [List.find?_flatMap] at isFirst ⊢
  rcases findSome?_cases (·.module != module) isFirst with ⟨record, isRecord, isNew, found⟩ | stays
  · obtain ⟨use, takes⟩ := exists_takenAs? (List.mem_of_find?_eq_some found)
    obtain rfl : record.module = module := by simpa using isNew
    refine .inr ?_
    rw [users_reportOf, List.mem_toFinset, mem_modulesUsing_iff]
    exact ⟨⟨definition.name, record.module, record.name, use⟩,
      mem_usagesOf_iff.mpr ⟨List.mem_map_of_mem member, .inl ⟨record, isRecord, rfl, rfl, takes⟩⟩,
      rfl, rfl⟩
  · rw [gains.functions_eq] at stays
    exact .inl stays

theorem not_declared (gains : GainsModule smaller larger module) {name : String}
    (absent : (declared larger.codes).find? (·.name == name) = none) :
    (declared smaller.codes).find? (·.name == name) = none := by
  rw [List.find?_eq_none] at absent ⊢
  exact fun candidate member => absent candidate (gains.declared_subset member)

/-- A capability counts to the module that it counted to, or the new module is the one that it
counts to, or the new module uses it. -/
theorem definition_cases (gains : GainsModule smaller larger module) {definition : Definition}
    (member : definition ∈ capabilitiesOf larger) :
    (definition ∈ capabilitiesOf smaller ∨ definition.module = module) ∨
      module ∈ (reportOf larger).users definition.name := by
  rcases mem_capabilitiesOf_iff_cases.mp member with isDeclared | ⟨notDeclared, isTaken⟩
  · exact .inl ((gains.declared_cases isDeclared).imp_left fun stays =>
      mem_capabilitiesOf_iff_cases.mpr (.inl stays))
  · exact (gains.taken_cases member isTaken).imp_left fun stays =>
      .inl (mem_capabilitiesOf_iff_cases.mpr (.inr ⟨gains.not_declared notDeclared, stays⟩))

/-- When the functions of the new module come last, a known capability that they take has been taken
before. -/
theorem definition_cases_of_last (gains : GainsModule smaller larger module)
    (last : smaller.functions <+: larger.functions) {definition : Definition}
    (member : definition ∈ capabilitiesOf larger)
    (known : definition.name ∈ (capabilitiesOf smaller).map (·.name)) :
    definition ∈ capabilitiesOf smaller ∨ definition.module = module := by
  rcases mem_capabilitiesOf_iff_cases.mp member with isDeclared | ⟨notDeclared, isTaken⟩
  · exact (gains.declared_cases isDeclared).imp_left fun stays =>
      mem_capabilitiesOf_iff_cases.mpr (.inl stays)
  · obtain ⟨old, isOld, named⟩ := List.mem_map.mp known
    obtain ⟨own, larger_eq⟩ := last
    have absent := gains.not_declared notDeclared
    rw [← named] at absent isTaken
    rcases mem_capabilitiesOf_iff_cases.mp isOld with wasDeclared | ⟨_, wasTaken⟩
    · cases absent.symm.trans wasDeclared
    · unfold taken at isTaken wasTaken
      rw [← larger_eq, List.flatMap_append, List.find?_append, wasTaken, Option.some_or] at isTaken
      exact .inl (Option.some.inj isTaken ▸ isOld)

/-! ### How far a capability reaches -/

theorem reach_subset (gains : GainsModule smaller larger module) {old kept : Definition}
    (isOld : old ∈ capabilitiesOf smaller) (sameName : kept.name = old.name)
    (same : kept ∈ capabilitiesOf smaller ∨ kept.module = module) :
    ((reportOf smaller).users old.name).erase old.module ⊆
      ((reportOf larger).users kept.name).erase kept.module := by
  rw [sameName]
  rcases same with isKept | rfl
  · rw [List.inj_on_of_nodup_map (nodup_capabilityNames smaller) isKept isOld sameName]
    exact Finset.erase_subset_erase _ (gains.users_subset _)
  · intro user member
    obtain ⟨stays, isOther⟩ := gains.users (Finset.mem_of_mem_erase member)
    exact Finset.mem_erase.mpr ⟨isOther, stays⟩

/-- As many modules other than its own use a capability as before. -/
theorem card_reach_le (gains : GainsModule smaller larger module) {old kept : Definition}
    (isOld : old ∈ capabilitiesOf smaller) (isKept : kept ∈ capabilitiesOf larger)
    (sameName : kept.name = old.name) :
    (((reportOf smaller).users old.name).erase old.module).card ≤
      (((reportOf larger).users kept.name).erase kept.module).card := by
  rcases gains.definition_cases isKept with same | isUser
  · exact Finset.card_le_card (gains.reach_subset isOld sameName same)
  · -- The capability may count to an old user now, but the new module makes up for that one.
    have others : (reportOf smaller).users old.name ⊆
        ((reportOf larger).users kept.name).erase module := by
      intro user member
      obtain ⟨stays, isOther⟩ := gains.users member
      exact Finset.mem_erase.mpr ⟨isOther, sameName ▸ stays⟩
    calc (((reportOf smaller).users old.name).erase old.module).card
        ≤ ((reportOf smaller).users old.name).card := Finset.card_erase_le
      _ ≤ (((reportOf larger).users kept.name).erase module).card := Finset.card_le_card others
      _ = ((reportOf larger).users kept.name).card - 1 := Finset.card_erase_of_mem isUser
      _ ≤ (((reportOf larger).users kept.name).erase kept.module).card :=
        Finset.pred_card_le_card_erase

end GainsModule

/-! ### Every risk stays -/

theorem Risk.Tells.subject_eq {risk : Risk} {pattern : String} {severity : Severity}
    {user function capability : String} {affected : Finset String}
    (told : risk.Tells pattern severity user function capability affected) :
    risk.subject = (pattern, severity, user, function) := by
  unfold Risk.subject
  rw [told.pattern_eq, told.severity_eq, told.module_eq, told.function_eq]

theorem Risk.Tells.affected_subset {risk kept : Risk} {pattern : String} {severity : Severity}
    {user function capability again : String} {few many : Finset String}
    (told : risk.Tells pattern severity user function capability few)
    (toldAgain : kept.Tells pattern severity user function again many) (subset : few ⊆ many) :
    risk.affected ⊆ kept.affected := by
  rw [← told.affected_eq, ← toldAgain.affected_eq] at subset
  exact fun user member => List.mem_toFinset.mp (subset (List.mem_toFinset.mpr member))

/-- For each reason to name a risk of a package there is one to name a risk of the larger package,
and the two risks are told by the same. -/
theorem GainsModule.exists_ground (gains : GainsModule smaller larger module) {ground : Ground}
    (holds : ground.Holds smaller (reportOf smaller)) :
    ∃ again : Ground, again.Holds larger (reportOf larger) ∧ ∀ risk kept,
      ground.IsToldBy (reportOf smaller) risk → again.IsToldBy (reportOf larger) kept →
        kept.subject = risk.subject ∧
          (smaller.functions <+: larger.functions → risk.affected ⊆ kept.affected) := by
  cases ground with
  | handedOut capability user function =>
    obtain ⟨known, handed, many⟩ := holds
    have users := gains.users_subset capability
    exact ⟨.handedOut capability user function,
      ⟨gains.names known, gains.handsOut handed, many.trans (Finset.card_le_card users)⟩,
      fun risk kept told toldAgain => ⟨toldAgain.subject_eq.trans told.subject_eq.symm,
        fun _ => told.affected_subset toldAgain users⟩⟩
  | shared capability user function =>
    obtain ⟨known, performed⟩ := holds
    exact ⟨.shared capability user function, ⟨gains.names known, (gains.performs performed).1⟩,
      fun risk kept told toldAgain => ⟨toldAgain.subject_eq.trans told.subject_eq.symm,
        fun _ => told.affected_subset toldAgain (gains.users_subset capability)⟩⟩
  | spread old =>
    -- The capability has an entry still, but it need not be the one that it had.
    obtain ⟨isOld, ⟨user, function, handed⟩, many⟩ := holds
    obtain ⟨definition, isDefined, sameName⟩ :=
      List.mem_map.mp (gains.names (List.mem_map_of_mem isOld))
    refine ⟨.spread definition, ⟨isDefined, ⟨user, function, sameName ▸ gains.handsOut handed⟩,
      many.trans (gains.card_reach_le isOld isDefined sameName)⟩,
      fun risk kept told toldAgain => ⟨toldAgain.subject_eq.trans told.subject_eq.symm,
        fun last => told.affected_subset toldAgain (gains.reach_subset isOld sameName ?_)⟩⟩
    exact gains.definition_cases_of_last last isDefined (sameName ▸ List.mem_map_of_mem isOld)

/-- Every risk of a package is a risk of that package with a further module put in anywhere, with
the same pattern, severity and place. When the functions of that module come after all others, the
risk lists every module that it listed before. -/
theorem risks_survive_growth (text : larger.HasText) (gains : GainsModule smaller larger module) :
    ∃ before after, analyse smaller = .ok before ∧ analyse larger = .ok after ∧
      ∀ risk ∈ before.risks, ∃ kept ∈ after.risks, kept.subject = risk.subject ∧
        (smaller.functions <+: larger.functions → risk.affected ⊆ kept.affected) := by
  refine ⟨reportOf smaller, reportOf larger, analyse_of_text (gains.hasText text),
    analyse_of_text text, fun risk member => ?_⟩
  obtain ⟨ground, isGround, told⟩ := exists_related_of_mem (forall₂_grounds smaller).flip member
  obtain ⟨again, holds, keeps⟩ := gains.exists_ground (mem_grounds_iff.mp isGround)
  obtain ⟨kept, isKept, toldAgain⟩ :=
    exists_related_of_mem (forall₂_grounds larger) (mem_grounds_iff.mpr holds)
  exact ⟨kept, isKept, keeps risk kept told toldAgain⟩

/-- The admin and the pool with a module whose code, in front of theirs, declares a capability of
the same name, and whose function comes last. -/
def adminPoolAndMint : Package where
  functions := adminAndPool.functions ++
    [⟨"mint", "issue", [⟨.struct, some "0xfeed::mint::AdminCap", [], none, none⟩], false, 0⟩]
  disassembly := ("mint", .string "struct AdminCap has key \x7b\n\x7d") :: adminAndPool.disassembly

/-- The capability counts to the new module now, and handing it over is still a risk to both
others. -/
theorem hand_over_survives_mint :
    adminPoolAndMint.HasText ∧ GainsModule adminAndPool adminPoolAndMint "mint" ∧
      adminAndPool.functions <+: adminPoolAndMint.functions ∧
      ∃ after, analyse adminPoolAndMint = .ok after ∧ ∃ kept ∈ after.risks,
        kept.subject = ("CROSS-MODULE-CAP-TRANSFER", .critical, "admin", "hand_over") ∧
          ["admin", "pool"] ⊆ kept.affected := by
  have text : adminPoolAndMint.HasText := by
    simp [Package.HasText, adminPoolAndMint, adminAndPool]
  have gains : GainsModule adminAndPool adminPoolAndMint "mint" :=
    ⟨by decide, by simp [adminPoolAndMint, adminAndPool]⟩
  have last : adminAndPool.functions <+: adminPoolAndMint.functions := List.prefix_append _ _
  obtain ⟨before, after, analysed, analysedAgain, survives⟩ := risks_survive_growth text gains
  obtain rfl := Except.ok.inj ((analyse_of_text (gains.hasText text)).symm.trans analysed)
  have isTold : ∃ risk ∈ (reportOf adminAndPool).risks,
      risk.subject = ("CROSS-MODULE-CAP-TRANSFER", .critical, "admin", "hand_over") ∧
        risk.affected = ["admin", "pool"] := by
    decide +kernel
  obtain ⟨risk, isRisk, subject, affected⟩ := isTold
  obtain ⟨kept, isKept, same, reaches⟩ := survives risk isRisk
  exact ⟨text, gains, last, after, analysedAgain, kept, isKept, same.trans subject,
    affected ▸ reaches last⟩

end MoveAudit.Capability
