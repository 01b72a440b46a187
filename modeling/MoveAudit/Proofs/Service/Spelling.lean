/-
This file says to whom the verdict on a package is passed on. A verdict is kept under the text that
the package was asked for by, and a dependency is looked up by the text that it was written with. So
the verdict reaches a package that depends on it exactly if the two are the same text, up to blanks
around what was asked for; another spelling of the same address finds nothing.
-/

import MoveAudit.Proofs.Service.Requests
import MoveAudit.Proofs.Text.Blank

namespace MoveAudit.Service

open Json Move

/-! ### The only verdict -/

section Only

variable {package : String} {network : Network} {card : Card}

theorem scoreOn?_only (other : String) (asked : Network) :
    Dependency.scoreOn? [(Cache.key package network.word, card.toJson)] other asked =
      if other = package ∧ asked = network then some card.score else none := by
  unfold Dependency.scoreOn?
  rw [Entries.get?_cons, Entries.get?_nil]
  by_cases same : other = package ∧ asked = network
  · obtain ⟨rfl, rfl⟩ := same
    rw [if_pos (beq_self_eq_true _), if_pos ⟨rfl, rfl⟩]
    rfl
  · have differs : ¬ (Cache.key package network.word == Cache.key other asked.word) = true := by
      intro named
      obtain ⟨rfl, rfl⟩ := Cache.key_inj (eq_of_beq named)
      exact same ⟨rfl, rfl⟩
    rw [if_neg differs, if_neg same]
    rfl

/-- The score of the only verdict counts for its package, and no score for any other. -/
theorem countingScore?_only (mode : Dependency.Mode) (other : String) :
    Dependency.countingScore? [(Cache.key package network.word, card.toJson)] mode network other =
      if other = package then some card.score else none := by
  cases mode with
  | network => simp [Dependency.countingScore?, scoreOn?_only]
  | anyNetwork =>
    by_cases same : other = package <;> cases network <;>
      simp [Dependency.countingScore?, scoreOn?_only, Network.all, same]

end Only

/-! ### Who is told -/

/-- Looking up dependencies tells of the risk that a package passes on with its card. -/
def Tells (mode : Dependency.Mode) (asked : String) (dependencies : List Value)
    (store : Cache.Store) (package : String) (card : Card) : Prop :=
  ∃ found, ((Dependency.risks mode asked dependencies).outcome store).1 = .ok found ∧
    ⟨.string package, card.score, card.level⟩ ∈ found

section Only

variable {package : String} {network : Network} {card : Card}

/-- The only verdict is told of for its own package alone. -/
theorem tells_only_iff (sound : card.IsSound)
    (isPassedOn : Dependency.isPassedOn card.level = true) {dependencies : List Value}
    {other : String} (depends : .string other ∈ dependencies) {mode : Dependency.Mode}
    {asked : String} (onNetwork : mode = .network → asked = network.word) :
    Tells mode asked dependencies (.memory [(Cache.key package network.word, card.toJson)]) other
        card ↔
      (∀ dependency ∈ dependencies, Chain.isPlain dependency = true) ∧ other = package := by
  have verdicts : Cache.AreVerdicts [(Cache.key package network.word, card.toJson)] :=
    Cache.AreVerdicts.nil.put package network sound
  have sameWay : Dependency.risks mode asked dependencies =
      Dependency.risks mode network.word dependencies := by
    cases mode with
    | network => rw [onNetwork rfl]
    | anyNetwork => rfl
  unfold Tells
  rw [sameWay, ← List.all_eq_true]
  by_cases plain : dependencies.all Chain.isPlain = true
  · obtain ⟨found, more, ran, mem_iff⟩ :=
      Dependency.exists_run_risks verdicts mode network plain []
    have came : ((Dependency.risks mode network.word dependencies).outcome (.memory _)).1 =
      .ok found := congrArg Prod.fst ran
    have passes : Dependency.passedOnAt? other card.score =
        some ⟨.string other, card.score, card.level⟩ := by
      rw [sound.2] at isPassedOn ⊢
      exact if_pos ((Dependency.isPassedOn_ofScore card.score).mp isPassedOn)
    have told := mem_iff other ⟨.string other, card.score, card.level⟩ rfl
    rw [countingScore?_only] at told
    rw [came]
    constructor
    · rintro ⟨risks, same, member⟩
      cases same
      refine ⟨plain, ?_⟩
      by_contra differs
      have none := (told.mp member).2
      rw [if_neg differs] at none
      cases none
    · rintro ⟨_, rfl⟩
      refine ⟨found, rfl, told.mpr ⟨depends, ?_⟩⟩
      rw [if_pos rfl]
      exact passes
  · refine iff_of_false ?_ fun holds => plain holds.1
    rintro ⟨found, came, _⟩
    have fails : ((Dependency.risks mode network.word dependencies).outcome
        (.memory [(Cache.key package network.word, card.toJson)])).1 = .error .wrongKind := by
      unfold Dependency.risks
      rw [eq_false_of_ne_true plain]
      rfl
    rw [fails] at came
    cases came

end Only

/-- A text names the package that is left of it without the blanks around it, if anything is. -/
theorem namedPackage_string (spelling : String) : namedPackage (.string spelling) =
    if (Text.trimmed spelling).isEmpty then .error .noPackage else .ok (Text.trimmed spelling) := by
  have written : (Value.string spelling).full?.getD (.string "") = .string spelling := by
    unfold Value.full? Value.isFull
    by_cases empty : spelling = ""
    · rw [empty]
      rfl
    · simp [empty]
  unfold namedPackage
  rw [written]

theorem eq_trimmed_of_named {spelling package : String}
    (named : namedPackage (.string spelling) = .ok package) : package = Text.trimmed spelling := by
  rw [namedPackage_string] at named
  split at named
  · cases named
  · exact (Except.ok.inj named).symm

/-- A package that is asked for is written without blanks around it. -/
theorem trimmed_of_named {written : Value} {package : String}
    (named : namedPackage written = .ok package) :
    Text.trimmed package = package ∧ package.isEmpty = false := by
  unfold namedPackage at named
  split at named
  · dsimp only at named
    split at named
    · cases named
    · next isThere =>
      cases named
      exact ⟨Text.trimmed_trimmed _, eq_false_of_ne_true isThere⟩
  · cases named

/-- A request for a package in an empty store that comes to a card leaves it under the text that
was asked for. -/
theorem only_verdict_of_judged {plan : Plan} {world : World} (isNew : world.store = .empty)
    {spelling : String} {network : Value} {card : Card} {isShared : Bool}
    (judged : ((analyse plan (.string spelling) network).outcome world).1 =
      .ok (card, isShared)) :
    card.IsSound ∧
      ((analyse plan (.string spelling) network).outcome world).2.world.store =
        .memory [(Cache.key (Text.trimmed spelling) (Network.ofValue network).word,
          card.toJson)] := by
  obtain ⟨kept, held, answers⟩ := analyse_answers plan (.string spelling) network isNew
  rw [judged] at answers
  cases answers with
  | finds _ isKept => cases isKept
  | @makes package _ named _ sound =>
    refine ⟨sound, held.trans ?_⟩
    rw [eq_trimmed_of_named named]
    rfl

/-- The verdict that a request for a package has brought into an empty store is passed on for a
dependency of another package exactly if the dependency is written as the package was asked for, up
to blanks around that, and all dependencies can be looked up. That both are spellings of one address
is needed for it and does not suffice. -/
theorem verdict_passed_on_iff {plan : Plan} {world : World} (isNew : world.store = .empty)
    {spelling : String} {network : Value} {card : Card} {isShared : Bool}
    (judged : ((analyse plan (.string spelling) network).outcome world).1 =
      .ok (card, isShared))
    (isPassedOn : Dependency.isPassedOn card.level = true) {modules disassembly : Members}
    {packageId : Option String} {other : String}
    (depends : .string other ∈ (extract modules disassembly packageId).package.dependencies)
    {mode : Dependency.Mode} {asked : String}
    (onNetwork : mode = .network → asked = (Network.ofValue network).word) :
    (Tells mode asked (extract modules disassembly packageId).package.dependencies
        ((analyse plan (.string spelling) network).outcome world).2.world.store other card ↔
      (∀ dependency ∈ (extract modules disassembly packageId).package.dependencies,
        Chain.isPlain dependency = true) ∧ other = Text.trimmed spelling) ∧
    (other = Text.trimmed spelling → Address.normal other = Address.normal spelling) := by
  obtain ⟨sound, held⟩ := only_verdict_of_judged isNew judged
  refine ⟨?_, ?_⟩
  · rw [held]
    exact tells_only_iff sound isPassedOn depends onNetwork
  · rintro rfl
    unfold Address.normal Address.normalChars Text.trimmed
    rw [String.toList_ofList, Text.trim_trim]

/-! ### A vault and its client -/

/-- A plan whose knowledge base gives 55 points for a halt. -/
def vaultPlan : Plan where
  config := {}
  base :=
    { version := .number 1
      patterns := [{ KnowledgeBase.low03 with id := "HALT", severity := .high, points := 55 }]
      scoring := KnowledgeBase.bundledScoring }

/-- A line to a node that knows a package with one public function. -/
def vaultLine : Chain.Line where
  node := .ledger { packages := [("0x00c0ffee", .content
    (.object [("vault", .object [("exposedFunctions", .object [("drain", .object
      [("visibility", .string "Public")])])])])
    (.object [("vault", .string "")]) .null (.string "package"))] }

/-- A world in which the model finds that the function halts the vault. -/
def vaultWorld : World where
  desk :=
    { answers := [.content (.string "\x7b\"potentially_risky_functions\": [\"drain\"]\x7d"),
        .content (.string ("\x7b\"technical_findings\": [\x7b\"function_name\": \"drain\", " ++
          "\"technical_reason\": \"r\", \"matched_pattern_id\": \"HALT\", " ++
          "\"severity\": \"High\"\x7d]\x7d")),
        .content (.string "\x7b\"summary\": \"s\"\x7d"),
        .content (.string "\x7b\"is_consistent\": true\x7d")] }
  store := .empty
  chain := ⟨vaultLine, vaultLine⟩

/-- The modules of a package that depends on another one. -/
def clientModules (dependency : String) : Members :=
  [("client", .object [("dependencies", .array [.string dependency])])]

theorem judged_vault : ∃ card, ((analyse vaultPlan (.string "0x00c0ffee")
    (.string "mainnet")).outcome vaultWorld).1 = .ok (card, false) ∧ card.level = .high := by
  have seen : (((analyse vaultPlan (.string "0x00c0ffee") (.string "mainnet")).outcome
      vaultWorld).1.toOption.map fun answer => (answer.2, answer.1.level)) =
        some (false, .high) := by
    decide +kernel
  obtain ⟨⟨card, isShared⟩, came, same⟩ := exists_result_of_map seen
  obtain ⟨rfl, level⟩ := Prod.mk.inj same
  exact ⟨card, came, level⟩

theorem dependencies_client {spelling : String}
    (isVault : spelling = "0x00c0ffee" ∨ spelling = "0xc0ffee") :
    (extract (clientModules spelling) [] none).package.dependencies = [.string spelling] := by
  rcases isVault with rfl | rfl <;> rfl

/-- Whoever writes the dependency on the vault as the vault was asked for is told of its verdict. -/
theorem client_is_told : ∃ card, ((analyse vaultPlan (.string "0x00c0ffee")
    (.string "mainnet")).outcome vaultWorld).1 = .ok (card, false) ∧
      Tells .network "mainnet" (extract (clientModules "0x00c0ffee") [] none).package.dependencies
        ((analyse vaultPlan (.string "0x00c0ffee") (.string "mainnet")).outcome
          vaultWorld).2.world.store "0x00c0ffee" card := by
  obtain ⟨card, judged, level⟩ := judged_vault
  have isPassedOn : Dependency.isPassedOn card.level = true := by
    rw [level]
    rfl
  have dependencies := dependencies_client (Or.inl rfl)
  have depends : .string "0x00c0ffee" ∈
      (extract (clientModules "0x00c0ffee") [] none).package.dependencies := by
    rw [dependencies]
    exact List.mem_singleton_self _
  have onNetwork : Dependency.Mode.network = .network →
      "mainnet" = (Network.ofValue (.string "mainnet")).word := fun _ => by decide +kernel
  refine ⟨card, judged, (verdict_passed_on_iff rfl judged isPassedOn depends onNetwork).1.mpr
    ⟨fun dependency member => ?_, by decide +kernel⟩⟩
  rw [dependencies] at member
  rw [List.mem_singleton.mp member]
  rfl

/-- Whoever writes it with fewer zeros is told nothing, though it is the same address. -/
theorem client_is_not_told : ¬ ∀ (spelling other : String) (card : Card) (isShared : Bool)
    (modules : Members), Address.normal spelling = Address.normal other →
      ((analyse vaultPlan (.string spelling) (.string "mainnet")).outcome vaultWorld).1 =
        .ok (card, isShared) → Dependency.isPassedOn card.level = true →
      .string other ∈ (extract modules [] none).package.dependencies →
      Tells .network "mainnet" (extract modules [] none).package.dependencies
        ((analyse vaultPlan (.string spelling) (.string "mainnet")).outcome
          vaultWorld).2.world.store other card := by
  intro isTold
  obtain ⟨card, judged, level⟩ := judged_vault
  have isPassedOn : Dependency.isPassedOn card.level = true := by
    rw [level]
    rfl
  have depends : .string "0xc0ffee" ∈
      (extract (clientModules "0xc0ffee") [] none).package.dependencies := by
    rw [dependencies_client (Or.inr rfl)]
    exact List.mem_singleton_self _
  have told := isTold "0x00c0ffee" "0xc0ffee" card false (clientModules "0xc0ffee")
    (by decide +kernel) judged isPassedOn depends
  obtain ⟨sound, held⟩ := only_verdict_of_judged rfl judged
  rw [held] at told
  have same := ((tells_only_iff sound isPassedOn depends fun _ => by decide +kernel).mp told).2
  exact absurd same (by decide +kernel)

end MoveAudit.Service
