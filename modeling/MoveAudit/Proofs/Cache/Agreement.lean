/-
This file compares results that are kept in memory with results that are kept on a server. Whatever
is set, looked up, asked for and searched, the two answer alike as long as every search for a
package covers what was set for the package before: texts are read back as they were written, and
what a search covers besides is not of the package. On a server that takes patterns for globs this
is so for packages without brackets and backslashes. The pattern of a search is the package as it
is, so that brackets in it stand for one of their characters, and what was set for such a package is
kept and looked up, but not found.
-/

import MoveAudit.Proofs.Cache.Glob
import MoveAudit.Proofs.Cache.Shared

namespace MoveAudit.Cache

open Store (Place.nameOf patternOf)

/-! ### Operations and their answers -/

/-- What is asked of a cache: to set a card whose score is in range, to look a result up, to say
whether there is one, and to search for those of a package. -/
inductive Operation where
  | set (package network : String) (card : Card) (inRange : card.IsInRange)
  | get (package network : String)
  | contains (package network : String)
  | find (package : String)

inductive Answer where
  | done
  | card (card? : Option Card)
  | isKept (known : Bool)
  | cards (found : List (String × Card))

/-- Two answers say the same; for what is found, the order does not matter. -/
def Answer.IsSame : Answer → Answer → Prop
  | .cards one, .cards other => ∀ network, Entries.get? one network = Entries.get? other network
  | one, other => one = other

namespace Operation

/-- What a cache does when it is asked. -/
def course : Operation → Act Store Fault Answer
  | set package network card _ => do
    Cache.set (key package network) card
    return .done
  | get package network => return .card (← Cache.get (key package network))
  | contains package network => return .isKept (← Cache.contains (key package network))
  | find package => return .cards (← findAnyNetwork (.string package))

/-- The names that there are results under after an operation. -/
def namesAfter (known : List String) : Operation → List String
  | set package network _ _ => key package network :: known
  | _ => known

/-- An operation is no search, or one that covers all results for its package. -/
def IsCovering (site : Site) (known : List String) : Operation → Prop
  | find package => ∀ network, '@' ∉ network.toList → key package network ∈ known →
    site.Covers package (key package network)
  | _ => True

/-- Every search covers all results for its package that were set before it. -/
def AreCovering (site : Site) : (known : List String) → List Operation → Prop
  | _, [] => True
  | known, operation :: later =>
    operation.IsCovering site known ∧ AreCovering site (operation.namesAfter known) later

end Operation

/-- The answers of a cache to one operation after the other. -/
def answers (operations : List Operation) : Act Store Fault (List Answer) :=
  operations.mapM Operation.course

/-! ### Two stores that know the same -/

/-- A store in memory and one on a server know the same values, which are cards under names of
results. -/
structure Alike (site : Site) (known : List String) (values : Json.Members)
    (memory shared : Scene Store) : Prop where
  isMemory : memory.world = .memory values
  shows : Shows site values shared.world
  cards : AreCards values
  areMarked : ∀ name ∈ values.map Prod.fst, '@' ∈ name.toList
  areKnown : ∀ name, name ∈ known ↔ name ∈ values.map Prod.fst

theorem get?_cardsAmong (under : String → Option Card) (package : String) {names : List String}
    (areMarked : ∀ name ∈ names, '@' ∈ name.toList) {network : String} {card : Card} :
    Entries.get? (cardsAmong under package names) network = some card ↔ '@' ∉ network.toList ∧
      key package network ∈ names ∧ under (key package network) = some card :=
  (Entries.get?_eq_some_iff (Entries.nodup_ofList _)).trans (mem_cardsAmong under package areMarked)

theorem AreCards.exists_cardUnder {values : Json.Members} (cards : AreCards values) {name : String}
    (member : name ∈ values.map Prod.fst) : ∃ card, cardUnder? values name = some card := by
  obtain ⟨value, isKept⟩ := Option.isSome_iff_exists.mp (Entries.mem_names_iff.mp member)
  obtain ⟨card, _, _, isUnder⟩ := cards.exists_card isKept
  exact ⟨card, isUnder⟩

/-- What is found in the two stores is the same exactly if the search covers all that is kept. -/
theorem Alike.same_found_iff {site : Site} {known : List String} {values : Json.Members}
    {memory shared : Scene Store} (alike : Alike site known values memory shared)
    {package : String} {names : List String}
    (mem_names : ∀ name, name ∈ names ↔ name ∈ values.map Prod.fst ∧ site.Covers package name) :
    (∀ network,
      Entries.get? (cardsAmong (cardUnder? values) package (namesFor values package)) network =
        Entries.get? (cardsAmong (cardUnder? values) package names) network) ↔
      (Operation.find package).IsCovering site known := by
  have inMemory {network : String} {card : Card} :
      Entries.get? (cardsAmong (cardUnder? values) package (namesFor values package)) network =
        some card ↔ '@' ∉ network.toList ∧ key package network ∈ values.map Prod.fst ∧
          cardUnder? values (key package network) = some card := by
    rw [get?_cardsAmong _ _ fun name => mark_mem_of_namesFor, key_mem_namesFor]
  have onServer {network : String} {card : Card} :
      Entries.get? (cardsAmong (cardUnder? values) package names) network = some card ↔
        '@' ∉ network.toList ∧ (key package network ∈ values.map Prod.fst ∧
          site.Covers package (key package network)) ∧
          cardUnder? values (key package network) = some card := by
    rw [get?_cardsAmong _ _ fun name member => alike.areMarked name ((mem_names name).mp member).1,
      mem_names]
  constructor
  · intro same network noMark isKnown
    have isKept := (alike.areKnown _).mp isKnown
    obtain ⟨card, isUnder⟩ := alike.cards.exists_cardUnder isKept
    have found := inMemory.mpr ⟨noMark, isKept, isUnder⟩
    rw [same] at found
    exact (onServer.mp found).2.1.2
  · intro covering network
    refine Option.ext fun card => ?_
    rw [inMemory, onServer]
    refine and_congr_right fun noMark => and_congr_left fun _ => ?_
    exact (and_iff_left_of_imp fun isKept => covering network noMark
      ((alike.areKnown _).mpr isKept)).symm

theorem Alike.set {site : Site} {known : List String} {values : Json.Members}
    {memory shared left last : Scene Store} (alike : Alike site known values memory shared)
    (package network : String) {card : Card} (inRange : card.IsInRange)
    (isMemory : left.world =
      .memory (Entries.put values (key package network) card.toJson))
    (shows : Shows site (Entries.put values (key package network) card.toJson) last.world) :
    Alike site (key package network :: known)
      (Entries.put values (key package network) card.toJson) left last where
  isMemory := isMemory
  shows := shows
  cards := alike.cards.put _ inRange
  areMarked name member := by
    rcases Entries.mem_names_put.mp member with before | rfl
    · exact alike.areMarked name before
    · rw [toList_key]
      exact List.mem_append_right _ List.mem_cons_self
  areKnown name := by
    rw [List.mem_cons, Entries.mem_names_put, alike.areKnown, or_comm]

/-- One operation leaves the two stores alike, and its answers are the same exactly if it is no
search or covers all that is kept for its package. -/
theorem Alike.run_course {site : Site} {known : List String} {values : Json.Members}
    {memory shared : Scene Store} (alike : Alike site known values memory shared)
    (operation : Operation) :
    ∃ inMemory onServer kept left last,
      operation.course.run memory = (.ok inMemory, left) ∧
      operation.course.run shared = (.ok onServer, last) ∧
      Alike site (operation.namesAfter known) kept left last ∧
      (inMemory.IsSame onServer ↔ operation.IsCovering site known) := by
  obtain ⟨world, notices⟩ := memory
  obtain rfl : world = .memory values := alike.isMemory
  cases operation with
  | set package network card inRange =>
    obtain ⟨last, ran, shows⟩ := run_set_shown alike.shows (key package network) card
    exact ⟨_, _, _, _, last, Act.run_bind_ok _ (run_set values _ card notices),
      Act.run_bind_ok _ ran, alike.set package network inRange rfl shows, iff_of_true rfl trivial⟩
  | get package network =>
    obtain ⟨last, ran, shows⟩ := run_get_shown alike.shows alike.cards (key package network)
    exact ⟨_, _, values, _, last, Act.run_bind_ok _ (alike.cards.run_get _ notices),
      Act.run_bind_ok _ ran, { alike with shows }, iff_of_true rfl trivial⟩
  | contains package network =>
    obtain ⟨last, ran, shows⟩ := run_contains_shown alike.shows (key package network)
    exact ⟨_, _, values, _, last, Act.run_bind_ok _ (run_contains values _ notices),
      Act.run_bind_ok _ ran, { alike with shows }, iff_of_true rfl trivial⟩
  | find package =>
    obtain ⟨names, last, ran, shows, mem_names⟩ :=
      run_findAnyNetwork_shown alike.shows alike.cards package
    exact ⟨_, _, values, _, last,
      Act.run_bind_ok _ (alike.cards.run_findAnyNetwork package notices), Act.run_bind_ok _ ran,
      { alike with shows }, alike.same_found_iff mem_names⟩

/-- Two stores that know the same answer alike exactly if every search covers what is kept for its
package. -/
theorem Alike.run_answers {site : Site} {known : List String} {values : Json.Members}
    {memory shared : Scene Store} (alike : Alike site known values memory shared)
    (operations : List Operation) :
    ∃ inMemory onServer left last,
      (answers operations).run memory = (.ok inMemory, left) ∧
      (answers operations).run shared = (.ok onServer, last) ∧
      (List.Forall₂ Answer.IsSame inMemory onServer ↔
        Operation.AreCovering site known operations) := by
  induction operations generalizing known values memory shared with
  | nil => exact ⟨[], [], memory, shared, rfl, rfl, iff_of_true .nil trivial⟩
  | cons operation later inductionHypothesis =>
    obtain ⟨inMemory, onServer, kept, between, betweenShared, ran, ranShared, stillAlike, same⟩ :=
      alike.run_course operation
    obtain ⟨others, othersShared, left, last, ranOthers, ranOthersShared, sameOthers⟩ :=
      inductionHypothesis stillAlike
    refine ⟨inMemory :: others, onServer :: othersShared, left, last, ?_, ?_, ?_⟩
    · rw [answers, List.mapM_cons, Act.run_bind_ok _ ran]
      exact Act.run_bind_ok _ ranOthers
    · rw [answers, List.mapM_cons, Act.run_bind_ok _ ranShared]
      exact Act.run_bind_ok _ ranOthersShared
    · rw [List.forall₂_cons, same, sameOthers, Operation.AreCovering]

/-! ### Servers that take patterns for globs -/

/-- A site whose results never expire, on a server that takes patterns for globs and lists names in
some order. -/
def globSite (place : Place) (order : NameOrder) : Site where
  toNameOrder := order
  place := { place with lifetime? := none }
  covers := Glob.covers

/-- A store at a site where nothing was set yet. -/
def emptyAt (site : Site) : Store :=
  .shared site.place (serverOf site [] []) none

theorem alike_empty (site : Site) : Alike site [] [] ⟨.empty, []⟩ ⟨emptyAt site, []⟩ where
  isMemory := rfl
  shows := ⟨[], none, rfl, .inl rfl⟩
  cards := .nil
  areMarked := nofun
  areKnown := fun _ => Iff.rfl

/-- A package without brackets and backslashes is covered by a search for it, in a name space that
has none of them either. -/
theorem covers_of_plain {place : Place} (order : NameOrder) {package : String}
    (plainSpace : Glob.IsPlain place.space.toList) (plainPackage : Glob.IsPlain package.toList)
    (network : String) : (globSite place order).Covers package (key package network) := by
  have spelled (name : String) :
      (Place.nameOf (globSite place order).place name).toList =
        place.space.toList ++ ':' :: name.toList := toList_nameOf _ name
  have plainColon : Glob.IsPlain [':'] := ⟨by decide, by decide⟩
  have plainMark : Glob.IsPlain mark.toList := ⟨by decide, by decide⟩
  refine Glob.covers_plain ?_ ?_
  · rw [spelled, String.toList_append]
    exact plainSpace.append (plainColon.append (plainPackage.append plainMark))
  · rw [spelled, spelled, key, @String.toList_append _ network]
    exact (List.prefix_append_right_inj _).mpr
      (List.cons_prefix_cons.mpr ⟨rfl, List.prefix_append _ _⟩)

theorem Operation.areCovering_of_plain {place : Place} (order : NameOrder)
    (plainSpace : Glob.IsPlain place.space.toList) {operations : List Operation}
    (plainPackages : ∀ package, find package ∈ operations → Glob.IsPlain package.toList)
    (known : List String) : AreCovering (globSite place order) known operations := by
  induction operations generalizing known with
  | nil => trivial
  | cons operation later inductionHypothesis =>
    refine ⟨?_, inductionHypothesis (fun package member =>
      plainPackages package (List.mem_cons_of_mem _ member)) _⟩
    cases operation with
    | find package =>
      exact fun network _ _ => covers_of_plain order plainSpace
        (plainPackages package List.mem_cons_self) network
    | _ => trivial

/-- Results in memory and results on a server that takes patterns for globs answer alike exactly if
every search covers what was set for its package before. So they do when no search is for a package
with brackets or backslashes, and the name space has none. -/
theorem stores_answer_alike_iff (place : Place) (order : NameOrder) (operations : List Operation) :
    ∃ inMemory onServer left last,
      (answers operations).run ⟨.empty, []⟩ = (.ok inMemory, left) ∧
      (answers operations).run ⟨emptyAt (globSite place order), []⟩ = (.ok onServer, last) ∧
      (List.Forall₂ Answer.IsSame inMemory onServer ↔
        Operation.AreCovering (globSite place order) [] operations) ∧
      (Glob.IsPlain place.space.toList →
        (∀ package, .find package ∈ operations → Glob.IsPlain package.toList) →
        List.Forall₂ Answer.IsSame inMemory onServer) := by
  obtain ⟨inMemory, onServer, left, last, ran, ranShared, same⟩ :=
    (alike_empty (globSite place order)).run_answers operations
  exact ⟨inMemory, onServer, left, last, ran, ranShared, same, fun plainSpace plainPackages =>
    same.mpr (Operation.areCovering_of_plain order plainSpace plainPackages [])⟩

/-- A server that lists names in the order in which they were written. -/
def NameOrder.asWritten : NameOrder where
  listed := id
  isOrder := .refl

/-- A card is set for a package with brackets, and the package is searched for. -/
def bracketedSearch : List Operation :=
  [.set "a[b]" "mainnet" .noFunctions ⟨by decide, by decide⟩, .find "a[b]"]

/-- The card for a package with brackets is found in memory, and not on the server. -/
theorem bracketed_package_is_missed : ∃ inMemory onServer left last,
    (answers bracketedSearch).run ⟨.empty, []⟩ = (.ok inMemory, left) ∧
    (answers bracketedSearch).run ⟨emptyAt (globSite {} .asWritten), []⟩ = (.ok onServer, last) ∧
    ¬ List.Forall₂ Answer.IsSame inMemory onServer := by
  obtain ⟨inMemory, onServer, left, last, ran, ranShared, same⟩ :=
    (alike_empty (globSite {} .asWritten)).run_answers bracketedSearch
  refine ⟨inMemory, onServer, left, last, ran, ranShared, fun allSame => ?_⟩
  have covers : Glob.covers "suiguard:safety_card:a[b]@*" "suiguard:safety_card:a[b]@mainnet" =
      true := (same.mp allSame).2.1 "mainnet" (by decide) List.mem_cons_self
  exact absurd covers (by decide)

end MoveAudit.Cache
