/-
This file says what the report on a package's patterns holds. Going through the functions and the
patterns adds a hit unless one of the same pattern, module and function is known, so what is found
are the first hits of each in that order, and sorting by severity leaves the order within a
severity alone. Nothing that is looked at for a function lies outside its module, so the hits in a
module are those of the package without all others.
-/

import MoveAudit.Proofs.Entries.First
import MoveAudit.Proofs.Move.Part

namespace MoveAudit.Static

open Entries Move

variable {patterns : List Pattern} {package : Package} {hits : List Hit}

/-! ### Going through functions and patterns -/

/-- What a hit is counted under. -/
def Hit.subject (hit : Hit) : String × String × String :=
  (hit.pattern, hit.module, hit.function)

/-- Every hit of a pattern in a function, in the order of the functions and then of the
patterns. -/
def hitsIn (patterns : List Pattern) (package : Package) : List Hit :=
  package.functions.flatMap fun function =>
    patterns.filterMap (hit? (package.bodyOf function) function)

theorem sameAs_eq (one other : Hit) : one.sameAs other = (other.subject == one.subject) := by
  have same_iff : one.sameAs other = true ↔ one.subject = other.subject := by
    simp only [Hit.sameAs, Hit.subject, Bool.and_eq_true, beq_iff_eq, Prod.mk.injEq, and_assoc]
  rw [Bool.eq_iff_iff, same_iff, beq_iff_eq]
  exact eq_comm

theorem addHits_keepFirst (patterns : List Pattern) (known : List Hit) (body : List Char)
    (function : Function) : addHits patterns (keepFirst Hit.subject known) body function =
      keepFirst Hit.subject (known ++ patterns.filterMap (hit? body function)) := by
  unfold addHits
  induction patterns generalizing known with
  | nil => rw [List.filterMap_nil, List.append_nil, List.foldl_nil]
  | cons pattern rest inductionHypothesis =>
    rw [List.foldl_cons, List.filterMap_cons]
    cases hit? body function pattern with
    | none => exact inductionHypothesis known
    | some hit =>
      have added : (if (keepFirst Hit.subject known).any (hit.sameAs ·) then
          keepFirst Hit.subject known else keepFirst Hit.subject known ++ [hit]) =
          keepFirst Hit.subject (known ++ [hit]) := by
        simp only [sameAs_eq, keepFirst_concat]
      dsimp only
      rw [added, inductionHypothesis, List.append_assoc, List.singleton_append]

theorem moduleBodies_of_text (text : package.HasText) (module : String) :
    moduleBodies package.disassembly module =
      .ok (Listing.bodies ((Entries.get? package.codes module).getD [])) := by
  unfold moduleBodies
  rw [Package.get?_codes]
  cases found : Entries.get? package.disassembly module with
  | none => rfl
  | some written =>
    rw [Option.getD_some, text.code_eq (mem_of_get? found)]
    rfl

theorem findHits_keepFirst (patterns : List Pattern) (text : package.HasText) (known : List Hit)
    (functions : List Function) :
    findHits patterns package.disassembly (keepFirst Hit.subject known) functions =
      .ok (keepFirst Hit.subject (known ++ functions.flatMap fun function =>
        patterns.filterMap (hit? (package.bodyOf function) function))) := by
  induction functions generalizing known with
  | nil => rw [List.flatMap_nil, List.append_nil, findHits]
  | cons function rest inductionHypothesis =>
    rw [findHits, moduleBodies_of_text text, List.flatMap_cons, ← List.append_assoc,
      ← inductionHypothesis, ← addHits_keepFirst]
    rfl

theorem analyseWith_of_text (patterns : List Pattern) (text : package.HasText) :
    analyseWith patterns package =
      .ok ⟨worstFirst (keepFirst Hit.subject (hitsIn patterns package)),
        Entries.distinct (package.functions.map (·.module))⟩ := by
  have found := findHits_keepFirst patterns text [] package.functions
  unfold analyseWith
  rw [show findHits patterns package.disassembly [] package.functions =
    .ok (keepFirst Hit.subject (hitsIn patterns package)) from found]
  rfl

/-! ### The worst first -/

section Order

private theorem rank_trans (one other third : Hit)
    (first : decide (one.severity.rank ≤ other.severity.rank) = true)
    (second : decide (other.severity.rank ≤ third.severity.rank) = true) :
    decide (one.severity.rank ≤ third.severity.rank) = true :=
  decide_eq_true (Nat.le_trans (of_decide_eq_true first) (of_decide_eq_true second))

private theorem rank_total (one other : Hit) :
    (decide (one.severity.rank ≤ other.severity.rank) ||
      decide (other.severity.rank ≤ one.severity.rank)) = true := by
  rw [Bool.or_eq_true, decide_eq_true_eq, decide_eq_true_eq]
  exact Nat.le_total _ _

theorem worstFirst_pairwise (hits : List Hit) :
    (worstFirst hits).Pairwise fun one other => one.severity.rank ≤ other.severity.rank :=
  (List.pairwise_mergeSort rank_trans rank_total hits).imp of_decide_eq_true

/-- Hits of one severity keep their order. -/
theorem filter_worstFirst (hits : List Hit) (severity : Severity) :
    (worstFirst hits).filter (·.severity == severity) = hits.filter (·.severity == severity) := by
  have alike : (hits.filter (·.severity == severity)).Pairwise fun one other =>
      decide (one.severity.rank ≤ other.severity.rank) = true := by
    refine List.pairwise_of_forall_mem_list fun one memberOne other memberOther => ?_
    rw [eq_of_beq (List.mem_filter.mp memberOne).2, eq_of_beq (List.mem_filter.mp memberOther).2]
    exact decide_eq_true (Nat.le_refl _)
  have stays : (hits.filter (·.severity == severity)).Sublist (worstFirst hits) :=
    List.sublist_mergeSort rank_trans rank_total alike List.filter_sublist
  have inside := stays.filter (·.severity == severity)
  rw [List.filter_filter] at inside
  simp only [Bool.and_self] at inside
  exact (inside.eq_of_length ((List.mergeSort_perm _ _).filter _).length_eq.symm).symm

/-- Hits in the order of their ranks are those of the worst severity, then those of the next. -/
theorem eq_flatMap_of_pairwise
    (sorted : hits.Pairwise fun one other => one.severity.rank ≤ other.severity.rank) :
    hits = Severity.all.flatMap fun severity => hits.filter (·.severity == severity) := by
  induction hits with
  | nil => rfl
  | cons hit rest inductionHypothesis =>
    obtain ⟨isWorst, restSorted⟩ := List.pairwise_cons.mp sorted
    have absent (severity : Severity) (worse : severity.rank < hit.severity.rank) :
        rest.filter (·.severity == severity) = [] := by
      refine List.filter_eq_nil_iff.mpr fun other member same => ?_
      have noWorse := isWorst other member
      rw [eq_of_beq same] at noWorse
      exact Nat.not_le_of_lt worse noWorse
    calc hit :: rest
        = hit :: Severity.all.flatMap fun severity => rest.filter (·.severity == severity) :=
          congrArg (hit :: ·) (inductionHypothesis restSorted)
      _ = Severity.all.flatMap fun severity => (hit :: rest).filter (·.severity == severity) := by
          cases named : hit.severity with
          | critical => simp [Severity.all, List.filter_cons, named]
          | high =>
            rw [named] at absent
            simp [Severity.all, List.filter_cons, named, absent .critical (by decide)]
          | medium =>
            rw [named] at absent
            simp [Severity.all, List.filter_cons, named, absent .critical (by decide),
              absent .high (by decide)]
          | low =>
            rw [named] at absent
            simp [Severity.all, List.filter_cons, named, absent .critical (by decide),
              absent .high (by decide), absent .medium (by decide)]

theorem worstFirst_eq (hits : List Hit) :
    worstFirst hits = Severity.all.flatMap fun severity =>
      hits.filter (·.severity == severity) := by
  simpa only [filter_worstFirst] using eq_flatMap_of_pairwise (worstFirst_pairwise hits)

theorem worstFirst_filter (keep : Hit → Bool) (hits : List Hit) :
    (worstFirst hits).filter keep = worstFirst (hits.filter keep) := by
  rw [worstFirst_eq, worstFirst_eq, List.filter_flatMap]
  simp only [List.filter_filter, Bool.and_comm]

/-- Whether a hit comes before another one in a report: its severity is worse, or it is the same
and the hit is found sooner among all. -/
def Precedes (all : List Hit) (one other : Hit) : Prop :=
  Severity.all.idxOf one.severity < Severity.all.idxOf other.severity ∨
    one.severity = other.severity ∧ all.idxOf one < all.idxOf other

theorem precedes_worstFirst {all : List Hit}
    (inOrder : hits.Pairwise fun one other => all.idxOf one < all.idxOf other) :
    (worstFirst hits).Pairwise (Precedes all) := by
  have gradesInOrder : Severity.all.Pairwise fun one other =>
      Severity.all.idxOf one < Severity.all.idxOf other := by
    decide
  rw [worstFirst_eq, List.pairwise_flatMap]
  refine ⟨fun severity _ => ?_, gradesInOrder.imp fun worse one memberOne other memberOther => ?_⟩
  · refine (inOrder.filter _).imp_of_mem fun memberOne memberOther sooner => .inr ⟨?_, sooner⟩
    rw [eq_of_beq (List.mem_filter.mp memberOne).2, eq_of_beq (List.mem_filter.mp memberOther).2]
  · refine .inl ?_
    rw [eq_of_beq (List.mem_filter.mp memberOne).2, eq_of_beq (List.mem_filter.mp memberOther).2]
    exact worse

end Order

/-! ### One hit for each pattern, module and function -/

/-- The hit of a pattern that is counted for the functions of a module that have a name: that of
the first one in which the pattern hits. -/
def firstHit? (package : Package) (pattern : Pattern) (module name : String) : Option Hit :=
  (package.records module name).findSome? fun function =>
    (pattern.check (package.bodyOf function) function).map fun (evidence, confidence) =>
      ⟨pattern.id, pattern.severity, module, name, evidence, pattern.description, confidence⟩

theorem subject_of_hit? {body : List Char} {function : Function} {pattern : Pattern} {hit : Hit}
    (found : hit? body function pattern = some hit) :
    hit.subject = (pattern.id, function.module, function.name) := by
  obtain ⟨⟨evidence, confidence⟩, _, rfl⟩ := Option.map_eq_some_iff.mp found
  rfl

theorem find?_hits_of_function (differ : (patterns.map (·.id)).Nodup) {pattern : Pattern}
    (member : pattern ∈ patterns) (body : List Char) (function : Function) (module name : String) :
    (patterns.filterMap (hit? body function)).find? (·.subject == (pattern.id, module, name)) =
      if function.module == module && function.name == name then hit? body function pattern
      else none := by
  have only : patterns.filter (·.id == pattern.id) = [pattern] := by
    rw [filter_of_nodup differ, find?_of_nodup differ member, Option.toList_some]
  have picks (other : Pattern) : (hit? body function other).filter
      (·.subject == (pattern.id, module, name)) =
        if other.id == pattern.id then
          if function.module == module && function.name == name then hit? body function other
          else none
        else none := by
    cases found : hit? body function other with
    | none => simp
    | some hit =>
      have subject := subject_of_hit? found
      by_cases sameId : other.id = pattern.id <;>
        by_cases sameModule : function.module = module <;>
        by_cases sameName : function.name = name <;>
        simp [Option.filter, subject, sameId, sameModule, sameName]
  rw [← List.head?_filter, List.filter_filterMap]
  simp only [picks]
  rw [← List.filterMap_filter, only, List.head?_filterMap, List.findSome?_singleton]

theorem find?_hitsIn (differ : (patterns.map (·.id)).Nodup) {pattern : Pattern}
    (member : pattern ∈ patterns) (package : Package) (module name : String) :
    (hitsIn patterns package).find? (·.subject == (pattern.id, module, name)) =
      firstHit? package pattern module name := by
  unfold hitsIn firstHit? Package.records
  rw [List.find?_flatMap, ← List.head?_filterMap, ← List.head?_filterMap, List.filterMap_filter]
  refine congrArg List.head? (List.filterMap_congr fun function _ => ?_)
  rw [find?_hits_of_function differ member]
  by_cases isRecord : function.module = module ∧ function.name = name
  · obtain ⟨rfl, rfl⟩ := isRecord
    rfl
  · have isOther : (function.module == module && function.name == name) = false := by
      simpa using isRecord
    rw [isOther]
    rfl

/-! ### The hits of some modules -/

theorem hitsIn_part (patterns : List Pattern) (package : Package) (keep : String → Bool) :
    hitsIn patterns (package.part keep) =
      (hitsIn patterns package).filter fun hit => keep hit.module := by
  have moduleOf {function : Function} {hit : Hit} (member : hit ∈ patterns.filterMap
      (hit? (package.bodyOf function) function)) : hit.module = function.module := by
    obtain ⟨pattern, _, found⟩ := List.mem_filterMap.mp member
    exact (Prod.mk.inj (Prod.mk.inj (subject_of_hit? found)).2).1
  unfold hitsIn
  rw [List.filter_flatMap]
  show (package.functions.filter _).flatMap _ = _
  induction package.functions with
  | nil => rfl
  | cons function rest inductionHypothesis =>
    rw [List.filter_cons, List.flatMap_cons, ← inductionHypothesis]
    cases kept : keep function.module with
    | true =>
      have all : ((patterns.filterMap (hit? (package.bodyOf function) function)).filter
          fun hit => keep hit.module) =
            patterns.filterMap (hit? (package.bodyOf function) function) :=
        List.filter_eq_self.mpr fun hit member => by rw [moduleOf member, kept]
      rw [if_pos rfl, List.flatMap_cons, Package.bodyOf_part kept, all]
    | false =>
      have none : ((patterns.filterMap (hit? (package.bodyOf function) function)).filter
          fun hit => keep hit.module) = [] :=
        List.filter_eq_nil_iff.mpr fun hit member => by rw [moduleOf member, kept]; decide
      rw [if_neg Bool.false_ne_true, none, List.nil_append]

/-- A report on patterns that are told apart by their ids holds one hit for each pattern, module and
function name if the pattern hits in some function of that module and name, with the evidence for
the first such function, and no hit otherwise. The hits stand in the order of their severities and
then in that of the functions and of the patterns, and those in a module are what is found of the
functions and the code of that module alone. -/
theorem hits_follow_patterns (differ : (patterns.map (·.id)).Nodup) (text : package.HasText) :
    ∃ report, analyseWith patterns package = .ok report ∧
      (∀ pattern ∈ patterns, ∀ module name,
        report.hits.filter (fun hit => hit.pattern == pattern.id && hit.module == module &&
          hit.function == name) = (firstHit? package pattern module name).toList) ∧
      (∀ hit ∈ report.hits, ∃ pattern ∈ patterns, hit.pattern = pattern.id) ∧
      report.hits.Pairwise (Precedes (hitsIn patterns package)) ∧
      ∀ module, ∃ own, analyseWith patterns (package.part (· == module)) = .ok own ∧
        own.hits = report.hits.filter (·.module == module) := by
  refine ⟨_, analyseWith_of_text patterns text, ?_, ?_, precedes_worstFirst pairwise_keepFirst, ?_⟩
  · intro pattern member module name
    have bySubject : (fun hit : Hit => hit.pattern == pattern.id && hit.module == module &&
        hit.function == name) = fun hit => hit.subject == (pattern.id, module, name) :=
      funext fun hit => Bool.and_assoc _ _ _
    have found := (List.mergeSort_perm (keepFirst Hit.subject (hitsIn patterns package))
      fun one other => one.severity.rank ≤ other.severity.rank).filter
        (·.subject == (pattern.id, module, name))
    rw [filter_keepFirst_name, find?_hitsIn differ member] at found
    rw [bySubject]
    cases first : firstHit? package pattern module name with
    | none =>
      rw [first] at found
      exact found.eq_nil
    | some hit =>
      rw [first] at found
      exact found.eq_singleton
  · intro hit member
    have isFound := keepFirst_sublist.subset ((List.mergeSort_perm _ _).mem_iff.mp member)
    obtain ⟨function, _, ofFunction⟩ := List.mem_flatMap.mp isFound
    obtain ⟨pattern, isPattern, found⟩ := List.mem_filterMap.mp ofFunction
    exact ⟨pattern, isPattern, (Prod.mk.inj (subject_of_hit? found)).1⟩
  · intro module
    refine ⟨_, analyseWith_of_text patterns text.part, ?_⟩
    show worstFirst _ = (worstFirst _).filter _
    rw [hitsIn_part, ← filter_keepFirst, worstFirst_filter]
    intro one other same
    rw [(Prod.mk.inj (Prod.mk.inj same).2).1]

/-- A vault with two functions of one name, the second of which takes a capability, and a bank whose
function stands between them. -/
def vaultAndBank : Package where
  functions := [⟨"vault", "withdraw", [⟨.primitive, some "U64", [], none, none⟩], false, 0⟩,
    ⟨"bank", "set_fee", [], false, 0⟩,
    ⟨"vault", "withdraw", [⟨.struct, some "0xfeed::vault::AdminCap", [], none, none⟩], false, 0⟩]
  disassembly := [("bank", .string "public set_fee(Arg0: u64) \x7b\nRet\n\x7d"),
    ("vault", .string "public withdraw(Arg0: u64) \x7b\nRet\n\x7d")]

/-- The capability is found although only the second function takes it, and the vault alone gives
the same hits as the vault beside the bank. -/
theorem vault_hits_follow_patterns :
    (catalogue.map (·.id)).Nodup ∧ vaultAndBank.HasText ∧
      ∃ report, analyse vaultAndBank = .ok report ∧
        report.hits.filter (fun hit => hit.pattern == "STATIC-ADMINCAP-TRANSFER" &&
            hit.module == "vault" && hit.function == "withdraw") =
          [⟨"STATIC-ADMINCAP-TRANSFER", .critical, "vault", "withdraw",
            "Function withdraw takes 0xfeed::vault::AdminCap (admin capability)",
            "AdminCap or OwnerCap handled by a public function - admin privileges can move",
            .definite⟩] ∧
        ∃ own, analyse (vaultAndBank.part (· == "vault")) = .ok own ∧
          own.hits = report.hits.filter (·.module == "vault") := by
  have differ : (catalogue.map (·.id)).Nodup := by decide
  have text : vaultAndBank.HasText := by simp [Package.HasText, vaultAndBank]
  obtain ⟨report, analysed, counted, _, _, alone⟩ := hits_follow_patterns differ text
  refine ⟨differ, text, report, analysed, ?_, alone "vault"⟩
  have first : firstHit? vaultAndBank catalogue[0] "vault" "withdraw" =
      some ⟨"STATIC-ADMINCAP-TRANSFER", .critical, "vault", "withdraw",
        "Function withdraw takes 0xfeed::vault::AdminCap (admin capability)",
        "AdminCap or OwnerCap handled by a public function - admin privileges can move",
        .definite⟩ := by
    decide +kernel
  have found := counted catalogue[0] (List.getElem_mem _) "vault" "withdraw"
  rw [first] at found
  exact found

end MoveAudit.Static
