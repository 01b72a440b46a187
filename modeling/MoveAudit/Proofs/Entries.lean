/-
This file says what is found under a name after entries were changed. Erasing takes away what stood
under one name and nothing else, whether other names are written before it or after, and putting a
value under a name only if that is new adds nothing but that value. Of several values under one name
a list of entries keeps the last one. A list without its repetitions has the same members.
-/

import MoveAudit.Entries

namespace MoveAudit.Entries

variable {Key Entry : Type} [BEq Key]

theorem get?_nil (key : Key) : get? ([] : List (Key × Entry)) key = none := rfl

theorem get?_cons (entries : List (Key × Entry)) (other key : Key) (entry : Entry) :
    get? ((other, entry) :: entries) key =
      if other == key then some entry else get? entries key := by
  unfold get?
  rw [List.find?_cons]
  cases other == key <;> rfl

theorem get?_append (first second : List (Key × Entry)) (key : Key) :
    get? (first ++ second) key = (get? first key).or (get? second key) := by
  unfold get?
  rw [List.find?_append]
  cases first.find? (·.1 == key) <;> rfl

theorem has_eq_isSome (entries : List (Key × Entry)) (key : Key) :
    has entries key = (get? entries key).isSome := by
  unfold has get?
  rw [Option.isSome_map, List.isSome_find?]

/-- A value that is replaced at once need not be put there first. -/
theorem put_putNew [LawfulBEq Key] (entries : List (Key × Entry)) (key : Key)
    (first second : Entry) :
    put (putNew entries key first) key second = put entries key second := by
  unfold putNew
  split
  · rfl
  · next new =>
    induction entries with
    | nil => simp [put]
    | cons pair rest inductionHypothesis =>
      obtain ⟨other, old⟩ := pair
      have differs : ¬ (other == key) = true := fun same => new (by simp [same])
      have stillNew : ¬ (rest.any (·.1 == key)) = true := fun known => new (by simp [known])
      rw [List.cons_append, put, put, if_neg differs, if_neg differs, inductionHypothesis stillNew]

variable [LawfulBEq Key]

theorem mem_of_get? {entries : List (Key × Entry)} {key : Key} {entry : Entry}
    (found : get? entries key = some entry) : (key, entry) ∈ entries := by
  unfold get? at found
  obtain ⟨pair, isFirst, rfl⟩ := Option.map_eq_some_iff.mp found
  have named : (pair.1 == key) = true := by
    simpa using List.find?_some isFirst
  exact eq_of_beq named ▸ List.mem_of_find?_eq_some isFirst

theorem exists_get?_of_mem {entries : List (Key × Entry)} {key : Key} {entry : Entry}
    (member : (key, entry) ∈ entries) : ∃ first, get? entries key = some first := by
  have known : has entries key = true :=
    List.any_eq_true.mpr ⟨(key, entry), member, beq_self_eq_true key⟩
  rw [has_eq_isSome] at known
  exact Option.isSome_iff_exists.mp known

theorem mem_put {entries : List (Key × Entry)} {key : Key} {entry : Entry} {pair : Key × Entry}
    (member : pair ∈ put entries key entry) : pair = (key, entry) ∨ pair ∈ entries := by
  induction entries with
  | nil => exact Or.inl (List.mem_singleton.mp member)
  | cons first rest inductionHypothesis =>
    obtain ⟨other, old⟩ := first
    unfold put at member
    split at member
    · next same =>
      rcases List.mem_cons.mp member with isNew | isLater
      · exact Or.inl (isNew.trans (congrArg (·, entry) (eq_of_beq same)))
      · exact Or.inr (List.mem_cons_of_mem _ isLater)
    · rcases List.mem_cons.mp member with isFirst | isLater
      · exact Or.inr (isFirst ▸ List.mem_cons_self)
      · exact (inductionHypothesis isLater).imp_right (List.mem_cons_of_mem _)

/-- Writing a value under a name that is sifted out changes nothing of what stays. -/
theorem filter_put_of_neg (keeps : Key → Bool) {key : Key} (isOut : keeps key = false)
    (entries : List (Key × Entry)) (entry : Entry) :
    (put entries key entry).filter (keeps ·.1) = entries.filter (keeps ·.1) := by
  induction entries with
  | nil => simp [put, isOut]
  | cons first rest inductionHypothesis =>
    obtain ⟨other, old⟩ := first
    unfold put
    split
    · next same => simp [eq_of_beq same, isOut]
    · rw [List.filter_cons, List.filter_cons, inductionHypothesis]

theorem get?_erase_self (entries : List (Key × Entry)) (key : Key) :
    get? (erase entries key) key = none := by
  unfold get? erase
  rw [Option.map_eq_none_iff, List.find?_eq_none]
  intro pair member
  have kept := (List.mem_filter.mp member).2
  simpa using kept

theorem get?_erase_of_ne (entries : List (Key × Entry)) {key asked : Key}
    (different : asked ≠ key) : get? (erase entries key) asked = get? entries asked := by
  unfold get? erase
  rw [List.find?_filter]
  refine congrArg (Option.map Prod.snd) (congrArg (List.find? · entries) (funext fun pair => ?_))
  by_cases same : pair.1 = asked
  · subst same
    simp [different]
  · simp [same]

theorem erase_put_self (entries : List (Key × Entry)) (key : Key) (entry : Entry) :
    erase (put entries key entry) key = erase entries key := by
  induction entries with
  | nil => simp [put, erase]
  | cons pair rest inductionHypothesis =>
    obtain ⟨other, old⟩ := pair
    by_cases same : other = key
    · simp [put, erase, same]
    · simpa [put, erase, same] using inductionHypothesis

theorem erase_put_of_ne (entries : List (Key × Entry)) {key erased : Key} (entry : Entry)
    (different : key ≠ erased) :
    erase (put entries key entry) erased = put (erase entries erased) key entry := by
  induction entries with
  | nil => simp [put, erase, different]
  | cons pair rest inductionHypothesis =>
    obtain ⟨other, old⟩ := pair
    unfold erase at inductionHypothesis ⊢
    by_cases same : other = key
    · simp [put, same, different]
    · by_cases isErased : other = erased
      · simpa [put, same, isErased, different.symm] using inductionHypothesis
      · simpa [put, same, isErased] using inductionHypothesis

/-- What is found after a value was put under a new name was there before, or is that value. -/
theorem get?_putNew_cases {entries : List (Key × Entry)} {key asked : Key} {entry found : Entry}
    (isFound : get? (putNew entries key entry) asked = some found) :
    get? entries asked = some found ∨ asked = key ∧ found = entry := by
  unfold putNew at isFound
  split at isFound
  · exact Or.inl isFound
  · rw [get?_append] at isFound
    cases before : get? entries asked with
    | some known =>
      rw [before, Option.some_or] at isFound
      exact Or.inl isFound
    | none =>
      rw [before, Option.none_or, get?_cons, get?_nil] at isFound
      by_cases same : key = asked
      · subst same
        rw [if_pos (beq_self_eq_true key)] at isFound
        exact Or.inr ⟨rfl, (Option.some.inj isFound).symm⟩
      · rw [if_neg fun equal => same (eq_of_beq equal)] at isFound
        cases isFound

omit [LawfulBEq Key] in
theorem ofList_eq_foldl (entries : List (Key × Entry)) :
    ofList entries = entries.foldl (fun kept pair => put kept pair.1 pair.2) [] := rfl

/-- Of the entries that were written under a name, the last one counts. -/
theorem get?_ofList (entries : List (Key × Entry)) (key : Key) :
    get? (ofList entries) key = get? entries.reverse key := by
  have written (kept : List (Key × Entry)) :
      get? (entries.foldl (fun kept pair => put kept pair.1 pair.2) kept) key =
        (get? entries.reverse key).or (get? kept key) := by
    induction entries generalizing kept with
    | nil => rfl
    | cons first rest inductionHypothesis =>
      obtain ⟨other, entry⟩ := first
      rw [List.foldl_cons, inductionHypothesis, List.reverse_cons, get?_append, Option.or_assoc,
        get?_cons, get?_nil]
      by_cases same : key = other
      · rw [same, get?_put_self, if_pos (beq_self_eq_true other), Option.some_or]
      · have differs : ¬ (other == key) = true := fun equal => same (eq_of_beq equal).symm
        rw [get?_put_of_ne kept entry same, if_neg differs, Option.none_or]
  rw [ofList_eq_foldl, written, get?_nil, Option.or_none]

theorem mem_of_mem_ofList {entries : List (Key × Entry)} {pair : Key × Entry}
    (member : pair ∈ ofList entries) : pair ∈ entries := by
  have written (kept : List (Key × Entry)) :
      pair ∈ entries.foldl (fun kept pair => put kept pair.1 pair.2) kept →
        pair ∈ kept ∨ pair ∈ entries := by
    clear member
    induction entries generalizing kept with
    | nil => exact Or.inl
    | cons first rest inductionHypothesis =>
      intro member
      rcases inductionHypothesis _ member with before | isLater
      · exact (mem_put before).elim (fun isFirst => Or.inr (isFirst ▸ List.mem_cons_self)) Or.inl
      · exact Or.inr (List.mem_cons_of_mem _ isLater)
  exact (written [] member).resolve_left List.not_mem_nil

/-- Where each name has one value throughout, writing the entries one by one loses none. -/
theorem mem_ofList_iff {entries : List (Key × Entry)}
    (agree : ∀ key first second, (key, first) ∈ entries → (key, second) ∈ entries →
      first = second) {pair : Key × Entry} : pair ∈ ofList entries ↔ pair ∈ entries := by
  refine ⟨mem_of_mem_ofList, fun member => ?_⟩
  obtain ⟨key, entry⟩ := pair
  obtain ⟨last, found⟩ := exists_get?_of_mem (List.mem_reverse.mpr member)
  have isLast := List.mem_reverse.mp (mem_of_get? found)
  rw [agree key entry last member isLast]
  exact mem_of_get? ((get?_ofList entries key).trans found)

theorem put_of_new {entries : List (Key × Entry)} {key : Key} (isNew : key ∉ entries.map Prod.fst)
    (entry : Entry) : put entries key entry = entries ++ [(key, entry)] := by
  induction entries with
  | nil => rfl
  | cons first rest inductionHypothesis =>
    obtain ⟨other, old⟩ := first
    rw [List.map_cons, List.mem_cons, not_or] at isNew
    rw [put, if_neg fun same => isNew.1 (eq_of_beq same).symm, inductionHypothesis isNew.2]
    rfl

theorem names_put_of_mem {entries : List (Key × Entry)} {key : Key}
    (isKnown : key ∈ entries.map Prod.fst) (entry : Entry) :
    (put entries key entry).map Prod.fst = entries.map Prod.fst := by
  induction entries with
  | nil => cases isKnown
  | cons first rest inductionHypothesis =>
    obtain ⟨other, old⟩ := first
    rw [put]
    split
    · rfl
    · next different =>
      have isLater : key ∈ rest.map Prod.fst := by
        refine (List.mem_cons.mp isKnown).resolve_left ?_
        rintro rfl
        exact different (beq_self_eq_true key)
      exact congrArg (other :: ·) (inductionHypothesis isLater)

theorem mem_names_put {entries : List (Key × Entry)} {key asked : Key} {entry : Entry} :
    asked ∈ (put entries key entry).map Prod.fst ↔ asked ∈ entries.map Prod.fst ∨ asked = key := by
  by_cases isKnown : key ∈ entries.map Prod.fst
  · rw [names_put_of_mem isKnown]
    exact ⟨Or.inl, fun cases => cases.elim id fun same => same ▸ isKnown⟩
  · rw [put_of_new isKnown, List.map_append, List.mem_append]
    exact or_congr_right List.mem_singleton

/-- Writing a value leaves the names different. -/
theorem nodup_put {entries : List (Key × Entry)} (differ : (entries.map Prod.fst).Nodup)
    (key : Key) (entry : Entry) : ((put entries key entry).map Prod.fst).Nodup := by
  by_cases isKnown : key ∈ entries.map Prod.fst
  · rw [names_put_of_mem isKnown]
    exact differ
  · rw [put_of_new isKnown, List.map_append]
    refine List.nodup_append.mpr ⟨differ, List.pairwise_singleton _ key, ?_⟩
    rintro name member other isNew rfl
    obtain rfl : name = key := List.mem_singleton.mp isNew
    exact isKnown member

theorem nodup_ofList (entries : List (Key × Entry)) : ((ofList entries).map Prod.fst).Nodup := by
  have written (kept : List (Key × Entry)) (differ : (kept.map Prod.fst).Nodup) :
      ((entries.foldl (fun kept pair => put kept pair.1 pair.2) kept).map Prod.fst).Nodup := by
    induction entries generalizing kept with
    | nil => exact differ
    | cons first rest inductionHypothesis => exact inductionHypothesis _ (nodup_put differ _ _)
  exact written [] List.nodup_nil

theorem mem_names_iff {entries : List (Key × Entry)} {key : Key} :
    key ∈ entries.map Prod.fst ↔ (get? entries key).isSome = true := by
  rw [Option.isSome_iff_exists]
  constructor
  · intro member
    obtain ⟨⟨name, entry⟩, isKept, rfl⟩ := List.mem_map.mp member
    exact exists_get?_of_mem isKept
  · rintro ⟨entry, found⟩
    exact List.mem_map.mpr ⟨(key, entry), mem_of_get? found, rfl⟩

theorem has_eq_decide [DecidableEq Key] (entries : List (Key × Entry)) (key : Key) :
    has entries key = decide (key ∈ entries.map Prod.fst) := by
  rw [has_eq_isSome, Bool.eq_iff_iff, decide_eq_true_iff, mem_names_iff]

theorem get?_eq_none_iff {entries : List (Key × Entry)} {key : Key} :
    get? entries key = none ↔ key ∉ entries.map Prod.fst := by
  rw [mem_names_iff, Option.not_isSome_iff_eq_none]

/-- Where all names differ, what is found under a name is what is written there. -/
theorem get?_eq_some_iff {entries : List (Key × Entry)} (differ : (entries.map Prod.fst).Nodup)
    {key : Key} {entry : Entry} : get? entries key = some entry ↔ (key, entry) ∈ entries := by
  refine ⟨mem_of_get?, fun member => ?_⟩
  induction entries with
  | nil => cases member
  | cons first rest inductionHypothesis =>
    obtain ⟨isFirst, restDiffer⟩ := List.nodup_cons.mp differ
    rw [get?_cons]
    rcases List.mem_cons.mp member with rfl | isLater
    · rw [if_pos (beq_self_eq_true key)]
    · have different : ¬ (first.1 == key) = true := fun same =>
        isFirst (eq_of_beq same ▸ List.mem_map.mpr ⟨_, isLater, rfl⟩)
      rw [if_neg different, inductionHypothesis restDiffer isLater]

/-- Entries whose names all differ are written as they are. -/
theorem ofList_of_nodup {entries : List (Key × Entry)} (differ : (entries.map Prod.fst).Nodup) :
    ofList entries = entries := by
  have written (kept : List (Key × Entry)) (allDiffer : ((kept ++ entries).map Prod.fst).Nodup) :
      entries.foldl (fun kept pair => put kept pair.1 pair.2) kept = kept ++ entries := by
    clear differ
    induction entries generalizing kept with
    | nil => exact (List.append_nil kept).symm
    | cons first rest inductionHypothesis =>
      obtain ⟨key, entry⟩ := first
      have isNew : key ∉ kept.map Prod.fst := by
        rw [List.map_append] at allDiffer
        exact fun isOld => (List.nodup_append.mp allDiffer).2.2 key isOld key List.mem_cons_self rfl
      rw [List.append_cons, ← put_of_new isNew entry] at allDiffer ⊢
      exact inductionHypothesis _ allDiffer
  exact written [] differ

section Renaming

variable {Other Next : Type} [BEq Other] {rename : Key → Other} (change : Entry → Next)

omit [LawfulBEq Key] in
/-- Entries under other names, which are as different as their own, are found under those. -/
theorem get?_map (same : ∀ one other, (rename one == rename other) = (one == other))
    (entries : List (Key × Entry)) (key : Key) :
    get? (entries.map fun pair => (rename pair.1, change pair.2)) (rename key) =
      (get? entries key).map change := by
  induction entries with
  | nil => rfl
  | cons first rest inductionHypothesis =>
    rw [List.map_cons, get?_cons, get?_cons, same, inductionHypothesis]
    cases first.1 == key <;> rfl

omit [LawfulBEq Key] in
theorem put_map (same : ∀ one other, (rename one == rename other) = (one == other))
    (entries : List (Key × Entry)) (key : Key) (entry : Entry) :
    put (entries.map fun pair => (rename pair.1, change pair.2)) (rename key) (change entry) =
      (put entries key entry).map fun pair => (rename pair.1, change pair.2) := by
  induction entries with
  | nil => rfl
  | cons first rest inductionHypothesis =>
    rw [List.map_cons, put, put, same, inductionHypothesis]
    cases first.1 == key <;> rfl

end Renaming

omit [LawfulBEq Key] in
/-- Leaving out repetitions leaves out no member that counts as no other. -/
theorem mem_distinct_of_alone {keys : List Key} {key : Key}
    (alone : ∀ other, (key == other) = true → key = other) : key ∈ distinct keys ↔ key ∈ keys := by
  have mem_foldl (seen : List Key) :
      key ∈ keys.foldl (fun seen key => if seen.contains key then seen else key :: seen) seen ↔
        key ∈ seen ∨ key ∈ keys := by
    induction keys generalizing seen with
    | nil => simp
    | cons first rest inductionHypothesis =>
      rw [List.foldl_cons, inductionHypothesis, List.mem_cons]
      by_cases known : seen.contains first
      · rw [if_pos known, ← or_assoc]
        refine or_congr_left ⟨Or.inl, ?_⟩
        rintro (isSeen | rfl)
        · exact isSeen
        · rw [List.contains_eq_any_beq, List.any_eq_true] at known
          obtain ⟨other, isSeen, isSame⟩ := known
          exact alone other isSame ▸ isSeen
      · rw [if_neg known, List.mem_cons, or_assoc, or_left_comm]
  unfold distinct
  rw [List.mem_reverse, mem_foldl]
  simp

/-- Leaving out repetitions leaves out no member. -/
theorem mem_distinct {keys : List Key} {key : Key} : key ∈ distinct keys ↔ key ∈ keys :=
  mem_distinct_of_alone fun _ => eq_of_beq

omit [LawfulBEq Key] in
/-- The members in order of first appearance are the list without its repetitions. -/
theorem distinct_eq_eraseDups (keys : List Key) : distinct keys = keys.eraseDups := by
  have onwards (seen : List Key) :
      (keys.foldl (fun seen key => if seen.contains key then seen else key :: seen) seen).reverse =
        List.eraseDupsBy.loop (· == ·) keys seen := by
    induction keys generalizing seen with
    | nil => rfl
    | cons key rest inductionHypothesis =>
      have known : seen.contains key = seen.any (key == ·) := List.contains_eq_any_beq
      rw [List.foldl_cons, List.eraseDupsBy.loop, inductionHypothesis, known]
      cases seen.any (key == ·) <;> rfl
  exact onwards []

omit [LawfulBEq Key] in
/-- What tells members apart tells them apart in another guise as well. -/
theorem distinct_map {Other : Type} [BEq Other] {guise : Key → Other}
    (same : ∀ one other, (guise one == guise other) = (one == other)) (keys : List Key) :
    distinct (keys.map guise) = (distinct keys).map guise := by
  have onwards (seen : List Key) :
      (keys.map guise).foldl (fun seen key => if seen.contains key then seen else key :: seen)
          (seen.map guise) =
        (keys.foldl (fun seen key => if seen.contains key then seen else key :: seen) seen).map
          guise := by
    induction keys generalizing seen with
    | nil => rfl
    | cons key rest inductionHypothesis =>
      have known : (seen.map guise).contains (guise key) = seen.contains key := by
        rw [List.contains_eq_any_beq, List.contains_eq_any_beq, List.any_map]
        exact congrArg seen.any (funext fun other => same key other)
      rw [List.map_cons, List.foldl_cons, List.foldl_cons, known, ← inductionHypothesis]
      cases seen.contains key <;> rfl
  unfold distinct
  rw [List.map_reverse, ← onwards []]
  rfl

theorem distinct_eq_nil {keys : List Key} : distinct keys = [] ↔ keys = [] := by
  simp only [List.eq_nil_iff_forall_not_mem, mem_distinct]

end MoveAudit.Entries
