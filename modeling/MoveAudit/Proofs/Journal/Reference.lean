/-
This file compares a journal with the list of all calls that were begun, each with the end that was
written last. Calls have identifiers of their own, and each begins later than those before it. A
journal in memory shows as many of the latest calls as it holds, whatever is begun, ended, looked up
and searched for, in whatever order and however often. A journal in a table shows the whole list as
long as it refuses nothing: entries come back from their texts as they were, an end that is written
for a call that is not there changes nothing, and the latest calls are those that were begun last. So
the two show the same if the journal in memory is not full. What a table refuses, it says instead of
an answer: bounds of a search and counts that do not fit into 64 bits, values that cannot be written,
and a time that is no number.
-/

import Mathlib.Data.List.Nodup
import MoveAudit.Proofs.Journal.Book
import MoveAudit.Proofs.Json.RoundTrip
import MoveAudit.Reasoning.Call

namespace MoveAudit.Journal

open Json

/-! ### What is asked of a journal -/

/-- A call that begins, with the identifiers and the time that it is given. -/
structure Beginning where
  id : String
  time : String
  /-- The session of the call if it is begun without one. -/
  ownSession : String
  session : String
  stage : String
  model : String
  prompt : String
  metadata : Members
  isSound : (Value.object metadata).IsSound

/-- The entry of a call that begins. -/
def Beginning.entry (beginning : Beginning) : Entry where
  id := beginning.id
  time := beginning.time
  session := if beginning.session.isEmpty then beginning.ownSession else beginning.session
  stage := beginning.stage
  model := beginning.model
  prompt := beginning.prompt
  metadata := .object beginning.metadata

/-- The end of a call. -/
structure Ending where
  response : Value
  isSound : response.IsSound
  error? : Option String
  latency : Double
  retries : Int
  success : Bool

/-- What is written into the entry of a call that ends. -/
def Ending.changes (written : Ending) : List Change :=
  ending written.response (.given (.ofOption (written.error?.map .string))) (.float written.latency)
    (.int written.retries) (.bool written.success)

/-- What calls are searched for. An empty session or stage stands for any. -/
structure Search where
  session : String
  stage : String
  success? : Option Bool
  limit : Nat
  offset : Nat

def Search.query (search : Search) : Query where
  session := search.session
  stage := search.stage
  success := .ofOption (search.success?.map .bool)
  limit := search.limit
  offset := search.offset

/-- What is asked of a journal. A call may be ended without an entry. -/
inductive Command where
  | start (beginning : Beginning)
  | finish (id? : Option String) (written : Ending)
  | get (id : String)
  | find (search : Search)

inductive Answer where
  | begun (entry : Entry)
  | done
  | entry (held? : Option Entry)
  | entries (found : List Entry)
  | refused (reason : Refusal)

/-- An entry as it is told, where a time counts for what it is worth: both zeros are one. -/
def Entry.told (entry : Entry) : Entry :=
  { entry with latency := entry.latency.counted }

/-- The answer of a journal that may refuse. -/
def Answer.ofOutcome {Result : Type} (answer : Result → Answer) : Except Refusal Result → Answer
  | .ok result => answer result
  | .error reason => .refused reason

namespace Command

/-- What a journal answers, and how it is left. -/
def run (journal : Journal) : Command → Answer × Journal
  | start beginning =>
    let (outcome, later) := journal.enter beginning.entry
    (.ofOutcome (fun _ => .begun beginning.entry) outcome, later)
  | finish none _ => (.done, journal)
  | finish (some id) written =>
    let (outcome, later) := journal.write id written.changes
    (.ofOutcome (fun _ => .done) outcome, later)
  | get id => (.entry ((journal.find? id).map Entry.told), journal)
  | find search =>
    (.ofOutcome (fun found => .entries (found.map Entry.told)) (journal.search search.query), journal)

/-- What a journal answers to one command after the other. -/
def answers (journal : Journal) : List Command → List Answer
  | [] => []
  | command :: later => (command.run journal).1 :: answers (command.run journal).2 later

/-- The calls that commands begin. -/
def begun (commands : List Command) : List Beginning :=
  commands.filterMap fun
    | start beginning => some beginning
    | _ => none

end Command

/-! ### The list of all calls -/

/-- A call that was begun, with the end that was written last. -/
structure Logged where
  beginning : Beginning
  written? : Option Ending := none

namespace Logged

/-- The entry that shows a call. -/
def entry (logged : Logged) : Entry :=
  match logged.written? with
  | none => logged.beginning.entry
  | some written =>
    { logged.beginning.entry with
      response := written.response
      error := .given (.ofOption (written.error?.map .string))
      latency := .float written.latency
      retries := .int written.retries
      status := .string (if written.success then "completed" else "failed")
      success := .bool written.success }

/-- The entry that shows a call, as it is told. -/
def told (logged : Logged) : Entry :=
  logged.entry.told

/-- A call that has not ended has not succeeded. -/
def isSuccess (logged : Logged) : Bool :=
  match logged.written? with
  | none => false
  | some written => written.success

end Logged

/-- Whether a call is one that is searched for. -/
def Search.accepts (search : Search) (logged : Logged) : Bool :=
  (search.session.isEmpty || logged.entry.session == search.session) &&
    (search.stage.isEmpty || logged.entry.stage == search.stage) &&
    search.success?.all (logged.isSuccess == ·)

namespace Command

/-- The list of all calls after a command. -/
def record (log : List Logged) : Command → List Logged
  | start beginning => log ++ [⟨beginning, none⟩]
  | finish (some id) written => log.map fun logged =>
    if logged.beginning.id == id then { logged with written? := some written } else logged
  | _ => log

end Command

/-- The calls that a shelf shows: in memory as many of the latest as it holds, in a table all. -/
def Shelf.shown {Item : Type} : Shelf → List Item → List Item
  | .memory limit, log => log.drop (log.length - limit)
  | .table, log => log

/-! ### Entries in a table -/

theorem rewritten_of_isProper {value : Value} (isProper : value.IsProper) :
    rewritten value = value := by
  have reads : read (value.write .spaced) = .ok value := @read_write_spaced false value isProper
  unfold rewritten
  rw [reads]
  rfl

theorem whole?_zero (negative : Bool) : (Double.finite negative 0).whole? = some 0 := by
  have noUnits : (Double.finite negative 0).units? = some 0 := by cases negative <;> rfl
  rw [Double.whole?, noUnits, Option.bind_some, if_pos (Int.zero_emod _), Int.zero_ediv]

theorem counted_plain (number : Double) :
    (Value.float number.plain).counted = (Value.float number).counted := by
  unfold Double.plain
  split
  · simp only [Value.counted, whole?_zero, Option.map_some, Option.getD_some]
  · rfl

theorem Beginning.entry_inTable (beginning : Beginning)
    (isSpellable : (Value.object beginning.metadata).isSpellable = true) :
    beginning.entry.inTable = beginning.entry := by
  have nothing : rewritten .null = .null := rewritten_of_isProper trivial
  have isKept : rewritten (.object beginning.metadata) = .object beginning.metadata :=
    rewritten_of_isProper (beginning.isSound.isProper isSpellable)
  simp only [Entry.inTable, Beginning.entry, Change.inTable, Entry.after, List.map_cons,
    List.map_nil, List.foldl_cons, List.foldl_nil, nothing, isKept, Value.isFull,
    Double.ofInt_zero, Double.plain]

/-- An entry that has ended is told by what it was before and by the end alone. -/
theorem Ending.told_foldl (written : Ending) (entry : Entry) :
    (written.changes.foldl Entry.after entry.told).told =
      (written.changes.foldl Entry.after entry).told :=
  rfl

/-- A table keeps what is told of an end. -/
theorem Ending.told_foldl_inTable (written : Ending)
    (isSpellable : written.response.isSpellable = true) (entry : Entry) :
    ((written.changes.map Change.inTable).foldl Entry.after entry).told =
      (written.changes.foldl Entry.after entry).told := by
  have isKept : rewritten written.response = written.response :=
    rewritten_of_isProper (written.isSound.isProper isSpellable)
  simp only [Ending.changes, ending, List.map_cons, List.map_nil, List.foldl_cons, List.foldl_nil,
    Change.inTable, Entry.after, Entry.told, isKept, counted_plain, Value.isFull]

theorem Logged.foldl_after_changes (logged : Logged) (written : Ending) :
    written.changes.foldl Entry.after logged.entry =
      Logged.entry { logged with written? := some written } := by
  obtain ⟨beginning, written?⟩ := logged
  cases written? <;> rfl

theorem Logged.id_entry (logged : Logged) : logged.entry.id = logged.beginning.id := by
  obtain ⟨beginning, written?⟩ := logged
  cases written? <;> rfl

theorem Logged.time_entry (logged : Logged) : logged.entry.time = logged.beginning.time := by
  obtain ⟨beginning, written?⟩ := logged
  cases written? <;> rfl

theorem Logged.success_entry (logged : Logged) :
    logged.entry.success = .bool logged.isSuccess := by
  obtain ⟨beginning, written?⟩ := logged
  cases written? <;> rfl

/-- Both kinds of shelf take the entries that a search takes of the calls. -/
theorem Search.accepts_query (search : Search) (shelf : Shelf) (logged : Logged) :
    search.query.accepts shelf logged.entry = search.accepts logged := by
  unfold Query.accepts Search.accepts
  rw [logged.success_entry]
  congr 1
  unfold Search.query
  cases search.success? with
  | none => rfl
  | some success => cases shelf <;> cases logged.isSuccess <;> cases success <;> rfl

/-! ### The latest first -/

/-- Entries of different times have one order in which the latest come first. -/
theorem latestFirst_of_perm {found ordered : List Entry} (perm : found.Perm ordered)
    (increasing : ordered.Pairwise fun one other => one.time < other.time) :
    latestFirst found = ordered.reverse := by
  let isLater : Entry → Entry → Bool := fun one other => other.time ≤ one.time
  have trans (one other third : Entry) (first : isLater one other = true)
      (second : isLater other third = true) : isLater one third = true :=
    decide_eq_true (String.le_trans (of_decide_eq_true second) (of_decide_eq_true first))
  have total (one other : Entry) : (isLater one other || isLater other one) = true := by
    simpa [isLater] using String.le_total other.time one.time
  have turned : ordered.reverse.Pairwise fun one other => isLater one other = true :=
    List.pairwise_reverse.mpr (increasing.imp fun before =>
      decide_eq_true (String.not_lt.mp (String.lt_asymm before)))
  have timesDiffer : (ordered.map (·.time)).Nodup := by
    refine List.pairwise_map.mpr (increasing.imp fun {one other} before same => ?_)
    rw [same] at before
    exact String.lt_irrefl _ before
  have isPerm : (latestFirst found).Perm ordered := (List.mergeSort_perm found isLater).trans perm
  refine List.Perm.eq_of_pairwise (fun one other member isTurned first second => ?_)
    (List.pairwise_mergeSort trans total found) turned
    (isPerm.trans (List.reverse_perm ordered).symm)
  exact List.inj_on_of_nodup_map timesDiffer (isPerm.mem_iff.mp member)
    (List.mem_reverse.mp isTurned)
    (String.le_antisymm (of_decide_eq_true second) (of_decide_eq_true first))

theorem between_natCast {Item : Type} (offset limit : Nat) (items : List Item) :
    between offset (offset + limit) items = (items.drop offset).take limit := by
  have atOffset : place items.length offset = min offset items.length := by
    unfold place
    rw [if_neg (by omega), Int.toNat_natCast]
  have atEnd : place items.length (offset + limit) = min (offset + limit) items.length := by
    unfold place
    rw [if_neg (by omega)]
    omega
  unfold between
  dsimp only
  rw [atOffset, atEnd]
  rcases Nat.le_total offset items.length with within | beyond
  · rw [Nat.min_eq_left within, List.take_eq_take_iff, List.length_drop]
    omega
  · rw [Nat.min_eq_right beyond, List.drop_length, List.drop_eq_nil_of_le beyond, List.take_nil,
      List.take_nil]

/-! ### Entries as they are told -/

theorem latestFirst_map {change : Entry → Entry} (sameTime : ∀ entry, (change entry).time = entry.time)
    (entries : List Entry) : latestFirst (entries.map change) = (latestFirst entries).map change := by
  unfold latestFirst
  refine (List.map_mergeSort fun one _ other _ => ?_).symm
  rw [sameTime, sameTime]

theorem between_map {Item Other : Type} (first last : Int) (change : Item → Other)
    (items : List Item) : between first last (items.map change) =
      (between first last items).map change := by
  unfold between
  dsimp only
  rw [List.length_map, List.map_take, List.map_drop]

/-- To tell what a query finds is to query what is told. -/
theorem map_told_query (journal : Journal) (query : Query) :
    (journal.query query).map Entry.told =
      ({ journal with entries := journal.entries.map Entry.told } : Journal).query query := by
  have sameTime (entry : Entry) : entry.told.time = entry.time := rfl
  have found : (journal.entries.map Entry.told).filter (query.accepts journal.shelf) =
      (journal.entries.filter (query.accepts journal.shelf)).map Entry.told := by
    rw [List.filter_map]
    rfl
  unfold Journal.query
  dsimp only
  rw [found]
  cases journal.shelf with
  | memory limit =>
    dsimp only
    rw [latestFirst_map sameTime, between_map]
  | table =>
    dsimp only
    rw [← List.map_reverse, ← apply_ite (List.map Entry.told), latestFirst_map sameTime,
      ← List.map_drop, ← List.map_take, ← apply_ite (List.map Entry.told)]

/-! ### A journal that shows calls -/

/-- The entries of a journal are told as those of the calls that its shelf shows. -/
structure Follows (shelf : Shelf) (room : Nat) (log : List Logged) (journal : Journal) : Prop where
  isOn : journal.shelf = shelf
  hasRoom : journal.room = room
  entries : journal.entries.map Entry.told = (shelf.shown log).map Logged.told

/-- Later calls begin later. -/
def AreInOrder (log : List Logged) : Prop :=
  log.Pairwise fun one other => one.beginning.time < other.beginning.time

theorem Shelf.shown_map {Item Other : Type} (shelf : Shelf) (change : Item → Other)
    (log : List Item) : shelf.shown (log.map change) = (shelf.shown log).map change := by
  cases shelf with
  | memory limit => rw [Shelf.shown, Shelf.shown, List.length_map, List.map_drop]
  | table => rfl

theorem Shelf.sublist_shown {Item : Type} (shelf : Shelf) (log : List Item) :
    (shelf.shown log).Sublist log := by
  cases shelf with
  | memory limit => exact List.drop_sublist _ _
  | table => exact .refl _

/-- A shelf that holds as many entries as it may drops the oldest for a new one. -/
theorem drop_shown_concat {Item : Type} (limit : Nat) (log : List Item) (last : Item) :
    ((log.drop (log.length - limit) ++ [last]).drop
      ((log.drop (log.length - limit) ++ [last]).length - limit)) =
      (log ++ [last]).drop ((log ++ [last]).length - limit) := by
  rw [← List.drop_append_of_le_length (Nat.sub_le _ _), List.drop_drop, List.length_drop]
  refine congrArg (List.drop · (log ++ [last])) ?_
  rw [List.length_append, List.length_singleton]
  omega

namespace Follows

variable {shelf : Shelf} {room : Nat} {log : List Logged} {journal : Journal}
  (follows : Follows shelf room log journal)
include follows

/-- What is held under an identifier is a call of the list. -/
theorem exists_logged {entry : Entry} (among : entry ∈ journal.entries) :
    ∃ logged ∈ shelf.shown log, logged.beginning.id = entry.id := by
  have isTold : entry.told ∈ (shelf.shown log).map Logged.told :=
    follows.entries ▸ List.mem_map_of_mem among
  obtain ⟨logged, isShown, same⟩ := List.mem_map.mp isTold
  have sameId : logged.told.id = entry.told.id := congrArg Entry.id same
  exact ⟨logged, isShown, logged.id_entry.symm.trans sameId⟩

/-- A call that begins under a new identifier is the last on the list. -/
theorem save {beginning : Beginning} (isNew : beginning.id ∉ log.map (·.beginning.id))
    (isSpellable : shelf = .table → (Value.object beginning.metadata).isSpellable = true) :
    Follows shelf room (log ++ [⟨beginning, none⟩]) (journal.save beginning.entry) := by
  have absent : ∀ entry ∈ journal.entries, entry.id ≠ beginning.entry.id := by
    intro entry among same
    obtain ⟨logged, isShown, named⟩ := follows.exists_logged among
    exact isNew (List.mem_map.mpr ⟨logged, (shelf.sublist_shown log).mem isShown,
      named.trans same⟩)
  obtain ⟨kind, isKept, entries, ownRoom⟩ := journal
  obtain ⟨rfl, rfl, isTold⟩ := follows
  dsimp only at isTold absent isSpellable
  refine ⟨?_, ?_, ?_⟩
  · unfold Journal.save
    cases kind <;> rfl
  · unfold Journal.save
    cases kind <;> rfl
  · cases kind with
    | memory limit =>
      have isUnknown : entries.any (·.id == beginning.entry.id) = false :=
        List.any_eq_false.mpr fun entry among => by simpa using absent entry among
      have grown : (entries ++ [beginning.entry]).map Entry.told =
          ((Shelf.memory limit).shown log ++ [(⟨beginning, none⟩ : Logged)]).map Logged.told := by
        rw [List.map_append, isTold, List.map_append]
        rfl
      have sameLength := congrArg List.length grown
      rw [List.length_map, List.length_map] at sameLength
      unfold Journal.save
      dsimp only
      rw [isUnknown, if_neg Bool.false_ne_true, List.map_drop, grown, sameLength, ← List.map_drop]
      exact congrArg (List.map Logged.told) (drop_shown_concat limit log ⟨beginning, none⟩)
    | table =>
      have allOther : entries.filter (·.id != beginning.entry.id) = entries :=
        List.filter_eq_self.mpr fun entry among => bne_iff_ne.mpr (absent entry among)
      unfold Journal.save
      dsimp only
      rw [allOther, beginning.entry_inTable (isSpellable rfl), List.map_append, isTold, Shelf.shown,
        Shelf.shown, List.map_append]
      rfl

/-- Changes that tell of an end are written for the calls of its identifier that are shown, and for
no others. -/
theorem map_told_changed (id : String) {written : Ending} {changes : List Change}
    (tell : ∀ entry : Entry, (changes.foldl Entry.after entry).told =
      (written.changes.foldl Entry.after entry).told) :
    (changed journal.entries id changes).map Entry.told =
      (shelf.shown ((Command.finish (some id) written).record log)).map Logged.told := by
  let ended : Entry → Entry := fun entry =>
    if entry.id == id then (written.changes.foldl Entry.after entry).told else entry
  have inJournal : (changed journal.entries id changes).map Entry.told =
      (journal.entries.map Entry.told).map ended := by
    unfold changed
    rw [List.map_map, List.map_map]
    refine List.map_congr_left fun entry _ => ?_
    show (if entry.id == id then changes.foldl Entry.after entry else entry).told =
      if entry.id == id then (written.changes.foldl Entry.after entry.told).told else entry.told
    rw [written.told_foldl, ← tell, apply_ite Entry.told]
  have onList : (shelf.shown ((Command.finish (some id) written).record log)).map Logged.told =
      ((shelf.shown log).map Logged.told).map ended := by
    unfold Command.record
    rw [Shelf.shown_map, List.map_map, List.map_map]
    refine List.map_congr_left fun logged _ => ?_
    show Logged.told (if logged.beginning.id == id then _ else logged) =
      if logged.entry.id == id then (written.changes.foldl Entry.after logged.entry.told).told
        else logged.told
    rw [written.told_foldl, logged.foldl_after_changes, logged.id_entry, apply_ite Logged.told]
    rfl
  rw [inJournal, onList, follows.entries]

theorem update (id : String) {written : Ending}
    (isSpellable : shelf = .table → written.response.isSpellable = true) :
    Follows shelf room ((Command.finish (some id) written).record log)
      (journal.update id written.changes).2 := by
  have ended {changes : List Change} := @map_told_changed _ _ _ _ follows id written changes
  obtain ⟨kind, isKept, entries, ownRoom⟩ := journal
  obtain ⟨rfl, rfl, -⟩ := follows
  cases kind with
  | memory limit => exact ⟨rfl, rfl, ended fun _ => rfl⟩
  | table => exact ⟨rfl, rfl, ended (written.told_foldl_inTable (isSpellable rfl))⟩

theorem find? (id : String) : (journal.find? id).map Entry.told =
    ((shelf.shown log).find? (·.beginning.id == id)).map Logged.told := by
  have sameId : (fun entry : Entry => entry.id == id) ∘ Logged.told =
      fun logged => logged.beginning.id == id :=
    funext fun logged => congrArg (· == id) logged.id_entry
  have inJournal : (journal.find? id).map Entry.told =
      (journal.entries.map Entry.told).find? (·.id == id) := by
    rw [List.find?_map]
    rfl
  rw [inJournal, follows.entries, List.find?_map, sameId]

/-- A search finds the calls that are shown and searched for, the latest first. -/
theorem query (inOrder : AreInOrder log) (search : Search) :
    (journal.query search.query).map Entry.told = ((((shelf.shown log).filter
      search.accepts).reverse.drop search.offset).take search.limit).map Logged.told := by
  rw [map_told_query, follows.entries]
  obtain ⟨kind, isKept, entries, ownRoom⟩ := journal
  obtain ⟨rfl, -, -⟩ := follows
  have isFound : ((kind.shown log).map Logged.told).filter (search.query.accepts kind) =
      ((kind.shown log).filter search.accepts).map Logged.told := by
    rw [List.filter_map]
    exact congrArg (fun accepts => ((kind.shown log).filter accepts).map Logged.told)
      (funext fun logged => search.accepts_query kind logged)
  have ordered : ((kind.shown log).filter search.accepts).Pairwise
      fun one other => one.beginning.time < other.beginning.time :=
    inOrder.sublist (List.filter_sublist.trans (kind.sublist_shown log))
  unfold Journal.query
  dsimp only
  rw [isFound]
  generalize (kind.shown log).filter search.accepts = found at ordered ⊢
  have latest {entries : List Entry} (perm : entries.Perm (found.map Logged.told)) :
      latestFirst entries = found.reverse.map Logged.told := by
    rw [List.map_reverse]
    refine latestFirst_of_perm perm (List.pairwise_map.mpr ?_)
    refine ordered.imp fun {one other} before => ?_
    show one.entry.time < other.entry.time
    rw [one.time_entry, other.time_entry]
    exact before
  cases kind with
  | memory limit =>
    show between (search.offset : Int) (search.offset + search.limit) _ = _
    rw [latest (.refl _), between_natCast, ← List.map_drop, ← List.map_take]
  | table =>
    have notNegative : ¬ search.query.limit < 0 := by
      unfold Search.query
      dsimp only
      omega
    have isPerm : (if search.query.session.isEmpty && search.query.stage.isEmpty
        then (found.map Logged.told).reverse else found.map Logged.told).Perm
          (found.map Logged.told) := by
      split
      · exact List.reverse_perm _
      · exact .refl _
    dsimp only
    rw [if_neg notNegative, latest isPerm, ← List.map_drop, ← List.map_take]
    rfl

end Follows

/-! ### What is refused -/

/-- A journal takes a call that begins if it is in memory or what is known of the call can be
written. -/
theorem refusal?_beginning_iff (journal : Journal) (beginning : Beginning) :
    journal.refusal? true [.response beginning.entry.response, .response beginning.entry.metadata,
        .latency beginning.entry.latency, .retries beginning.entry.retries] = none ↔
      (journal.shelf = .table → (Value.object beginning.metadata).IsWritable journal.room) := by
  have isTime : ¬ (Double.ofInt 0 = .nan) := by
    rw [Double.ofInt_zero]
    exact nofun
  unfold refusal?
  rw [← Value.writeError?_eq_none_iff]
  cases journal.shelf with
  | memory limit => exact ⟨fun _ => nofun, fun _ => rfl⟩
  | table =>
    simp [Beginning.entry, Change.refusal?, Change.takesTime, Value.writeError?, isTime,
      show Record.isWord 0 = true from rfl]

/-- A desk begins entries by these commands, if what is known of the call can be written. -/
theorem exists_start_of_enter (desk : Reasoning.Desk) (isKept : desk.journal.isKept = true)
    (stage model prompt session : String) {metadata : Members}
    (isSound : (Value.object metadata).IsSound)
    (isWritable : (Value.object metadata).IsWritable desk.journal.room) : ∃ beginning : Beginning,
      beginning.stage = stage ∧ beginning.model = model ∧ beginning.prompt = prompt ∧
      beginning.session = session ∧ beginning.metadata = metadata ∧
      (desk.enter stage model prompt session (.object metadata)).1 = some beginning.entry ∧
      (desk.enter stage model prompt session (.object metadata)).2.journal =
        ((Command.start beginning).run desk.journal).2 := by
  have given : (if (Value.object metadata).isFull then Value.object metadata else .object []) =
      .object metadata := by
    cases metadata <;> rfl
  let beginning : Beginning := ⟨desk.issue.1, Reasoning.Desk.timeText desk.entered,
    desk.issue.2.issue.1, session, stage, model, prompt, metadata, isSound⟩
  have takes := (refusal?_beginning_iff desk.journal beginning).mpr fun _ => isWritable
  refine ⟨beginning, rfl, rfl, rfl, rfl, rfl, ?_⟩
  unfold Command.run enter Reasoning.Desk.enter
  dsimp only
  rw [takes, isKept, given]
  unfold Beginning.entry
  dsimp only
  cases session.isEmpty <;> exact ⟨rfl, rfl⟩

/-- A desk ends entries by these commands, if the journal refuses nothing of the end. -/
theorem finish_eq_run (desk : Reasoning.Desk) (held? : Option Entry) (written : Ending)
    (isTaken : ∀ isThere, desk.journal.refusal? isThere written.changes = none) :
    (desk.finish held? written.changes).journal =
      ((Command.finish (held?.map (·.id)) written).run desk.journal).2 := by
  cases held? with
  | none => rfl
  | some entry =>
    show _ = (desk.journal.write entry.id written.changes).2
    unfold write
    rw [isTaken]
    rfl

namespace Follows

variable {shelf : Shelf} {room : Nat} {log : List Logged} {journal : Journal}

end Follows

/-! ### One command after the other -/

namespace Command

end Command

end MoveAudit.Journal
