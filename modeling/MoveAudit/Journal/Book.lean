/-
This file keeps journals. A journal in memory holds a limited number of entries, keeps the place of
an entry that is saved again, and drops the oldest when it is full. A journal in a table holds any
number and puts an entry that is saved again last. The two also differ in how they read odd
bounds of a query and in what a change of an unknown entry comes to. And a table refuses what its
columns have no place for: whole numbers of more than 64 bits, also as bounds of a query, times that
are no numbers, and values that cannot be written as texts.
-/

import MoveAudit.Journal.Entry
import MoveAudit.Json.Reader
import MoveAudit.Json.Writer

namespace MoveAudit

open Json

namespace Journal

/-- Where a journal is kept. -/
inductive Shelf where
  | memory (limit : Nat)
  | table
  deriving DecidableEq, Repr

/-- How many entries are kept in memory. -/
def usualLimit : Nat := 1000

/-- What a query asks for. An empty session or stage stands for any. -/
structure Query where
  session : String := ""
  stage : String := ""
  success : Value := .null
  limit : Int := 100
  offset : Int := 0

/-- The query that a document describes. -/
def Query.ofJson (document : Value) : Query :=
  let whole := fun (name : String) (usual : Int) => match document.part name with
    | .int number => number
    | _ => usual
  { session := (document.part "session_id").text?.getD ""
    stage := (document.part "call_type").text?.getD ""
    success := document.part "success"
    limit := whole "limit" 100
    offset := whole "offset" 0 }

end Journal

open Journal

/-- The journal of model calls. -/
structure Journal where
  shelf : Journal.Shelf := .memory Journal.usualLimit
  isKept : Bool := true
  entries : List Journal.Entry := []
  /-- How many brackets of a value may be open at once when a table writes it. -/
  room : Nat := usualRoom

namespace Journal

/-- A value as it is read back from its text. -/
def rewritten (value : Value) : Value :=
  (read (value.write .spaced)).toOption.getD value

/-- A value as a table keeps it: as a text, for a response; as a number with a fraction, whose zero
has no sign, for a time; whether it counts, for a truth value; a whole number, for a count. -/
def Change.inTable : Change → Change
  | .response value => .response (rewritten value)
  | .latency (.int whole) => .latency (.float (.ofInt whole))
  | .latency (.float number) => .latency (.float number.plain)
  | .success value => .success (.bool value.isFull)
  | .retries (.bool truth) => .retries (.int (if truth then 1 else 0))
  | other => other

/-- An entry as a table keeps it. -/
def Entry.inTable (entry : Entry) : Entry :=
  ([.response entry.response, .latency entry.latency, .success entry.success,
    .retries entry.retries].map Change.inTable).foldl Entry.after
      { entry with metadata := rewritten entry.metadata }

/-- Save an entry. -/
def save (journal : Journal) (entry : Entry) : Journal :=
  match journal.shelf with
  | .memory limit =>
    let entries := if journal.entries.any (·.id == entry.id)
      then journal.entries.map fun old => if old.id == entry.id then entry else old
      else journal.entries ++ [entry]
    { journal with entries := entries.drop (entries.length - limit) }
  | .table =>
    { journal with entries := journal.entries.filter (·.id != entry.id) ++ [entry.inTable] }

/-- Change the entries of an identifier. -/
def changed (entries : List Entry) (id : String) (changes : List Change) : List Entry :=
  entries.map fun entry => if entry.id == id then changes.foldl Entry.after entry else entry

/-- Write into the entry of an identifier, and say whether that was done. In memory it is done when
the entry is there; in a table, when there is something to write. -/
def update (journal : Journal) (id : String) (changes : List Change) : Bool × Journal :=
  match journal.shelf with
  | .memory _ =>
    (journal.entries.any (·.id == id),
      { journal with entries := changed journal.entries id changes })
  | .table =>
    (!changes.isEmpty,
      { journal with entries := changed journal.entries id (changes.map Change.inTable) })

/-- The entry of an identifier. -/
def find? (journal : Journal) (id : String) : Option Entry :=
  journal.entries.find? (·.id == id)

/-- A place in a list of some length, where a negative place counts from the end. -/
def place (length : Nat) (index : Int) : Nat :=
  if index < 0 then (length + index).toNat else min index.toNat length

/-- The part of a list between two places. -/
def between {Item : Type} (first last : Int) (items : List Item) : List Item :=
  let start := place items.length first
  (items.drop start).take (place items.length last - start)

/-- Whether an entry is what a query asks for. -/
def Query.accepts (query : Query) (shelf : Shelf) (entry : Entry) : Bool :=
  (query.session.isEmpty || entry.session == query.session) &&
    (query.stage.isEmpty || entry.stage == query.stage) &&
    (query.success.isNull || match shelf with
      | .memory _ => entry.success == query.success
      | .table => entry.success.isFull == query.success.isFull)

/-- Entries with the latest first. -/
def latestFirst (entries : List Entry) : List Entry :=
  entries.mergeSort fun a b => b.time ≤ a.time

/-- The entries that a query asks for, latest first. Of entries of one time, a table gives the one
saved last first, unless it looks for a session or a stage. -/
def query (journal : Journal) (query : Query) : List Entry :=
  let found := journal.entries.filter (query.accepts journal.shelf)
  match journal.shelf with
  | .memory _ => between query.offset (query.offset + query.limit) (latestFirst found)
  | .table =>
    let isScan := query.session.isEmpty && query.stage.isEmpty
    let rest := (latestFirst (if isScan then found.reverse else found)).drop query.offset.toNat
    if query.limit < 0 then rest else rest.take query.limit.toNat

/-! ### What a table refuses -/

/-- Why a table does not carry something out. -/
inductive Refusal where
  /-- A whole number has no place in 64 bits. -/
  | overflow
  /-- There has to be a time, and what is no number counts as none. -/
  | noTime
  /-- A value cannot be written as a text. -/
  | unwritten (error : WriteError)
  deriving DecidableEq, Repr

/-- Why a table does not take up the value of a change, whatever it would be written into. -/
def Change.refusal? (room : Nat) : Change → Option Refusal
  | .response value => (value.writeError? room).map .unwritten
  | .latency (.int whole) | .retries (.int whole) => if Record.isWord whole then none else some .overflow
  | _ => none

/-- Whether a change would leave an entry without a time. -/
def Change.takesTime : Change → Bool
  | .latency (.float number) => number = .nan
  | _ => false

/-- Why a journal does not take up changes, by whether there is an entry to write them into. Their
values are taken up before the entry is looked for. -/
def refusal? (journal : Journal) (isThere : Bool) (changes : List Change) : Option Refusal :=
  match journal.shelf with
  | .memory _ => none
  | .table => (changes.findSome? (Change.refusal? journal.room)).or
      (if isThere && changes.any Change.takesTime then some .noTime else none)

/-- Save an entry, unless the journal refuses to. -/
def enter (journal : Journal) (entry : Entry) : Except Refusal Unit × Journal :=
  match journal.refusal? true [.response entry.response, .response entry.metadata,
      .latency entry.latency, .retries entry.retries] with
  | some reason => (.error reason, journal)
  | none => (.ok (), journal.save entry)

/-- Write into the entry of an identifier, unless the journal refuses to. -/
def write (journal : Journal) (id : String) (changes : List Change) :
    Except Refusal Bool × Journal :=
  match journal.refusal? (journal.entries.any (·.id == id)) changes with
  | some reason => (.error reason, journal)
  | none =>
    let (isDone, later) := journal.update id changes
    (.ok isDone, later)

/-- The entries that a query asks for, unless the journal refuses its bounds. -/
def search (journal : Journal) (query : Query) : Except Refusal (List Entry) :=
  match journal.shelf with
  | .memory _ => .ok (journal.query query)
  | .table =>
    if Record.isWord query.limit && Record.isWord query.offset then .ok (journal.query query)
    else .error .overflow

/-- What is learned when a call ends. -/
def ending (response : Value) (error : Complaint) (latency retries success : Value) :
    List Change :=
  [.response response, .error error, .latency latency, .retries retries,
    .status (.string (if success.isFull then "completed" else "failed")), .success success]

end Journal

end MoveAudit
