/-
This file keeps values under names in the order in which the names first came. Writing a name
again replaces its value where it stands; only a new name goes to the end. That order is what
reports show, so a list of pairs is the whole state.
-/

namespace MoveAudit.Entries

variable {Key Entry : Type} [BEq Key]

/-- Write a value: in place for a known name, at the end for a new one. -/
def put (entries : List (Key × Entry)) (key : Key) (entry : Entry) : List (Key × Entry) :=
  match entries with
  | [] => [(key, entry)]
  | (other, old) :: rest =>
    if other == key then (other, entry) :: rest else (other, old) :: put rest key entry

/-- Write a value only if its name is new. -/
def putNew (entries : List (Key × Entry)) (key : Key) (entry : Entry) : List (Key × Entry) :=
  if entries.any (·.1 == key) then entries else entries ++ [(key, entry)]

/-- The value under a name. -/
def get? (entries : List (Key × Entry)) (key : Key) : Option Entry :=
  (entries.find? (·.1 == key)).map (·.2)

/-- Whether a name is known. -/
def has (entries : List (Key × Entry)) (key : Key) : Bool :=
  entries.any (·.1 == key)

/-- The entries without a name. -/
def erase (entries : List (Key × Entry)) (key : Key) : List (Key × Entry) :=
  entries.filter (!·.1 == key)

/-- The entries with each name kept at its first place with its last value. -/
def ofList (entries : List (Key × Entry)) : List (Key × Entry) :=
  entries.foldl (fun kept (key, entry) => put kept key entry) []

/-- The members of a list in order of first appearance, each once. -/
def distinct (keys : List Key) : List Key :=
  (keys.foldl (fun seen key => if seen.contains key then seen else key :: seen) []).reverse

theorem get?_put_self [LawfulBEq Key] (entries : List (Key × Entry)) (key : Key) (entry : Entry) :
    get? (put entries key entry) key = some entry := by
  induction entries with
  | nil => simp [put, get?]
  | cons pair rest inductionHypothesis =>
    obtain ⟨other, old⟩ := pair
    by_cases same : other == key
    · simp [put, get?, same]
    · simpa [put, get?, same] using inductionHypothesis

theorem get?_put_of_ne [LawfulBEq Key] (entries : List (Key × Entry)) {key asked : Key}
    (entry : Entry) (different : asked ≠ key) :
    get? (put entries key entry) asked = get? entries asked := by
  induction entries with
  | nil => simp [put, get?, Ne.symm different]
  | cons pair rest inductionHypothesis =>
    obtain ⟨other, old⟩ := pair
    by_cases same : other == key
    · have : other = key := by simpa using same
      subst this
      simp [put, get?, Ne.symm different]
    · by_cases asks : other == asked
      · simp [put, get?, same, asks]
      · simpa [put, get?, same, asks] using inductionHypothesis

end MoveAudit.Entries
