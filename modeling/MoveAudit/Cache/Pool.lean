/-
This file lets callers share computations. A caller first looks for the result it wants; when there
is none and someone computes it already, it waits for that computation, and only otherwise computes
it itself. What a caller does between two waits is one turn, so that any order of turns is a run of
the pool; when and how a computation ends is up to the outside and can be laid down at any time. A
computation that fails or takes too long ends the same way for all who wait for it, and so does one
that is cancelled; a caller that only waits can be cancelled without effect on anyone else.
-/

import MoveAudit.Cache.Results

namespace MoveAudit.Cache

/-- How a computation ends. -/
inductive Ending (Failure : Type) where
  | card (card : Card)
  | failed (failure : Failure)
  | late
  | cancelled

/-- The ending that is left for a caller that computes again: a computation that took too long was
broken off. -/
def Ending.left {Failure : Type} : Ending Failure → Ending Failure
  | .late => .cancelled
  | other => other

/-- What a caller comes away with. -/
inductive Outcome (Failure : Type) where
  /-- A card, and whether someone else had computed it. -/
  | card (card : Card) (isShared : Bool)
  | failed (failure : Failure)
  | late
  | cancelled
  /-- What the store holds, or the store itself, could not be used. -/
  | unreadable (fault : Fault)

/-- Where a caller stands. -/
inductive Phase (Failure : Type) where
  | arriving
  | computing
  | waiting (owner : String)
  | ended (outcome : Outcome Failure)

/-- What someone who waits comes away with when the one who computes does. -/
def Outcome.shared {Failure : Type} : Outcome Failure → Outcome Failure
  | .card result _ => .card result true
  | other => other

/-- A caller: the key it asks for, and where it stands. -/
structure Caller (Failure : Type) where
  key : String
  phase : Phase Failure := .arriving

/-- Callers that share a store and what is computed for it; failures can be told in words. -/
structure Pool (Failure : Type) [ToString Failure] where
  store : Store := .empty
  /-- The keys that are being computed, with the callers that compute them. -/
  underway : List (String × String) := []
  callers : List (String × Caller Failure) := []
  /-- How computations end, as far as it is laid down. -/
  endings : List (String × Ending Failure) := []
  /-- The callers that ever began to compute, in order. -/
  begun : List String := []

namespace Pool

variable {Failure : Type} [ToString Failure]

/-- A course of action on a pool, which never fails. -/
abbrev Course (Failure Result : Type) [ToString Failure] := Act (Pool Failure) Empty Result

/-- A course of action on the store of a pool. -/
def onStore {Fault Result : Type} (action : Act Store Fault Result) :
    Act (Pool Failure) Fault Result :=
  action.within (·.store) fun store pool => { pool with store }

/-- Put a caller into a phase. -/
def put (id : String) (caller : Caller Failure) (phase : Phase Failure) (pool : Pool Failure) :
    Pool Failure :=
  { pool with callers := Entries.put pool.callers id { caller with phase } }

/-- Where a caller stands. -/
def phaseOf? (pool : Pool Failure) (id : String) : Option (Phase Failure) :=
  (Entries.get? pool.callers id).map (·.phase)

/-- Whether the result under a key is being computed. -/
def isUnderway (pool : Pool Failure) (key : String) : Bool :=
  Entries.has pool.underway key

/-- A new caller comes. -/
def join (id key : String) (pool : Pool Failure) : Pool Failure :=
  { pool with callers := Entries.put pool.callers id { key } }

/-- Lay down how the computation of a caller ends; it can be laid down once. -/
def settle (id : String) (ending : Ending Failure) (pool : Pool Failure) : Pool Failure :=
  { pool with endings := Entries.putNew pool.endings id ending }

/-! ### Turns -/

/-- A caller that has just come looks for its result, joins those who wait for it, or begins to
compute it. -/
def arrive (id : String) (caller : Caller Failure) : Course Failure Unit := do
  match ← (onStore (get caller.key)).settle with
  | .error fault => Act.change (put id caller (.ended (.unreadable fault)))
  | .ok (some card) =>
    Act.note (hitNotice caller.key)
    Act.change (put id caller (.ended (.card card true)))
  | .ok none =>
    match Entries.get? (← Act.look).underway caller.key with
    | some owner =>
      Act.note (notice .info "wait" "等待进行中的分析" caller.key)
      Act.change (put id caller (.waiting owner))
    | none =>
      Act.change fun pool => { put id caller .computing pool with
        underway := Entries.put pool.underway caller.key id
        begun := pool.begun ++ [id] }

/-- What an ending comes to for the one who computes. A card is kept first. -/
def close (key : String) (ending : Ending Failure) : Course Failure (Outcome Failure) := do
  match ending with
  | .cancelled => return .cancelled
  | .failed failure =>
    Act.note (failureNotice key (toString failure))
    return .failed failure
  | .late =>
    Act.note (failureNotice key "")
    return .late
  | .card card =>
    match ← (onStore (set key card)).settle with
    | .ok () => return .card card false
    | .error fault =>
      Act.note (failureNotice key (toString fault))
      return .unreadable fault

/-- The computation of a caller ends. -/
def finish (id : String) (caller : Caller Failure) (ending : Ending Failure) :
    Course Failure Unit := do
  let outcome ← close caller.key ending
  Act.change fun pool => { put id caller (.ended outcome) pool with
    underway := Entries.erase pool.underway caller.key
    endings := Entries.put pool.endings id ending.left }

/-- One turn of a caller; one that has nothing to do stays where it is. -/
def turn (id : String) : Course Failure Unit := do
  let pool ← Act.look
  match Entries.get? pool.callers id with
  | none => return
  | some caller =>
    match caller.phase with
    | .arriving => arrive id caller
    | .computing =>
      match Entries.get? pool.endings id with
      | some ending => finish id caller ending
      | none => return
    | .waiting owner =>
      match pool.phaseOf? owner with
      | some (.ended outcome) => Act.change (put id caller (.ended outcome.shared))
      | _ => return
    | .ended _ => return

/-- A turn of every caller, in order. -/
def round : Course Failure Unit := do
  for (id, _) in (← Act.look).callers do
    turn id

/-- Rounds until nobody has anything left to do: one to arrive, one to end computations, one for
those who waited. -/
def calm : Course Failure Unit := do
  round
  round
  round

/-! ### From outside -/

/-- Cancel a caller, and say whether it had still been at it. -/
def cancel (id : String) : Course Failure Bool := do
  match Entries.get? (← Act.look).callers id with
  | none => return false
  | some caller =>
    match caller.phase with
    | .ended _ => return false
    | .computing =>
      Act.change (settle id .cancelled)
      finish id caller .cancelled
      return true
    | _ =>
      Act.change (put id caller (.ended .cancelled))
      return true

/-- Time passes until a caller is done: all that are computing take too long. -/
def expire (id : String) (pool : Pool Failure) : Pool Failure :=
  match pool.phaseOf? id with
  | some (.waiting _) | some .computing =>
    pool.underway.foldl (fun pool (_, owner) => pool.settle owner .late) pool
  | _ => pool

end Pool

end MoveAudit.Cache
