/-
This file holds courses of action: the parts of a run that ask something of the outside. The
outside is a world that a course is given and hands on; what the outside answers is part of that
world, so a course is a plain function and everything it does can be read off its outcome. A
course that fails keeps what it did before: the world as it left it, and the notices.
-/

import MoveAudit.Console.Notice

namespace MoveAudit

/-- A world, and the notices left in it so far. -/
structure Scene (World : Type) where
  world : World
  notices : List Notice := []

/-- A course of action on a world, with a result or a failure at its end. -/
abbrev Act (World Failure Result : Type) : Type :=
  ExceptT Failure (StateM (Scene World)) Result

namespace Act

variable {World Part Failure Other Result : Type}

/-- Leave a notice. -/
def note (notice : Notice) : Act World Failure Unit :=
  modify fun scene => { scene with notices := scene.notices ++ [notice] }

/-- The world as it is. -/
def look : Act World Failure World :=
  return (← get).world

/-- Change the world. -/
def change (update : World → World) : Act World Failure Unit :=
  modify fun scene => { scene with world := update scene.world }

/-- Change the world and learn something from it. -/
def take (update : World → Result × World) : Act World Failure Result := do
  let (result, world) := update (← look)
  change fun _ => world
  return result

/-- A course whose failure is a result. -/
def settle (action : Act World Failure Result) : Act World Other (Except Failure Result) :=
  ExceptT.mk do return .ok (← action.run)

/-- A course with its failures seen in another way. -/
def relabel (rename : Failure → Other) (action : Act World Failure Result) :
    Act World Other Result :=
  ExceptT.mk do return (← action.run).mapError rename

/-- A result that may be missing its reason to exist. -/
def ofExcept (outcome : Except Failure Result) : Act World Failure Result :=
  ExceptT.mk (pure outcome)

/-- A course of action on a part of the world. -/
def within (part : World → Part) (put : Part → World → World)
    (action : Act Part Failure Result) : Act World Failure Result :=
  ExceptT.mk fun scene =>
    let (outcome, left) := action.run ⟨part scene.world, scene.notices⟩
    (outcome, ⟨put left.world scene.world, left.notices⟩)

/-- The outcome of a course that begins in a world without notices. -/
def outcome (action : Act World Failure Result) (world : World) :
    Except Failure Result × Scene World :=
  action.run ⟨world, []⟩

end Act

end MoveAudit
