/-
This file holds the notices that a run leaves: how weighty each is, which part of the program it
comes from, what happened, in a word and in words, and what belongs to it by name. How long
something took is not part of a notice. Some happenings are so frequent that the console shows only
some kinds of them, depending on its mode. A mode may be given outright, or else by the environment,
or else by whether detail was asked for; a word that names no mode is passed over.
-/

import MoveAudit.Json.Value
import MoveAudit.Text.Basic
import MoveAudit.Text.Case

namespace MoveAudit.Console

/-- How much the console shows. -/
inductive Mode where
  | normal
  | verbose
  | debug
  deriving DecidableEq, Repr

namespace Mode

/-- The modes. -/
def all : List Mode :=
  [.normal, .verbose, .debug]

/-- The word for a mode. -/
def word : Mode → String
  | normal => "normal"
  | verbose => "verbose"
  | debug => "debug"

/-- The mode that a word names, in any case and with blanks around it. -/
def ofWord? (given : String) : Option Mode :=
  let small := Text.lowered (Text.trimmed given)
  if small == "default" then some normal else all.find? (·.word == small)

/-- The mode of a console, from the word given for it, the word in the environment, and whether
detail was asked for. -/
def settle (given environment : String) (detailed : Bool) : Mode :=
  match ofWord? given with
  | some mode => mode
  | none => (ofWord? environment).getD (if detailed then verbose else normal)

end Mode

/-- How weighty a notice is. -/
inductive Level where
  | debug
  | info
  | success
  | warning
  | error
  deriving DecidableEq, Repr

namespace Level

/-- The levels, lightest first. -/
def all : List Level :=
  [.debug, .info, .success, .warning, .error]

/-- The word for a level. -/
def word : Level → String
  | debug => "DEBUG"
  | info => "INFO"
  | success => "SUCCESS"
  | warning => "WARNING"
  | error => "ERROR"

/-- The level that a word stands for, in any case; a word that names none stands for `info`. -/
def ofWord (given : String) : Level :=
  let large := Text.raised given
  if large == "WARN" then warning else (all.find? (·.word == large)).getD info

/-- Whether a console in this mode shows the level at all. -/
def isShown (mode : Mode) (level : Level) : Bool :=
  mode == .debug || level != debug

end Level

/-- Fields in order; a later one of the same name replaces the value of an earlier one. -/
def mergedFields (context fields : Json.Members) : Json.Members :=
  fields.foldl (fun known (name, value) => Entries.put known name value) (Entries.ofList context)

end MoveAudit.Console

namespace MoveAudit

/-- One thing that happened during a run. -/
structure Notice where
  level : Console.Level
  component : String
  event : String
  message : String := ""
  kind : String := ""
  fields : Json.Members := []

namespace Notice

open Console

/-- The notice of a failure of some kind; one without a message is known by its kind. -/
def ofFailure (component event kind message : String) (fields : Json.Members := []) : Notice :=
  { level := .error, component, event
    message := if message.isEmpty then kind else message
    fields := ("error_type", .string kind) :: fields }

/-- The notice with the fields of a context in front of its own. -/
def under (context : Json.Members) (notice : Notice) : Notice :=
  { notice with fields := mergedFields context notice.fields }

/-- The kinds of a frequent happening that are shown: usually, and when detail is asked for.
Happenings that are not frequent have no such list. -/
def shownKinds? (event : String) (mode : Mode) : Option (List String) :=
  if event == "feed.poll" then
    some (if mode == .verbose then ["event", "error", "cursor"] else ["event", "error"])
  else if event == "chain.rpc" then
    some (if mode == .verbose then ["error", "retry"] else ["error"])
  else none

/-- Whether a console in this mode shows the notice. -/
def isShown (mode : Mode) (notice : Notice) : Bool :=
  notice.level.isShown mode &&
    (mode == .debug || (shownKinds? notice.event mode).all (·.contains notice.kind))

/-- The notice in brief: its level, where it comes from, and what happened. -/
def heading (notice : Notice) : String :=
  notice.level.word ++ " " ++ notice.component ++ " " ++ notice.event

end Notice

end MoveAudit
