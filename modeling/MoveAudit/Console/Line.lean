/-
This file writes notices as lines of the console. A line holds the time, the level, the component
and the happening, then the message if there is one, then the fields that have a value. Line breaks
inside a value are spelled out, so that one notice always takes one line. Durations are spelled below
a second in milliseconds, below a minute in seconds with two places, and from then on in minutes and
seconds.
-/

import MoveAudit.Console.Notice
import MoveAudit.Json.Shown
import MoveAudit.Number.Decimal
import MoveAudit.Number.Numeral
import MoveAudit.Text.Search

namespace MoveAudit.Console

open Json

/-- The longest text of a field; longer ones are cut. -/
def fieldLimit : Nat := 500

/-- A text with its line breaks spelled out. -/
def onOneLine (text : String) : String :=
  Text.substitute "\n" "\\n" (Text.substitute "\r" "\\r" text)

/-- A field as it stands on the line. -/
def fieldText (name : String) (value : Value) : String :=
  let text := onOneLine value.shown
  name ++ "=" ++ if fieldLimit < text.length then (text.take fieldLimit).toString ++ "..." else text

/-- The line of a notice at a time, with the fields of its context in front of its own. In debug
mode the kind of the notice is a field as well. -/
def line (mode : Mode) (time : String) (context : Members) (notice : Notice) : String :=
  let own := (notice.under context).fields
  let all := if notice.kind.isEmpty || mode != .debug then own
    else Entries.put own "kind" (.string notice.kind)
  let fields := (all.filter fun (_, value) => !value.isNull).map fun (name, value) =>
    fieldText name value
  let event := Text.trimmed notice.event
  " | ".intercalate <|
    ["[" ++ time ++ "] [" ++ notice.level.word ++ "] [" ++ notice.component ++ "] " ++
        (if event.isEmpty then "event" else event)] ++
      (if notice.message.isEmpty then [] else [onOneLine notice.message]) ++
      (if fields.isEmpty then [] else [", ".intercalate fields])

/-- The kind of a notice out of its fields, and the fields without it. -/
def takeKind (fields : Members) : String × Members :=
  let given := Value.ofOption (Entries.get? fields "kind")
  (Text.lowered (Text.trimmed (if given.isFull then given.shown else "")),
    Entries.erase fields "kind")

/-- The line of a notice, if a console in this mode shows it. -/
def shownLine? (mode : Mode) (time : String) (context : Members) (notice : Notice) :
    Option String :=
  if notice.isShown mode then some (line mode time context notice) else none

end MoveAudit.Console

/-! ### Durations -/

namespace MoveAudit.Console.Duration

/-- A duration shorter than a minute. -/
def shortText (seconds : Double) : String :=
  if seconds.lt (.ofInt 1) then (seconds.mul (.ofInt 1000)).fixedText 0 ++ "ms"
  else seconds.fixedText 2 ++ "s"

/-- Whole minutes and the seconds that are left. -/
def longText (minutes : Int) (rest : Double) : String :=
  Numeral.intText minutes ++ "m" ++ rest.fixedText 2 ++ "s"

/-- A duration of whole seconds. -/
def ofWhole (seconds : Int) : String :=
  if seconds < 0 then "0ms"
  else if seconds < 60 then shortText (.ofInt seconds)
  else longText (seconds / 60) (.ofInt (seconds % 60))

/-- The whole minutes in a duration of units without the seconds that are left. Very long durations
have as many as the quotient of the two numbers rounds to. -/
def minutesIn (units : Int) : Int :=
  match ((Double.ofUnits false units).divNat 60).units? with
  | some quotient =>
    quotient / Double.one + (if Double.one < 2 * (quotient % Double.one) then 1 else 0)
  | none => 0

/-- A duration in seconds; one without end has no text. -/
def text? (seconds : Double) : Option String :=
  if seconds.lt (.ofInt 0) then some "0ms"
  else if seconds.lt (.ofInt 60) then some (shortText seconds)
  else seconds.units?.map fun units =>
    let rest := units % (60 * Double.one : Int)
    longText (minutesIn (units - rest)) (.ofUnits false rest)

end MoveAudit.Console.Duration
