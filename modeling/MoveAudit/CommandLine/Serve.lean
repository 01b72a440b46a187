/-
This file holds the command that brings the web interface up. Host and port come from the
environment when they are not given; a port in the environment that is no number is a fault before
anything is read.
-/

import MoveAudit.CommandLine.Form
import MoveAudit.Console.Notice

namespace MoveAudit.CommandLine

open Json

/-- Where the web interface is brought up. -/
structure Serving where
  host : String
  port : Int
  reloads : Bool

namespace Serving

/-- What the command accepts. -/
def form : Form where
  program := "suiguard-server"
  items := [⟨["--host"], "host", some .text⟩, ⟨["--port"], "port", some .whole⟩,
    ⟨["--reload"], "reload", none⟩]

/-- What is said of a text that is no whole number. -/
def notWhole (text : String) : String :=
  "invalid literal for int() with base 10: " ++ Text.quoted text

/-- The port that the environment gives, or what is wrong with it. -/
def usualPort (environment : Environment) : Except String Int :=
  let text := (Entries.get? environment "PORT").getD "3000"
  match Config.whole? text with
  | some port => .ok port
  | none => .error (notWhole text)

/-- The values that hold when nothing is given. -/
def usual (environment : Environment) (port : Int) : Members :=
  [("host", .string ((Entries.get? environment "HOST").getD "0.0.0.0")), ("port", .int port),
    ("reload", .bool false)]

/-- What the values say. -/
def ofValues (values : Members) : Serving where
  host := ((Entries.get? values "host").bind Value.text?).getD ""
  port := match Entries.get? values "port" with
    | some (.int port) => port
    | _ => 0
  reloads := ((Entries.get? values "reload").getD .null).isFull

/-- What the command is asked to do; a port in the environment that is no number comes first. -/
def read (environment : Environment) (arguments : List String) :
    Except String (Except Stop Serving) := do
  let port ← usualPort environment
  return (form.read (usual environment port) arguments).map fun given => ofValues given.values

/-- A notice of the command. -/
def notice (event message : String) (fields : Members) : Notice :=
  { level := .info, component := "web.server", event := "startup." ++ event, message, fields }

/-- The address of a page of the web interface. -/
def address (serving : Serving) (page : String) : String :=
  "http://" ++ serving.host ++ ":" ++ Numeral.intText serving.port ++ "/" ++ page

/-- The notices of the command. -/
def notices (serving : Serving) : List Notice :=
  [notice "banner" "SuiGuard Safety Card 分析服务" [],
    notice "addr" "服务地址" [("url", .string (serving.address "analyze"))],
    notice "docs" "API 文档地址" [("url", .string (serving.address "docs"))]]

/-- The options that the web interface is run with. -/
def members (serving : Serving) : Members :=
  [("factory", .bool true), ("host", .string serving.host), ("port", .int serving.port),
    ("reload", .bool serving.reloads)]

end Serving

end MoveAudit.CommandLine
