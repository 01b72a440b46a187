/-
This file takes packages apart by modules. Each function belongs to one module, and so does each
piece of disassembly, so a package can be cut down to some of its modules, and what is then known of
a function that stays is what was known before. Packages whose disassembly is text are the ones that
every pass can read.
-/

import MoveAudit.Proofs.Entries
import MoveAudit.Static.Report

namespace MoveAudit.Move.Package

open Json

/-- The disassembly of every module is a text. -/
def HasText (package : Package) : Prop :=
  ∀ described ∈ package.disassembly, ∃ text, described.2 = .string text

/-- The code of each module; what is no text is no code. -/
def codes (package : Package) : List (String × List Char) :=
  package.disassembly.map fun described => (described.1, (described.2.text?.getD "").toList)

/-- What the disassembly of its module has of a function; nothing for a function that is not
there. -/
def bodyOf (package : Package) (function : Function) : List Char :=
  Listing.bodyOf (Listing.bodies ((Entries.get? package.codes function.module).getD []))
    function.name

/-- The functions of a module that have a name. -/
def records (package : Package) (module name : String) : List Function :=
  package.functions.filter fun function => function.module == module && function.name == name

/-- The part of a package that lies in the modules of which `keep` holds. -/
def part (keep : String → Bool) (package : Package) : Package :=
  { package with
    functions := package.functions.filter fun function => keep function.module
    disassembly := package.disassembly.filter fun described => keep described.1 }

variable {package : Package} {keep : String → Bool}

theorem HasText.code_eq (text : package.HasText) {described : String × Value}
    (member : described ∈ package.disassembly) :
    Static.code described.2 = .ok (described.2.text?.getD "").toList := by
  obtain ⟨written, isText⟩ := text described member
  rw [isText]
  rfl

theorem HasText.part (text : package.HasText) : (package.part keep).HasText :=
  fun described member => text described (List.mem_filter.mp member).1

theorem codes_part : (package.part keep).codes = package.codes.filter fun code => keep code.1 := by
  unfold codes part
  rw [List.filter_map]
  rfl

theorem get?_codes (module : String) : Entries.get? package.codes module =
    (Entries.get? package.disassembly module).map fun written =>
      (written.text?.getD "").toList := by
  unfold Entries.get? codes
  rw [List.find?_map, Option.map_map, Option.map_map]
  rfl

theorem get?_codes_part {module : String} (kept : keep module = true) :
    Entries.get? (package.part keep).codes module = Entries.get? package.codes module := by
  unfold Entries.get?
  rw [codes_part, List.find?_filter]
  refine congrArg (Option.map Prod.snd)
    (congrArg (List.find? · package.codes) (funext fun code => ?_))
  by_cases named : code.1 = module
  · simp [named, kept]
  · simp [named]

/-- A function of a module that stays has the text that it had. -/
theorem bodyOf_part {function : Function} (kept : keep function.module = true) :
    (package.part keep).bodyOf function = package.bodyOf function := by
  unfold bodyOf
  rw [get?_codes_part kept]

end MoveAudit.Move.Package
