/-
This file says when two names are alike: when nothing tells them apart but the case of ASCII letters
and the blanks around them. Names that are alike have one capital form. In ASCII the converse holds
too: what has the capital form or the small form of a name is alike.
-/

import MoveAudit.Proofs.Text.Small

namespace MoveAudit.Text

/-- Nothing tells two names apart but the case of ASCII letters and the blanks around them. -/
def IsAlike (name other : String) : Prop :=
  (trim name.toList).map Char.toLower = (trim other.toList).map Char.toLower

/-- Every character of a text is one of ASCII. -/
def IsAscii (text : List Char) : Prop :=
  ∀ c ∈ text, c.toNat < 128

instance (text : List Char) : Decidable (IsAscii text) :=
  decidable_of_iff (text.all (·.toNat < 128) = true) (by simp [IsAscii])

/-! ### Characters -/

/-- What is settled for each code point of ASCII holds for each character of ASCII. -/
theorem holds_of_ascii {property : Char → Prop}
    (each : ∀ point < 128, property (Char.ofNat point)) (c : Char) (isAscii : c.toNat < 128) :
    property c := by
  rw [← Char.ofNat_toNat c]
  exact each _ isAscii

/-- What the case of an ASCII letter makes no difference to is no different for the small form of a
character, since other characters have none here. -/
theorem same_for_toLower {Form : Type} {form : Char → Form}
    (each : ∀ point < 128, form (Char.ofNat point).toLower = form (Char.ofNat point)) (c : Char) :
    form c.toLower = form c := by
  by_cases isAscii : c.toNat < 128
  · exact @holds_of_ascii (fun c => form c.toLower = form c) each c isAscii
  · rw [toLower_eq_self (by omega)]

theorem upperChar_toLower (c : Char) : upperChar c.toLower = upperChar c :=
  same_for_toLower (by decide) c

theorem isBlank_toLower (c : Char) : isBlank c.toLower = isBlank c :=
  same_for_toLower (by decide) c

theorem toLower_toUpper : ∀ c : Char, c.toNat < 128 → c.toUpper.toLower = c.toLower :=
  holds_of_ascii (by decide)

theorem toNat_toUpper : ∀ c : Char, c.toNat < 128 → c.toUpper.toNat < 128 :=
  holds_of_ascii (by decide)

/-! ### Texts -/

theorem upper_map_toLower (text : List Char) : upper (text.map Char.toLower) = upper text := by
  unfold upper
  rw [List.flatMap_map]
  exact List.flatMap_congr fun c _ => upperChar_toLower c

theorem trim_map_toLower (text : List Char) :
    trim (text.map Char.toLower) = (trim text).map Char.toLower := by
  have keeps : isBlank ∘ Char.toLower = isBlank := funext isBlank_toLower
  simp only [trim, trimEnd, trimStart, List.dropWhile_map, ← List.map_reverse, keeps]

theorem upper_of_ascii {text : List Char} (isAscii : IsAscii text) :
    upper text = text.map Char.toUpper := by
  unfold upper
  rw [List.map_eq_flatMap]
  exact List.flatMap_congr fun c member => if_pos (isAscii c member)

theorem lower_upper_of_ascii {text : List Char} (isAscii : IsAscii text) :
    lower (upper text) = lower text := by
  have upperAscii : IsAscii (text.map Char.toUpper) := by
    intro c member
    obtain ⟨original, isOriginal, rfl⟩ := List.mem_map.mp member
    exact toNat_toUpper original (isAscii original isOriginal)
  rw [upper_of_ascii isAscii, lower_of_ascii upperAscii, lower_of_ascii isAscii, List.map_map]
  exact List.map_congr_left fun c member => toLower_toUpper c (isAscii c member)

/-! ### Names -/

theorem IsAlike.raised_eq {name other : String} (alike : IsAlike name other) :
    raised (trimmed name) = raised (trimmed other) := by
  unfold raised trimmed
  rw [String.toList_ofList, String.toList_ofList, ← upper_map_toLower, alike, upper_map_toLower]

section Ascii

variable {name other : String} (isAscii : IsAscii name.toList)
include isAscii

theorem isAscii_trim : IsAscii (trim name.toList) := fun c member =>
  isAscii c ((List.dropWhile_suffix _).subset ((List.rdropWhile_prefix _ _).subset member))

/-- A name in ASCII is no different in small letters for having been in capital ones. -/
theorem lowered_raised_of_ascii :
    lowered (trimmed (raised (trimmed name))) = lowered (trimmed name) := by
  unfold lowered raised trimmed
  simp only [String.toList_ofList]
  rw [trim_upper_trim, lower_upper_of_ascii (isAscii_trim isAscii)]

theorem isAlike_of_raised_eq (same : other = raised (trimmed name)) : IsAlike name other := by
  have ascii := isAscii_trim isAscii
  unfold IsAlike
  rw [same, raised, trimmed, String.toList_ofList, String.toList_ofList, trim_upper_trim,
    upper_of_ascii ascii, List.map_map]
  exact List.map_congr_left fun c member => (toLower_toUpper c (ascii c member)).symm

theorem isAlike_of_lowered_eq (isAsciiToo : IsAscii other.toList)
    (same : lowered other = lowered (trimmed name)) : IsAlike name other := by
  unfold lowered trimmed at same
  rw [String.toList_ofList, String.ofList_inj, lower_of_ascii isAsciiToo,
    lower_of_ascii (isAscii_trim isAscii)] at same
  unfold IsAlike
  rw [← trim_map_toLower other.toList, same, trim_map_toLower, trim_trim]

end Ascii

end MoveAudit.Text
