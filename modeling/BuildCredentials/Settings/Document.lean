import BuildCredentials.Settings.Basic
import BuildCredentials.Toml.Statement

/-!
# The text of a settings file

Settings are written section by section, every one of them. What is read may leave out settings and sections,
and may hold others, which mean nothing; a section may also be a list of its settings' values in order.
-/

set_option autoImplicit false

namespace BuildCredentials

open Toml (Value)

namespace Settings

/-! ## Reading -/

/-- Whether a value can be a section. -/
def isSection : Value → Bool
  | .table _ | .array _ | .datetime => true
  | _ => false

/-- What a section says of a setting. -/
def member? (setting : Setting) : Value → Option Value
  | .table entries => entries.lookup setting.name
  | .array items => items[setting.place]?
  | _ => none

/-- Follows what a text says of a setting. -/
def follow (entries : List (String × Value)) (s : Settings) (setting : Setting) : Option Settings :=
  match entries.lookup setting.sectionName with
  | none => some s
  | some v =>
    if !isSection v then none
    else match member? setting v with
      | none => some s
      | some w => setting.ofValue? s w

/-- The settings that a text describes. -/
def parse? (text : String) : Option Settings := do
  let entries ← Toml.parse text
  Setting.all.foldlM (follow entries) {}

/-! ## Writing -/

/-- The text of an item of a list on a line of its own. -/
def itemLine (item : String) : List Char := "    ".toList ++ Toml.Text.write item.toList ++ [',', '\n']

/-- The text of a list of texts; of two or more, each has a line of its own. -/
def writeItems : List String → List Char
  | [] => ['[', ']']
  | [item] => '[' :: (Toml.Text.write item.toList ++ [']'])
  | items => ['[', '\n'] ++ items.flatMap itemLine ++ [']']

/-- The text of a value; settings are words, whole numbers, texts and lists of texts. -/
def writeValue : Value → List Char
  | .boolean b => (toString b).toList
  | .integer n => (toString n).toList
  | .text s => Toml.Text.write s.toList
  | .array items => writeItems (items.filterMap Setting.text?)
  | .float | .datetime | .table _ => []

/-- The line of a setting, if its value can be written. -/
def line? (s : Settings) (setting : Setting) : Option (List Char) :=
  (setting.toValue? s).map fun v => setting.name.toList ++ [' ', '=', ' '] ++ writeValue v ++ ['\n']

/-- The text of a section. -/
def section? (s : Settings) (title : String) : Option (List Char) := do
  let lines ← (Setting.ofSection title).mapM s.line?
  return '[' :: (title.toList ++ [']', '\n'] ++ lines.flatten)

/-- The text of settings, with an empty line between two sections; none if a value cannot be written. -/
def write? (s : Settings) : Option String := do
  let sections ← Setting.sections.mapM s.section?
  return String.ofList (['\n'].intercalate sections)

end Settings

end BuildCredentials
