import BuildCredentials.Bytes.Utf8
import BuildCredentials.Error
import BuildCredentials.FileTree
import BuildCredentials.Settings.Document

/-!
# Showing and changing settings

The settings file is read before every command, so that one that cannot be read stops all of them, and it is
written as a whole.

`load`, `save` and `makeParent` are `load`, `save` and `ensure_config_dir` of the `ConfigManager`. `run` is `execute`
of the settings commands, with `show_config` for `print`, `init_config` for `create` and `set_value` for `assign`; what
it does to the settings before they are saved, its `apply`, is `Settings.assign`.
-/

set_option autoImplicit false

namespace BuildCredentials.Settings

/-- The settings at a path; without a file, the usual ones. -/
def load (tree : FileTree) (path : String) : Except Error Settings :=
  if !tree.isThere path then .ok {}
  else match tree.read path with
    | .error _ => .error (.io ("reading config from " ++ path))
    | .ok bytes =>
      match Utf8.decode? bytes with
      | none => .error (.io ("reading config from " ++ path))
      | some text =>
        match parse? text with
        | some s => .ok s
        | none => .error (.settingsInvalid path "TOML parse error")

/-- Makes the directory that a file at this path would stand in. -/
def makeParent (tree : FileTree) (path : String) : FileTree × Except Error Unit :=
  match FileTree.parentPath? path with
  | none => (tree, .ok ())
  | some parent =>
    match tree.makeDirectories parent with
    | (made, .ok ()) => (made, .ok ())
    | (made, .error _) => (made, .error (.settingsDirectory parent "cannot be made"))

/-- Writes settings to a path. -/
def save (tree : FileTree) (path : String) (s : Settings) : FileTree × Except Error Unit :=
  match makeParent tree path with
  | (made, .error e) => (made, .error e)
  | (made, .ok ()) =>
    match s.write? with
    | none => (made, .error (.tomlUnwritable "out-of-range value"))
    | some text =>
      match made.write path (Utf8.encode text) with
      | .ok written => (written, .ok ())
      | .error _ => (made, .error (.io ("writing config to " ++ path)))

/-- What can be asked of the settings. -/
inductive Command where
  | print
  | path
  /-- Writes the usual settings. -/
  | create (force : Bool)
  | assign (key value : String)
  deriving DecidableEq, Repr

/-- What a command did: the files after it, and what it wrote to either output. -/
structure Answer where
  tree : FileTree
  out : String := ""
  err : String := ""
  result : Except Error Unit := .ok ()

/-- The list of all keys. -/
def keyList : String :=
  "Valid keys:\n" ++ String.join (Setting.all.map fun setting => "  " ++ setting.key ++ "\n")

/-- The settings after a user types a value for a key. -/
def assign (s : Settings) (key value : String) : Except Error Settings :=
  match Setting.ofKey? key with
  | none => .error (.user ("Unknown config key: " ++ key))
  | some setting =>
    match setting.ofText s value with
    | .ok changed => .ok changed
    | .error refusal => .error (.user (refusal.message value))

/-- Saves settings and says so. -/
def saveAndSay (tree : FileTree) (path : String) (s : Settings) (said : String) : Answer :=
  match save tree path s with
  | (after, .ok ()) => { tree := after, out := said }
  | (after, .error e) => { tree := after, result := .error e }

/-- Runs a command on the settings that are in force. -/
def run (tree : FileTree) (path : String) (s : Settings) : Command → Answer
  | .print =>
    match s.write? with
    | some text => { tree, out := text ++ "\n" }
    | none => { tree, result := .error (.tomlUnwritable "out-of-range value") }
  | .path => { tree, out := path ++ "\n" }
  | .create force =>
    if tree.isThere path && !force then
      { tree, out := "[WARN] Config already exists at " ++ path ++ "\n  Use --force to overwrite\n" }
    else saveAndSay tree path {} ("[OK] Created config at " ++ path ++ "\n")
  | .assign key value =>
    match s.assign key value with
    | .ok changed => saveAndSay tree path changed ("[OK] Set " ++ key ++ " = " ++ value ++ "\n")
    | .error e =>
      { tree, err := if (Setting.ofKey? key).isNone then keyList else "", result := .error e }

/-- Reads the settings at a path and runs a command on them. -/
def loadAndRun (tree : FileTree) (path : String) (command : Command) : Answer :=
  match load tree path with
  | .ok s => run tree path s command
  | .error e => { tree, result := .error e }

end BuildCredentials.Settings
