import BuildCredentials.CommandLine.Scan
import BuildCredentials.Settings.Command

/-!
# Commands

What a command line asks for. The path of the settings file and the verbosity may be given at each level: the
deepest level that gives one counts, and for the path the environment, if no level does.
-/

set_option autoImplicit false

namespace BuildCredentials.CommandLine

/-- What a build is asked to do. -/
structure BuildOptions where
  registryFile? : Option String := none
  registryHeader? : Option String := none
  socket? : Option String := none
  engine? : Option String := none
  context : String := "."
  engineArgs : List String := []
  deriving DecidableEq, Repr

/-- What is to be done. -/
inductive Action where
  | build (options : BuildOptions)
  /-- Without a command, the settings are shown. -/
  | settings (command? : Option Settings.Command)
  deriving DecidableEq, Repr

/-- What a command line says. -/
structure Command where
  verbosity : Nat
  settingsPath? : Option String
  action : Action
  deriving DecidableEq, Repr

/-- The action that the deepest level stands for. -/
def Action.ofScan (level : Level) (s : Scan) : Action :=
  match level with
  | .build =>
    .build {
      registryFile? := s.value? .registryFile
      registryHeader? := s.value? .registryHeader
      socket? := s.value? .socket
      engine? := s.value? .engine
      context := (s.value? .context).getD "."
      engineArgs := s.values .engineArgs }
  | .top | .settings => .settings none
  | .print => .settings (some .print)
  | .location => .settings (some .path)
  | .create => .settings (some (.create (s.has .force)))
  | .assign => .settings (some (.assign ((s.value? .key).getD "") ((s.value? .value).getD "")))

/-- The verbosity of the deepest level that gives one. -/
def verbosityOf (levels : List (Level × Scan)) : Nat :=
  ((levels.map fun (_, s) => s.count .verbose).filter (0 < ·)).getLast?.getD 0

/-- The path of the settings file that the deepest level gives. -/
def settingsPathOf (levels : List (Level × Scan)) : Option String :=
  (levels.filterMap fun (_, s) => s.value? .settingsPath).getLast?

/-- Reads the words after the name of the program, with a path that the environment gives. -/
def Command.read (words : List String) (environment? : Option String) : Except Fault Command := do
  let levels ← scan environment? .top {} words
  let (level, deepest) := levels.getLast?.getD (.top, {})
  return {
    verbosity := verbosityOf levels
    settingsPath? := (settingsPathOf levels).or environment?
    action := Action.ofScan level deepest }

end BuildCredentials.CommandLine
