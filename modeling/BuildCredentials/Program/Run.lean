import BuildCredentials.Audit.Log
import BuildCredentials.CommandLine.Command
import BuildCredentials.Lookup.Socket
import BuildCredentials.Program.Engine

/-!
# The whole program

One run reads the words of a command line, then the settings, and then does what the words ask for: it shows or
changes the settings, or it runs a build with a socket that helpers find their credentials at. The socket is gone
when the run ends, however it ends.
-/

set_option autoImplicit false

namespace BuildCredentials.Program

open CommandLine (BuildOptions)
open Helper (Variables)

/-- What a run starts from. -/
structure Start where
  files : FileTree
  vars : Variables
  /-- The words after the name of the program. -/
  words : List String
  /-- The path of the helper. -/
  helper : String
  /-- The identifier of the build. -/
  fresh : BuildId
  /-- The time that entries of the log get. -/
  time : String

/-- Why a run fails. -/
inductive Failure where
  | usage (fault : CommandLine.Fault)
  | error (e : Error)
  deriving Repr

/-- What a run leaves. -/
structure Finish where
  files : FileTree
  output : String := ""
  errors : String := ""
  result : Except Failure Unit

/-! ## Builds -/

/-- Makes the directory of what is kept between builds. -/
def makeStateDirectory (files : FileTree) (vars : Variables) : FileTree × Except Error Unit :=
  let path := Settings.stateDirectory files vars
  let (files, made) := files.makeDirectories path
  (files, made.mapError fun _ => .io ("creating directory " ++ path))

/-- The credentials that the options give; a file is only read if there is no header. -/
def registryAuth (files : FileTree) (o : BuildOptions) : Except Error (Option Build.RegistryAuth) :=
  match o.registryHeader?, o.registryFile? with
  | some header, _ => .ok (some (.header header))
  | none, some path =>
    match files.read path with
    | .ok bytes => .ok (some (.json bytes))
    | .error _ => .error (.io ("reading registry config " ++ path))
  | none, none => .ok none

/-- The engine that options and settings name. -/
def engineCommand (settings : Settings) (o : BuildOptions) : Build.Command :=
  { program := o.engine?.getD settings.engine, args := settings.engineArgs }

/-- Runs a build whose socket is bound. -/
def buildOver (s : Start) (settings : Settings) (o : BuildOptions) (socket : String) (files : FileTree)
    (auth? : Option Build.RegistryAuth) : FileTree × Except Error Unit :=
  let command := engineCommand settings o
  let request : Build.Request := { context := o.context, args := o.engineArgs }
  let report := Build.run (engine s.helper files s.vars command) socket (.ok s.fresh) ∅ auth? request
  let left := report.started.foldl
    (fun files (invocation, store) => filesAfter s.helper files s.vars command invocation store) files
  let log : Audit.Log := { enabled := settings.auditLog, path := Settings.auditPath left s.vars }
  let logged := log.recordAll s.time left (report.events.map (·.entry))
  ((Lookup.Socket.close logged socket).1, report.result)

/-- Runs a build. -/
def build (s : Start) (settings : Settings) (o : BuildOptions) : FileTree × Except Error Unit :=
  match makeStateDirectory s.files s.vars with
  | (files, .error e) => (files, .error e)
  | (files, .ok ()) =>
    match registryAuth files o with
    | .error e => (files, .error e)
    | .ok auth? =>
      let socket := o.socket?.getD settings.socketPath
      match Lookup.Socket.bind files socket settings.socketMode.toNat with
      | (files, .error e) => (files, .error e)
      | (files, .ok ()) => buildOver s settings o socket files auth?

/-! ## Runs -/

/-- What is written to the error output at the end of a run. A failing engine has said enough itself. -/
def complaint : Except Failure Unit → String
  | .error (.error (.buildFailed _)) => ""
  | .error (.error e) =>
    "Error: " ++ e.message ++ "\n" ++ (e.hint?.elim "" fun hint => "Hint: " ++ hint ++ "\n")
  | _ => ""

/-- The exit code of a run. -/
def exitCode : Except Failure Unit → Nat
  | .ok () => 0
  | .error (.usage fault) => fault.exitCode
  | .error (.error (.buildFailed code)) => if 0 ≤ code ∧ code < 256 then code.toNat else 1
  | .error (.error _) => 1

/-- What is written for a command line that asks for nothing to be done. -/
def usageOutput : CommandLine.Fault → String
  | .versionAsked level => CommandLine.versionText level
  | _ => ""

/-- Does what a command line asks for. -/
def act (s : Start) (c : CommandLine.Command) (path : String) (settings : Settings) : Finish :=
  match c.action with
  | .settings command? =>
    let answer := Settings.run s.files path settings (command?.getD .print)
    { files := answer.tree, output := answer.out, errors := answer.err
      result := answer.result.mapError .error }
  | .build o =>
    let (files, result) := build s settings o
    { files, result := result.mapError .error }

/-- Runs the program. -/
def run (s : Start) : Finish :=
  match CommandLine.Command.read s.words (s.vars.lookup Settings.pathVariable) with
  | .error fault => { files := s.files, output := usageOutput fault, result := .error (.usage fault) }
  | .ok c =>
    let path := c.settingsPath?.getD (Settings.usualPath s.files s.vars)
    match Settings.load s.files path with
    | .error e => { files := s.files, result := .error (.error e) }
    | .ok settings => act s c path settings

end BuildCredentials.Program
