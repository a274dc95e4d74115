import BuildCredentials.Shell.Builtin
import BuildCredentials.Shell.Tool

/-!
# Programs

A program is found by its name or its path. Tools and programs of the host answer at once; a shell reads a script
from its arguments, a file or its input, and runs it in a process that knows nothing but exported variables.

`Program.engine` finds the program of an engine here, and is the only way from a build to scripts and tools.
-/

set_option autoImplicit false

namespace BuildCredentials.Shell

variable {σ : Type}

/-- Where programs are found. -/
def programDirectories : List String := ["/bin/", "/usr/bin/", "/usr/local/bin/"]

/-- The name of a program without the directory it is found in. -/
def programName (path : String) : String :=
  match programDirectories.find? fun d => d.toList.isPrefixOf path.toList with
  | some d => String.ofList (path.toList.drop d.length)
  | none => path

/-- Names of programs that run scripts. -/
def isShell (name : String) : Bool := ["sh", "dash"].contains name

/-- What a name or a path of a program stands for. -/
inductive Program (σ : Type) where
  | shell
  | environment
  | tool (name : String) (run : Tool)
  | host (run : Call → FileTree → σ → Outcome σ)
  /-- It cannot be run, for the reason and with the exit code given. -/
  | unusable (reason : String) (status : Nat)

/-- Finds a program. -/
def Program.find (host : Host σ) (files : FileTree) (path : String) : Program σ :=
  let name := programName path
  match host path with
  | some run => .host run
  | none =>
    if isShell name then .shell
    else if name = "env" ∨ name = "printenv" then .environment
    else match Tool.named? name with
      | some run => .tool name run
      | none =>
        if path.toList.contains '/' ∧ files.isThere path ∨ path = "." ∨ path = ".." then .unusable "Permission denied" 126
        else .unusable "not found" 127

/-- Whether there is a program to start. -/
def Program.isThere : Program σ → Bool
  | .unusable _ _ => false
  | _ => true

/-- Tools that read their whole input if they are given no files. -/
def readsInput (name : String) (args : List String) : Bool :=
  ["cat", "head", "tail", "wc", "tr", "sort", "uniq", "cut", "tee", "grep"].contains name ∧
    (["tr", "cut", "tee"].contains name ∨ (args.filter fun a => a.toList.head? ≠ some '-').length ≤ (if name = "grep" then 1 else 0)
      ∨ args.contains "-")

/-- Starts a tool. -/
def runTool (name : String) (run : Tool) (args : List String) : On σ Flow := do
  let m ← get
  let done := run args m.inputLeft m.files
  modify fun m => { m with files := done.files }
  if readsInput name args then modify (·.leaveInput [])
  modify fun m => (m.write 1 done.output).write 2 done.errors
  Builtin.done done.status

/-- Starts a program of the host. -/
def runHost (run : Call → FileTree → σ → Outcome σ) (args : List String) : On σ Flow := do
  let m ← get
  let call : Call :=
    { args, vars := m.process.exports, input := m.inputLeft, distance := m.process.distance }
  let did := run call m.files m.outside
  modify fun m => { m with files := did.files, outside := did.outside }
  modify fun m => ((m.leaveInput []).write 1 did.output).write 2 did.errors
  Builtin.done did.status

/-- Variables as they are shown. -/
def showVariables (vars : List (String × String)) : List UInt8 :=
  Utf8.encode (String.join (vars.map fun (name, value) => name ++ "=" ++ value ++ "\n"))

/-- Shows variables by name; it fails if one of them is missing. -/
def showNamed (names : List String) : On σ Flow := do
  let exports := (← get).process.exports
  if names = [] then Builtin.say (showVariables exports) 0
  else
    let values := names.filterMap fun name => exports.lookup name
    Builtin.say (Utf8.encode (String.join (values.map (· ++ "\n")))) (if values.length = names.length then 0 else 1)

/-- Changes the variables as the first words say, and answers the words that are left. -/
def changeEnvironment : List String → On σ (List String)
  | [] => return []
  | "-i" :: rest => do
    modify (·.onProcess fun p => { p with vars := [] })
    changeEnvironment rest
  | "-u" :: name :: rest => do
    modify (·.onProcess (·.unset name))
    changeEnvironment rest
  | word :: rest =>
    match Builtin.splitAssignment word with
    | (name, some value) => do
      modify (·.onProcess fun p => (p.assign name value).handOn name)
      changeEnvironment rest
    | (_, none) => return word :: rest

/-! ## Shells -/

/-- How a shell is called: options, the script itself or the path of its file, its name and its arguments. -/
structure Invocation where
  stopsOnFailure : Bool := false
  demandsValues : Bool := false
  /-- Whether the first operand is the script. -/
  inline : Bool := false
  operands : List String := []

/-- Reads how a shell is called. -/
def Invocation.read : List String → Invocation
  | [] => {}
  | arg :: rest =>
    match arg.toList with
    | ['-', '-'] => { operands := rest }
    | '-' :: c :: letters =>
      let more := Invocation.read rest
      { more with
        stopsOnFailure := more.stopsOnFailure || (c :: letters).contains 'e'
        demandsValues := more.demandsValues || (c :: letters).contains 'u'
        inline := more.inline || (c :: letters).contains 'c' }
    | _ => { operands := arg :: rest }

/-- What a call of a shell runs: the script, its name and its arguments. Nothing is read from a directory. -/
def Invocation.script? (i : Invocation) (shell : String) (files : FileTree) (input : List UInt8) :
    Option (String × String × List String) :=
  match i.inline, i.operands with
  | true, [] => none
  | true, [text] => some (text, shell, [])
  | true, text :: name :: args => some (text, name, args)
  | false, [] => some (Utf8.decodeLossy input, shell, [])
  | false, path :: args =>
    match files.read path with
    | .ok bytes => some (Utf8.decodeLossy bytes, path, args)
    | .error .isDirectory => some ("", path, args)
    | .error _ => none

/-- The process of a script that a shell was called for. -/
def startProcess (p : Process) (i : Invocation) (name : String) (args : List String) (workdir : String) :
    Process :=
  let vars := p.exports.map fun (name, value) => (name, ({ value, exported := true } : Variable))
  let own := [
    ("PPID", ({ value := toString (daemonPid + p.distance - 1) } : Variable)), ("PWD", { value := workdir })]
  { name, args, stopsOnFailure := i.stopsOnFailure, demandsValues := i.demandsValues
    vars := own ++ vars.filter fun (name, _) => (own.lookup name).isNone
    pid := daemonPid + p.distance
    distance := p.distance
    sinks := p.sinks
    input := p.input }

/-- The text of the output that a command is replaced by: line ends are cut off at its end. -/
def outputText (bytes : List UInt8) : String :=
  Utf8.decodeLossy (((bytes.filter (· ≠ 0)).reverse.dropWhile (· = 10)).reverse)

end BuildCredentials.Shell
