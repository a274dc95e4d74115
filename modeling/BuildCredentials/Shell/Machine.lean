import BuildCredentials.Bytes.Utf8
import BuildCredentials.FileTree
import BuildCredentials.Shell.Syntax

/-!
# Machines that run scripts

A machine has files, something outside that other programs act on, and one running process. Processes are
numbered by how far they are from the daemon, whose child has distance one: that is all that can be seen of
process numbers, since no two processes of one distance are alive and tell each other apart.

The machine is there for engines that are run to their end (`Program.engine`). What is said of builds is said of any
`Build.Engine`, whatever it does with its store and its files.
-/

set_option autoImplicit false

namespace BuildCredentials.Shell

/-- Where output goes. -/
inductive Sink where
  /-- To a buffer that is read later. -/
  | buffer (index : Nat)
  | file (path : String)
  | nowhere
  deriving DecidableEq, Repr

/-- The number of the daemon's process; a process further on has a number higher by its distance. -/
def daemonPid : Nat := 1000

/-- The number of a command that runs apart from the script. -/
def jobPid : Nat := 30000

/-- A variable. -/
structure Variable where
  value : String
  /-- Whether programs that are started get it. -/
  exported : Bool := false
  deriving DecidableEq, Repr

/-- A process that runs a script. -/
structure Process where
  name : String := "sh"
  args : List String := []
  vars : List (String × Variable) := []
  functions : List (String × Command) := []
  /-- The exit code of the last command. -/
  status : Nat := 0
  /-- The number that the script knows itself by. -/
  pid : Nat
  /-- How far the process is from the daemon. -/
  distance : Nat
  sinks : List (Nat × Sink)
  /-- Which input is read. -/
  input : Nat
  /-- Whether a failing command ends the script. -/
  stopsOnFailure : Bool := false
  /-- Whether a parameter without a value is a fault. -/
  demandsValues : Bool := false
  /-- The exit code of the last command that runs apart from the script. -/
  jobStatus? : Option Nat := none
  /-- The exit code of the command whose output was taken last. -/
  outputStatus : Nat := 0
  /-- The variables that the running function gives back when it ends, as they were. -/
  borrowed : List (String × Option Variable) := []
  /-- What is run at the end of the script. -/
  atExit? : Option String := none

/-- A machine on which a script runs. -/
structure Machine (σ : Type) where
  files : FileTree
  outside : σ
  buffers : Array (Array UInt8)
  inputs : Array (List UInt8)
  process : Process
  /-- A process that was killed while output was awaited, and the signal. -/
  killed? : Option (Nat × Nat) := none

/-- How a command leaves the commands after it. -/
inductive Flow where
  | next
  | exit
  | returned
  /-- Leaves the loop and so many loops around it. -/
  | leave (loops : Nat)
  /-- Leaves so many loops and goes on with the next turn of the loop around them. -/
  | again (loops : Nat)
  /-- A process was killed by a signal. -/
  | killed (pid signal : Nat)
  deriving DecidableEq, Repr

/-- A program that is started. -/
structure Call where
  args : List String
  vars : List (String × String)
  input : List UInt8
  /-- How far its process is from the daemon. -/
  distance : Nat

/-- What a program did. -/
structure Outcome (σ : Type) where
  files : FileTree
  outside : σ
  output : List UInt8 := []
  errors : List UInt8 := []
  status : Nat := 0

/-- The programs of a machine beside the usual ones, by name. -/
abbrev Host (σ : Type) := String → Option (Call → FileTree → σ → Outcome σ)

/-- Steps on a machine. -/
abbrev On (σ : Type) := StateM (Machine σ)

namespace Process

/-- The value of a variable. -/
def value? (p : Process) (name : String) : Option String := (p.vars.lookup name).map (·.value)

/-- Sets a variable. -/
def assign (p : Process) (name value : String) : Process :=
  let exported := ((p.vars.lookup name).map (·.exported)).getD false
  { p with vars := (name, ⟨value, exported⟩) :: p.vars.filter (·.1 ≠ name) }

/-- Hands a variable on to programs that are started. -/
def handOn (p : Process) (name : String) : Process :=
  let value := (p.value? name).getD ""
  { p with vars := (name, ⟨value, true⟩) :: p.vars.filter (·.1 ≠ name) }

/-- Makes a variable as it was. -/
def restore (p : Process) (name : String) (old? : Option Variable) : Process :=
  { p with vars := (old?.map (name, ·)).toList ++ p.vars.filter (·.1 ≠ name) }

/-- Removes a variable. -/
def unset (p : Process) (name : String) : Process := { p with vars := p.vars.filter (·.1 ≠ name) }

/-- The variables that programs get. -/
def exports (p : Process) : List (String × String) :=
  p.vars.filterMap fun (name, v) => if v.exported then some (name, v.value) else none

/-- Where a descriptor leads. -/
def sink (p : Process) (descriptor : Nat) : Sink := (p.sinks.lookup descriptor).getD .nowhere

/-- Leads a descriptor somewhere. -/
def redirect (p : Process) (descriptor : Nat) (sink : Sink) : Process :=
  { p with sinks := (descriptor, sink) :: p.sinks.filter (·.1 ≠ descriptor) }

/-- The value of a parameter that is no list. -/
def parameter? (p : Process) (name : String) : Option String :=
  match name with
  | "#" => some (toString p.args.length)
  | "?" => some (toString p.status)
  | "$" => some (toString p.pid)
  | "-" => some ""
  | "!" => p.jobStatus?.map fun _ => toString jobPid
  | "0" => some p.name
  | _ =>
    match name.toNat? with
    | some n => p.args[n - 1]?
    | none => p.value? name

end Process

namespace Machine

variable {σ : Type}

/-- Changes the process. -/
def onProcess (m : Machine σ) (change : Process → Process) : Machine σ := { m with process := change m.process }

/-- Writes bytes to where a sink leads; what cannot be written is lost. -/
def put (m : Machine σ) (sink : Sink) (bytes : List UInt8) : Machine σ :=
  match sink with
  | .nowhere => m
  | .buffer i => { m with buffers := m.buffers.modify i (· ++ bytes.toArray) }
  | .file path =>
    match m.files.append path bytes with
    | .ok files => { m with files }
    | .error _ => m

/-- Writes bytes to a descriptor. -/
def write (m : Machine σ) (descriptor : Nat) (bytes : List UInt8) : Machine σ :=
  m.put (m.process.sink descriptor) bytes

/-- Writes a message that the script itself is the origin of. -/
def complain (m : Machine σ) (message : String) : Machine σ :=
  m.write 2 (Utf8.encode (m.process.name ++ ": 1: " ++ message ++ "\n"))

/-- A new buffer and its index. -/
def newBuffer (m : Machine σ) : Nat × Machine σ := (m.buffers.size, { m with buffers := m.buffers.push #[] })

/-- What is in a buffer. -/
def content (m : Machine σ) (buffer : Nat) : List UInt8 := ((m.buffers[buffer]?).getD #[]).toList

/-- A new input and its index. -/
def newInput (m : Machine σ) (bytes : List UInt8) : Nat × Machine σ :=
  (m.inputs.size, { m with inputs := m.inputs.push bytes })

/-- What is left of the input of the process. -/
def inputLeft (m : Machine σ) : List UInt8 := (m.inputs[m.process.input]?).getD []

/-- Leaves bytes of the input of the process. -/
def leaveInput (m : Machine σ) (bytes : List UInt8) : Machine σ :=
  { m with inputs := m.inputs.setIfInBounds m.process.input bytes }

/-- Reads whatever a file holds; nothing is in the place that swallows all output. -/
def openInput (m : Machine σ) (path : String) : Option (Machine σ) :=
  let bytes? := if path = "/dev/null" then some [] else (m.files.read path).toOption
  bytes?.map fun bytes =>
    let (input, m) := m.newInput bytes
    m.onProcess fun p => { p with input }

/-- Where output to a path goes; the file is made, and made empty unless it is added to. -/
def openOutput (m : Machine σ) (path : String) (adding : Bool) : Option (Sink × Machine σ) :=
  if path = "/dev/null" then some (.nowhere, m)
  else if path = "/dev/stdout" then some (m.process.sink 1, m)
  else if path = "/dev/stderr" then some (m.process.sink 2, m)
  else do
    let files ← (if adding then m.files.append path [] else m.files.write path []).toOption
    let place ← (files.locate path).toOption
    return (.file (files.absolutePath place), { m with files })

/-- Sets the exit code of the last command. -/
def withStatus (m : Machine σ) (status : Nat) : Machine σ := m.onProcess fun p => { p with status }

end Machine

end BuildCredentials.Shell
