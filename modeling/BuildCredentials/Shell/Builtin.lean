import BuildCredentials.Shell.Format
import BuildCredentials.Shell.Machine
import BuildCredentials.Shell.Test

/-!
# Commands that act on the script itself

These commands run in the process of the script: they write, test, set variables, leave loops or end the script.
Those that run other commands are part of running a script.

It is there for engines that are scripts, like all of `Shell`.
-/

set_option autoImplicit false

namespace BuildCredentials.Shell.Builtin

variable {σ : Type}

/-- Ends a command with an exit code. -/
def done (status : Nat) : On σ Flow := do
  modify (·.withStatus status)
  return .next

/-- Ends a command with a message and an exit code. -/
def refuse (message : String) (status : Nat) : On σ Flow := do
  modify (·.complain message)
  done status

/-- Ends the script with a message. -/
def abort (message : String) : On σ Flow := do
  modify fun m => (m.complain message).withStatus 2
  return .exit

/-- Leaves with the exit code that an argument gives, or else with the last one. -/
def leaveWith (name : String) (flow : Flow) (args : List String) : On σ Flow := do
  match args with
  | [] => return flow
  | arg :: _ =>
    match arg.toNat? with
    | some n =>
      modify (·.withStatus (n % 256))
      return flow
    | none => abort (name ++ ": Illegal number: " ++ arg)

/-- Leaves as many loops as an argument says. -/
def leaveLoops (flow : Nat → Flow) (args : List String) : On σ Flow := do
  modify (·.withStatus 0)
  return flow (((args.head?.bind String.toNat?).getD 1) - 1)

/-- The name and the value in a text such as "name=value". -/
def splitAssignment (text : String) : String × Option String :=
  let cs := text.toList
  let name := cs.takeWhile (· ≠ '=')
  (String.ofList name, if name.length < cs.length then some (String.ofList (cs.drop (name.length + 1))) else none)

/-- Sets variables, and hands them on if asked to. -/
def assignAll (handsOn : Bool) (args : List String) : On σ Flow := do
  for arg in args do
    let (name, value?) := splitAssignment arg
    if let some value := value? then modify (·.onProcess (·.assign name value))
    if handsOn then modify (·.onProcess (·.handOn name))
  done 0

/-- Sets variables of the running function, which are given back when it ends. -/
def borrow (args : List String) : On σ Flow := do
  for arg in args do
    let (name, value?) := splitAssignment arg
    modify (·.onProcess fun p =>
      let p := { p with borrowed := (name, p.vars.lookup name) :: p.borrowed }
      value?.elim p (p.assign name))
  done 0

/-- Takes or forgets what is run at the end of the script. -/
def trap (args : List String) : On σ Flow := do
  match args with
  | text :: signals =>
    if signals.contains "EXIT" ∨ signals.contains "0" then
      modify (·.onProcess fun p => { p with atExit? := if text = "-" ∨ text = "" then none else some text })
  | [] => pure ()
  done 0

/-- Goes to a directory, or home. -/
def changeDirectory (args : List String) : On σ Flow := do
  let m ← get
  let target := (args.filter (· ≠ "--")).headD ((m.process.value? "HOME").getD "")
  match m.files.enter target with
  | .error _ => refuse ("cd: can't cd to " ++ target) 2
  | .ok files =>
    modify fun m =>
      { m with files }.onProcess fun p =>
        (p.assign "OLDPWD" (m.files.absolutePath m.files.here)).assign "PWD" (files.absolutePath files.here)
    done 0

/-- Waits for commands that run apart; the exit code is that of the command asked for. -/
def wait (args : List String) : On σ Flow := do
  match args with
  | [] => done 0
  | pid :: _ =>
    let p := (← get).process
    done ((if pid = toString jobPid then p.jobStatus? else none).getD 127)

/-- Removes variables or functions. -/
def unset (args : List String) : On σ Flow := do
  let functions := args.head? = some "-f"
  for name in args.filter fun a => a ≠ "-f" && a ≠ "-v" do
    modify (·.onProcess fun p =>
      if functions then { p with functions := p.functions.filter (·.1 ≠ name) } else p.unset name)
  done 0

/-- Turns options of the script on and off and replaces its arguments. -/
def set : List String → On σ Flow
  | [] => done 0
  | "--" :: args => do
    modify (·.onProcess fun p => { p with args })
    done 0
  | arg :: rest =>
    match arg.toList with
    | '-' :: letters => do
      modify (·.onProcess fun p => { p with
        stopsOnFailure := p.stopsOnFailure || letters.contains 'e'
        demandsValues := p.demandsValues || letters.contains 'u' })
      set rest
    | '+' :: letters => do
      modify (·.onProcess fun p => { p with
        stopsOnFailure := p.stopsOnFailure && !letters.contains 'e'
        demandsValues := p.demandsValues && !letters.contains 'u' })
      set rest
    | _ => do
      modify (·.onProcess fun p => { p with args := arg :: rest })
      done 0

/-- Drops arguments of the script. -/
def shift (args : List String) : On σ Flow := do
  let n := (args.head?.bind String.toNat?).getD 1
  let held := (← get).process.args
  if held.length < n then abort "shift: can't shift that many"
  else
    modify (·.onProcess fun p => { p with args := held.drop n })
    done 0

/-- Whether a character separates fields and is skipped in any number. -/
def isBlank (separators : List Char) (c : Char) : Bool := separators.contains c && [' ', '\t', '\n'].contains c

/-- A line spread over names: the last name takes all that is left. -/
def spread (separators : List Char) : List String → List Char → List (String × String)
  | [], _ => []
  | [name], cs =>
    let text := cs.dropWhile (isBlank separators)
    [(name, String.ofList ((text.reverse.dropWhile (isBlank separators)).reverse))]
  | name :: names, cs =>
    let text := cs.dropWhile (isBlank separators)
    let field := text.takeWhile (!separators.contains ·)
    let rest := (text.drop field.length).dropWhile (isBlank separators)
    let rest := match rest with
      | c :: more => if separators.contains c then more else rest
      | [] => []
    (name, String.ofList field) :: spread separators names rest

/-- A line without the backslashes that quote its characters. -/
def unquoteLine : List Char → List Char
  | '\\' :: c :: rest => c :: unquoteLine rest
  | c :: rest => c :: unquoteLine rest
  | [] => []

/-- Reads a line of the input into variables. -/
def read (args : List String) : On σ Flow := do
  let raw := args.contains "-r"
  let names := args.filter (· ≠ "-r")
  let m ← get
  let line := m.inputLeft.takeWhile (· ≠ 10)
  let complete := line.length < m.inputLeft.length
  let text := (Utf8.decodeLossy line).toList
  let separators := ((m.process.value? "IFS").getD " \t\n").toList
  modify (·.leaveInput (m.inputLeft.drop (line.length + 1)))
  for (name, value) in spread separators names (if raw then text else unquoteLine text) do
    modify (·.onProcess (·.assign name value))
  done (if complete then 0 else 1)

/-! ## Signals -/

/-- Signals by name. -/
def signals : List (String × Nat) := [
  ("HUP", 1), ("INT", 2), ("QUIT", 3), ("ILL", 4), ("TRAP", 5), ("ABRT", 6), ("BUS", 7), ("FPE", 8), ("KILL", 9),
  ("USR1", 10), ("SEGV", 11), ("USR2", 12), ("PIPE", 13), ("ALRM", 14), ("TERM", 15), ("CHLD", 17), ("CONT", 18),
  ("URG", 23), ("WINCH", 28), ("EXIT", 0)]

/-- Signals that no process is killed by unless it says so. -/
def harmless : List Nat := [0, 17, 18, 23, 28]

/-- What is said of a process that a signal has killed. -/
def signalText? (n : Nat) : Option String :=
  match n with
  | 1 => some "Hangup"
  | 3 => some "Quit"
  | 4 => some "Illegal instruction"
  | 5 => some "Trace/breakpoint trap"
  | 6 => some "Aborted"
  | 7 => some "Bus error"
  | 8 => some "Floating point exception"
  | 9 => some "Killed"
  | 10 => some "User defined signal 1"
  | 11 => some "Segmentation fault"
  | 12 => some "User defined signal 2"
  | 14 => some "Alarm clock"
  | 15 => some "Terminated"
  | _ => none

/-- The signal of a name, with or without its usual first letters, or of a number. -/
def signalOf? (text : String) : Option Nat :=
  match text.toNat? with
  | some n => if n < 65 then some n else none
  | none =>
    let upper := text.toUpper
    (signals.lookup upper).or
      (if ['S', 'I', 'G'].isPrefixOf upper.toList then signals.lookup (String.ofList (upper.toList.drop 3)) else none)

/-- Sends a signal to a process that is this one or one that it comes from. -/
def signal (n : Nat) (target : String) : On σ Flow := do
  let p := (← get).process
  match target.toNat? with
  | some pid =>
    if pid = jobPid ∧ p.jobStatus?.isSome then
      if !harmless.contains n then modify (·.onProcess fun p => { p with jobStatus? := some (128 + n) })
      done 0
    else if pid < daemonPid ∨ daemonPid + p.distance < pid then refuse "kill: No such process\n" 1
    else if harmless.contains n then done 0
    else
      modify (·.withStatus 0)
      return .killed pid n
  | none => refuse ("kill: Illegal number: " ++ target) 2

/-- Sends a signal to processes, one after the other. -/
def signalAll (n : Nat) : List String → On σ Flow
  | [] => return .next
  | target :: rest => do
    match ← signal n target with
    | .next => signalAll n rest
    | flow => return flow

/-- Sends a signal to processes. -/
def kill (args : List String) : On σ Flow :=
  let named (name : String) (targets : List String) : On σ Flow :=
    match signalOf? name with
    | some n => signalAll n targets
    | none => refuse ("kill: invalid signal number or name: " ++ name) 2
  match args with
  | "-s" :: name :: targets => named name targets
  | "--" :: targets => signalAll 15 targets
  | arg :: targets =>
    match arg.toList with
    | '-' :: name => named (String.ofList name) (if targets.head? = some "--" then targets.drop 1 else targets)
    | _ => signalAll 15 args
  | [] => refuse "kill: usage" 2

/-! ## All of them -/

/-- Writes bytes to the output. -/
def say (bytes : List UInt8) (status : Nat) : On σ Flow := do
  modify (·.write 1 bytes)
  done status

/-- Writes arguments by a format. -/
def printf : List String → On σ Flow
  | [] => refuse "printf: usage: printf format [arg ...]" 2
  | "--" :: format :: args | format :: args => do
    let (bytes, unfit) := Format.print format args
    if let some arg := unfit.head? then modify (·.complain ("printf: " ++ arg ++ ": expected numeric value"))
    say bytes (if unfit = [] then 0 else 1)

/-- Tests a condition, under the name that it is called by. -/
def test (name : String) (args : List String) : On σ Flow := do
  match Test.run (← get).files args with
  | .ok holds => done (if holds then 0 else 1)
  | .error fault => refuse (name ++ ": " ++ fault.message) 2

/-- The commands that act on the script, by name. -/
def named? : String → Option (List String → On σ Flow)
  | ":" | "true" => some fun _ => done 0
  | "false" => some fun _ => done 1
  | "echo" => some fun args => say (Format.echo true args) 0
  | "printf" => some printf
  | "test" => some (test "test")
  | "[" => some fun args => if args.getLast? = some "]" then test "[" args.dropLast else refuse "[: missing ]" 2
  | "pwd" => some fun _ => do
    let files := (← get).files
    say (Utf8.encode (files.absolutePath files.here ++ "\n")) 0
  | "cd" => some changeDirectory
  | "wait" => some wait
  | "exit" => some (leaveWith "exit" .exit)
  | "return" => some (leaveWith "return" .returned)
  | "break" => some (leaveLoops .leave)
  | "continue" => some (leaveLoops .again)
  | "export" => some (assignAll true)
  | "readonly" => some (assignAll false)
  | "local" => some borrow
  | "trap" => some trap
  | "unset" => some unset
  | "set" => some set
  | "shift" => some shift
  | "read" => some read
  | "kill" => some kill
  | "umask" | "times" | "hash" | "ulimit" => some fun _ => done 0
  | _ => none

/-- Names whose assignments stay in the script. -/
def isSpecial (name : String) : Bool :=
  [":", "break", "continue", "eval", "exec", "exit", "export", "readonly", "return", "set", "shift", "times", "trap",
    "unset", "."].contains name

end BuildCredentials.Shell.Builtin
