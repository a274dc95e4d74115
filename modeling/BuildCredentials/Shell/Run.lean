import BuildCredentials.Shell.Process
import BuildCredentials.Shell.Program
import BuildCredentials.Shell.Reader

/-!
# Running scripts

The parts of a pipeline, commands in parentheses, commands whose output is taken, and programs run in child
processes. The last command of a process needs no child of its own, and so a program that is started there is one
step nearer to the daemon.

This is what an engine comes to that is a script (`Program.engine`); statements about builds are about any
`Build.Engine` and do not look inside.
-/

set_option autoImplicit false

namespace BuildCredentials.Shell

variable {σ : Type}

mutual

/-- Runs a command. -/
def run (host : Host σ) : Nat → Place → Command → On σ Flow
  | 0, _, _ => giveUp
  | fuel + 1, place, command =>
    let output := runForOutput host fuel
    let inner (redirections : List Redirection) : Place :=
      if redirections.isEmpty then place else { place with last := false }
    match command with
    | .nothing => return .next
    | .simple assignments words redirections => do
      settle place (← runSimple host fuel place assignments words redirections)
    | .pipeline negated commands => do
      let tested := place.tested || negated
      let flow ← runPipeline host fuel { place with tested } commands none
      if negated then
        modify fun m => m.withStatus (if m.process.status = 0 then 1 else 0)
      settle { place with tested } flow
    | .both first second => do
      let flow ← run host fuel { last := false, tested := true } first
      if flow = .next ∧ (← get).process.status = 0 then run host fuel place second else return flow
    | .either first second => do
      let flow ← run host fuel { last := false, tested := true } first
      if flow = .next ∧ (← get).process.status ≠ 0 then run host fuel place second else return flow
    | .sequence first second => do
      match ← run host fuel { place with last := false } first with
      | .next => run host fuel place second
      | flow => return flow
    | .apart command => do
      let flow ← inChild do
        modify fun m =>
          let (input, m) := m.newInput []
          m.onProcess fun p => { p with input }
        run host fuel { last := true } command
      modify (·.onProcess fun p => { p with jobStatus? := some p.status, status := 0 })
      return flow
    | .subshell body redirections => do
      let flow ← inPlaceOrChild (place.last && redirections.isEmpty)
        (redirected output fuel redirections do
          finish host fuel (← run host fuel { place with last := true } body))
      settle place flow
    | .group body redirections => redirected output fuel redirections (run host fuel (inner redirections) body)
    | .conditional test body otherwise redirections =>
      redirected output fuel redirections do
        let flow ← run host fuel { last := false, tested := true } test
        if flow ≠ .next then return flow
        if (← get).process.status = 0 then run host fuel (inner redirections) body
        else
          modify (·.withStatus 0)
          run host fuel (inner redirections) otherwise
    | .loop untilTrue test body redirections =>
      redirected output fuel redirections (runLoop host fuel { place with last := false } untilTrue test body 0)
    | .each name words body redirections =>
      redirected output fuel redirections do
        let values? ← match words with
          | some words => expandWords output fuel words
          | none => pure (some (← get).process.args)
        match values? with
        | none => giveUp
        | some values =>
          modify (·.withStatus 0)
          runEach host fuel { place with last := false } name values body
    | .choose word branches redirections =>
      redirected output fuel redirections do
        match ← expandText output fuel word with
        | none => giveUp
        | some text => runChoice host fuel (inner redirections) text.toList branches
    | .define name body => do
      modify (·.onProcess fun p => { p with functions := (name, body) :: p.functions.filter (·.1 ≠ name) })
      Builtin.done 0

/-- The output of a command that runs in a child process; none if that process or one before it was killed. -/
def runForOutput (host : Host σ) : Nat → Command → On σ (Option String)
  | 0, _ => return none
  | fuel + 1, command => do
    let before := (← get).process.status
    let (buffer, m) := (← get).newBuffer
    set m
    let flow ← inChild do
      modify (·.onProcess (·.redirect 1 (.buffer buffer)))
      run host fuel { last := true } command
    modify (·.onProcess fun p => { p with outputStatus := p.status, status := before })
    match flow with
    | .killed pid signal =>
      modify fun m => { m with killed? := some (pid, signal) }
      return none
    | _ => return some (outputText ((← get).content buffer))

/-- Runs the commands of a pipeline, each with the output of the one before it as its input. -/
def runPipeline (host : Host σ) : Nat → Place → List Command → Option (List UInt8) → On σ Flow
  | 0, _, _, _ => giveUp
  | _, _, [], _ => return .next
  | fuel + 1, place, command :: rest, bytes? => do
    let (buffer, m) := (← get).newBuffer
    set m
    let flow ← inChild do
      if let some bytes := bytes? then
        modify fun m =>
          let (input, m) := m.newInput bytes
          m.onProcess fun p => { p with input }
      if !rest.isEmpty then modify (·.onProcess (·.redirect 1 (.buffer buffer)))
      run host fuel { place with last := true } command
    if flow ≠ .next ∨ rest.isEmpty then return flow
    runPipeline host fuel place rest (some ((← get).content buffer))

/-- Runs a body as long as a test asks for it. The exit code is the body's last one. -/
def runLoop (host : Host σ) : Nat → Place → Bool → Command → Command → Nat → On σ Flow
  | 0, _, _, _, _, _ => giveUp
  | fuel + 1, place, untilTrue, test, body, status => do
    let flow ← run host fuel { place with tested := true } test
    if flow ≠ .next then leaveLoop flow
    else if ((← get).process.status = 0) = untilTrue then Builtin.done status
    else
      match ← run host fuel place body with
      | .next | .again 0 => runLoop host fuel place untilTrue test body (← get).process.status
      | flow => leaveLoop flow

/-- Runs a body for each of some values. -/
def runEach (host : Host σ) : Nat → Place → String → List String → Command → On σ Flow
  | 0, _, _, _, _ => giveUp
  | _, _, _, [], _ => return .next
  | fuel + 1, place, name, value :: rest, body => do
    modify (·.onProcess (·.assign name value))
    match ← run host fuel place body with
    | .next | .again 0 => runEach host fuel place name rest body
    | flow => leaveLoop flow

/-- How a loop is left by what its body does. -/
def leaveLoop : Flow → On σ Flow
  | .leave 0 => return .next
  | .leave (loops + 1) => return .leave loops
  | .again (loops + 1) => return .again loops
  | flow => return flow

/-- Runs the first branch with a pattern that matches. -/
def runChoice (host : Host σ) : Nat → Place → List Char → List (List Word × Command) → On σ Flow
  | 0, _, _, _ => giveUp
  | _, _, _, [] => Builtin.done 0
  | fuel + 1, place, text, (patterns, body) :: rest => do
    match ← matchesOne (runForOutput host fuel) fuel text patterns with
    | none => giveUp
    | some true =>
      modify (·.withStatus 0)
      run host fuel place body
    | some false => runChoice host fuel place text rest

/-- Runs a command of assignments and words. -/
def runSimple (host : Host σ) : Nat → Place → List (String × Word) → List Word → List Redirection → On σ Flow
  | 0, _, _, _, _ => giveUp
  | fuel + 1, place, assignments, words, redirections => do
    let output := runForOutput host fuel
    modify (·.onProcess fun p => { p with outputStatus := 0 })
    let some texts ← expandWords output fuel words | giveUp
    let some values ← expandAssignments output fuel assignments | giveUp
    match texts with
    | [] =>
      redirected output fuel redirections do
        for (name, value) in values do
          modify (·.onProcess (·.assign name value))
        Builtin.done (← get).process.outputStatus
    | ["exec"] =>
      if ← redirectAll output fuel redirections then Builtin.done 0 else giveUp
    | name :: args =>
      redirected output fuel redirections do
        if Builtin.isSpecial name then
          for (name, value) in values do
            modify (·.onProcess (·.assign name value))
          runNamed host fuel place true name args
        else withVariables values (runNamed host fuel place true name args)

/-- Runs a function, a command that acts on the script, or a program. -/
def runNamed (host : Host σ) : Nat → Place → Bool → String → List String → On σ Flow
  | 0, _, _, _, _ => giveUp
  | fuel + 1, place, functions, name, args => do
    let p := (← get).process
    match if functions then p.functions.lookup name else none with
    | some body =>
      modify (·.onProcess fun p => { p with args, borrowed := [] })
      let flow ← run host fuel { place with last := false } body
      modify (·.onProcess fun q =>
        { q.borrowed.foldl (fun q (name, old?) => q.restore name old?) q with
          args := p.args, borrowed := p.borrowed })
      match flow with
      | .returned | .leave _ | .again _ => return .next
      | _ => return flow
    | none =>
      match name, args with
      | "eval", _ => runText host fuel place (" ".intercalate args)
      | ".", path :: _ =>
        match (← get).files.read path with
        | .ok bytes =>
          match ← runText host fuel { place with last := false } (Utf8.decodeLossy bytes) with
          | .returned => return .next
          | flow => return flow
        | .error _ => Builtin.abort (".: cannot open " ++ path ++ ": No such file")
      | "exec", name :: args => runProgram host fuel true "exec" name args
      | "command", "-v" :: name :: _ =>
        let known := (Builtin.named? (σ := σ) name).isSome || (p.functions.lookup name).isSome
        let found := known || (Program.find host (← get).files name).isThere
        let shown := if known || name.toList.contains '/' then name else "/usr/bin/" ++ name
        if found then Builtin.say (Utf8.encode (shown ++ "\n")) 0 else Builtin.done 127
      | "command", name :: args => runNamed host fuel place false name args
      | _, _ =>
        match Builtin.named? name with
        | some act => act args
        | none => runProgram host fuel (place.last && p.atExit?.isNone) "" name args

/-- Runs the text of a script in this process. -/
def runText (host : Host σ) : Nat → Place → String → On σ Flow
  | 0, _, _ => giveUp
  | fuel + 1, place, text => do
    match readScript text with
    | some .nothing => Builtin.done 0
    | some command => run host fuel place command
    | none => Builtin.abort "Syntax error"

/-- Starts a program, in place of the rest of the process or in a child process; `asker` is named if it fails. -/
def runProgram (host : Host σ) : Nat → Bool → String → String → List String → On σ Flow
  | 0, _, _, _, _ => giveUp
  | fuel + 1, inPlace, asker, name, args => do
    match Program.find host (← get).files name with
    | .unusable reason status =>
      if asker = "env" then
        let reason := if status = 127 then "No such file or directory" else reason
        modify (·.write 2 (Utf8.encode ("env: '" ++ name ++ "': " ++ reason ++ "\n")))
      else modify (·.complain ((if asker = "" then "" else asker ++ ": ") ++ name ++ ": " ++ reason))
      modify (·.withStatus status)
      return if inPlace then .exit else .next
    | .tool name tool => inPlaceOrChild inPlace (runTool name tool args)
    | .host program => inPlaceOrChild inPlace (runHost program args)
    | .environment => inPlaceOrChild inPlace do
      if programName name = "printenv" then showNamed args
      else
        match ← changeEnvironment args with
        | [] => Builtin.say (showVariables (← get).process.exports) 0
        | name :: args => runProgram host fuel true "env" name args
    | .shell => inPlaceOrChild inPlace do
      let invocation := Invocation.read args
      let m ← get
      match invocation.script? name m.files m.inputLeft with
      | none =>
        let path := invocation.operands.headD ""
        modify (·.write 2 (Utf8.encode (name ++ ": 0: cannot open " ++ path ++ ": No such file\n")))
        Builtin.done 2
      | some (text, name, args) =>
        if !invocation.inline && invocation.operands.isEmpty then modify (·.leaveInput [])
        modify (·.onProcess fun p => startProcess p invocation name args m.files.workdir)
        finish host fuel (← runText host fuel { last := true } text)

/-- Runs what a script has left to be run at its end. -/
def finish (host : Host σ) : Nat → Flow → On σ Flow
  | 0, _ => giveUp
  | fuel + 1, flow => do
    let p := (← get).process
    match flow, p.atExit? with
    | .killed _ _, _ | _, none => return flow
    | _, some ending =>
      let flow ← runText host fuel {} ending
      if flow = .next then modify (·.withStatus p.status)
      return flow

end

/-- More steps than any script that comes to an end takes. -/
def steps : Nat := 1000000

/-- What a program left behind that was started as the child of the daemon. -/
structure Finished (σ : Type) where
  files : FileTree
  outside : σ
  output : List UInt8
  errors : List UInt8
  /-- How it ended: with an exit code, or with a signal to it or to the daemon. -/
  ending : Except (Nat × Nat) Nat

/-- Runs a program as the child of the daemon, without input; none if there is no such program. -/
def runAlone (host : Host σ) (files : FileTree) (outside : σ) (vars : List (String × String))
    (program : String) (args : List String) : Option (Finished σ) :=
  if !(Program.find host files program).isThere then none
  else
    let process : Process := {
      vars := vars.map fun (name, value) => (name, { value, exported := true })
      pid := daemonPid + 1
      distance := 1
      sinks := [(1, .buffer 0), (2, .buffer 1)]
      input := 0 }
    let machine : Machine σ := { files, outside, buffers := #[#[], #[]], inputs := #[[]], process }
    let (flow, m) := (runProgram host steps true "" program args).run machine
    some {
      files := { m.files with here := files.here }
      outside := m.outside
      output := m.content 0
      errors := m.content 1
      ending := match flow with
        | .killed pid signal => .error (pid, signal)
        | _ => .ok m.process.status }

end BuildCredentials.Shell
