import BuildCredentials.Shell.Builtin
import BuildCredentials.Shell.Expansion

/-!
# Processes of a script

A command runs in the process of the script, or in a child process of its own. A process ends with its last
command, when it is killed, or when it cannot go on. Redirections and variables that are meant for one command
are taken back after it.

Engines that are scripts are run by processes of this kind; no statement is about them.
-/

set_option autoImplicit false

namespace BuildCredentials.Shell

variable {σ : Type}

/-- Where a command stands in its script. -/
structure Place where
  /-- Nothing follows the command in its process. -/
  last : Bool := false
  /-- Something depends on whether the command fails, so that its failure ends no script. -/
  tested : Bool := false

/-! ## Processes -/

/-- What becomes of a process whose last command has this flow, seen by the process that waits for it. -/
def awaitChild (flow : Flow) (child : Process) : On σ Flow := do
  match flow with
  | .killed pid signal =>
    if pid = daemonPid + child.distance then
      modify fun m => { m.withStatus (128 + signal) with killed? := none }
      if let some text := Builtin.signalText? signal then modify (·.write 2 (Utf8.encode (text ++ "\n")))
      return .next
    else return flow
  | _ => return .next

/-- Runs steps in a child process: of what they do to the process, the exit code alone remains. -/
def inChild (steps : On σ Flow) : On σ Flow := do
  let parent := (← get).process
  let here := (← get).files.here
  modify (·.onProcess fun p => { p with distance := p.distance + 1, atExit? := none })
  let flow ← steps
  let child := (← get).process
  modify fun m => { m with
    process := { parent with status := child.status }
    files := { m.files with here } }
  awaitChild flow child

/-- Runs steps in place of the rest of the process, or in a child process. -/
def inPlaceOrChild (inPlace : Bool) (steps : On σ Flow) : On σ Flow := do
  if !inPlace then inChild steps
  else match ← steps with
    | .killed pid signal => return .killed pid signal
    | _ => return .exit

/-- Ends a script that cannot go on, or passes on that a process was killed. -/
def giveUp : On σ Flow := do
  match (← get).killed? with
  | some (pid, signal) => return .killed pid signal
  | none =>
    modify (·.withStatus 2)
    return .exit

/-- Ends the script after a failure that nothing depends on, if it asked for that. -/
def settle (place : Place) (flow : Flow) : On σ Flow := do
  let p := (← get).process
  return if flow = .next ∧ p.status ≠ 0 ∧ p.stopsOnFailure ∧ !place.tested then .exit else flow

/-! ## Redirections -/

section

variable (output : Command → On σ (Option String))

/-- Makes a descriptor lead elsewhere; false after a fault, which has been reported. -/
def redirect (fuel : Nat) : Redirection → On σ Bool
  | .mk descriptor direction target => do
    match ← expandText output fuel target with
    | none => return false
    | some path =>
      let m ← get
      let writing (adding : Bool) : On σ Bool := do
        match m.openOutput path adding with
        | some (sink, m) =>
          set (m.onProcess (·.redirect descriptor sink))
          return true
        | none =>
          modify (·.complain ("cannot create " ++ path ++ ": Directory nonexistent"))
          return false
      match direction with
      | .write => writing false
      | .append => writing true
      | .read =>
        match m.openInput path with
        | some m =>
          set m
          return true
        | none =>
          modify (·.complain ("cannot open " ++ path ++ ": No such file"))
          return false
      | .copy =>
        let sink := if path = "-" then .nowhere else m.process.sink (path.toNat?.getD 1)
        modify (·.onProcess (·.redirect descriptor sink))
        return true

/-- Makes descriptors lead elsewhere, in order, up to a fault. -/
def redirectAll (fuel : Nat) : List Redirection → On σ Bool
  | [] => return true
  | r :: rest => do if ← redirect output fuel r then redirectAll fuel rest else return false

/-- Runs steps with redirections, after which all descriptors lead where they led. -/
def redirected (fuel : Nat) (redirections : List Redirection) (steps : On σ Flow) : On σ Flow := do
  let before := (← get).process
  let flow ← if ← redirectAll output fuel redirections then steps else Builtin.done 2
  modify (·.onProcess fun p => { p with sinks := before.sinks, input := before.input })
  return flow

/-- The values of assignments. -/
def expandAssignments (fuel : Nat) : List (String × Word) → On σ (Option (List (String × String)))
  | [] => return some []
  | (name, word) :: rest => do
    match ← expandText output fuel word with
    | none => return none
    | some value => return (← expandAssignments fuel rest).map ((name, value) :: ·)

/-- Whether one of some patterns matches a text. -/
def matchesOne (fuel : Nat) (text : List Char) : List Word → On σ (Option Bool)
  | [] => return some false
  | word :: rest => do
    match ← expandField output fuel word with
    | none => return none
    | some field => if (Pattern.ofChars field).accepts text then return some true else matchesOne fuel text rest

end

/-- Runs steps with variables that are handed on to programs, and gives the variables back their values. -/
def withVariables (values : List (String × String)) (steps : On σ Flow) : On σ Flow := do
  let before := (← get).process
  for (name, value) in values do
    modify (·.onProcess fun p => (p.assign name value).handOn name)
  let flow ← steps
  let kept := before.vars.filter fun (name, _) => (values.lookup name).isSome
  modify (·.onProcess fun p =>
    { p with vars := kept ++ p.vars.filter fun (name, _) => (values.lookup name).isNone })
  return flow

end BuildCredentials.Shell
