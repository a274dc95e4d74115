import BuildCredentials.Build.Command
import BuildCredentials.Helper.Program
import BuildCredentials.Shell.Run

/-!
# Engines on the machine of the daemon

The engine runs as a child of the daemon, and with it all programs that it starts. Among them the helper can reach
the daemon, over the socket that the daemon has bound; the daemon sees how far from it the helper's process is.
-/

set_option autoImplicit false

namespace BuildCredentials.Program

open Helper (Variables)
open Shell (daemonPid)

/-- The user and the group that everything runs as. -/
def owner : UInt32 := 1000

/-- The daemon, as its clients see it. -/
def endpoint : Lookup.Endpoint where
  daemon := ⟨owner, owner, UInt32.ofNat daemonPid⟩
  parent pid := if pid ≤ 1 then .error (.parent pid "process has no parent") else .ok (pid - 1)

/-- The connection of a process at some distance from the daemon. -/
def connection (distance : Nat) : Peer.Connection :=
  .unix (.ok ⟨owner, owner, some (UInt32.ofNat (daemonPid + distance))⟩)

/-- What a daemon holds while an engine runs, and what happened to it. -/
structure Daemon where
  store : Store
  events : List Audit.Event := []

/-- The helper, at a path, as a program on the machine of a daemon with this socket. -/
def host (helper socket : String) : Shell.Host Daemon := fun path =>
  if path = helper then
    some fun call files daemon =>
      let reach? (dialled : String) : Option Helper.Reach :=
        if files.leadsTo dialled socket then
          some { endpoint, store := daemon.store, connection := connection call.distance }
        else none
      let did := Helper.call files call.vars reach? call.args call.input
      { files
        outside := { daemon with events := daemon.events ++ did.events }
        output := Utf8.encode did.output
        errors := Utf8.encode did.errors
        status := if did.success then 0 else 1 }
  else none

/-- Whether a text can be handed to a program: none with a zero character can. -/
def isPassable (text : String) : Bool := !text.toList.contains '\x00'

/-- Starts the program of an engine; none if it cannot be started. -/
def start {σ : Type} (host : Shell.Host σ) (files : FileTree) (outside : σ) (vars : Variables)
    (c : Build.Command) (i : Build.Invocation) : Option (Shell.Finished σ) :=
  let environment := i.environment vars
  let texts := c.program :: c.words i ++ environment.map (·.2)
  if texts.all isPassable then Shell.runAlone host files outside environment c.program (c.words i) else none

/-- What the engine sees of how its program ended. -/
def ending : Except (Nat × Nat) Nat → Build.Ending
  | .ok code => .exited code
  | .error (pid, _) => if pid = daemonPid then .interrupted else .signaled

/-- What the daemon sees of a program that has ended. -/
def ran {σ : Type} (f : Shell.Finished σ) : Build.Ran :=
  { output := f.output, errors := f.errors, ending := ending f.ending }

/-- Engines that are programs on a machine with these files. -/
def engine (helper : String) (files : FileTree) (vars : Variables) (c : Build.Command) : Build.Engine :=
  fun i store =>
    let finished? := start (host helper i.socket) files { store } vars c i
    let daemon := (finished?.map (·.outside)).getD { store }
    { store := daemon.store, events := daemon.events, outcome := c.outcome i (finished?.map ran) }

/-- The files that an engine leaves. -/
def filesAfter (helper : String) (files : FileTree) (vars : Variables) (c : Build.Command)
    (i : Build.Invocation) (store : Store) : FileTree :=
  ((start (host helper i.socket) files { store } vars c i).map (·.files)).getD files

end BuildCredentials.Program
