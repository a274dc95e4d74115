import BuildCredentials.Helper.Lookup
import BuildCredentials.Settings.Command
import BuildCredentials.Settings.Places

/-!
# The helper as a program

The helper reads from its environment which build it works for, where the daemon is and where the settings are;
settings that cannot be read count as the usual ones. The first argument is the action.
-/

set_option autoImplicit false

namespace BuildCredentials.Helper

/-- A daemon that can be reached, and the connection to it. -/
structure Reach where
  endpoint : Lookup.Endpoint
  store : Store
  connection : Peer.Connection

/-- What a call of the helper did. -/
structure Call where
  output : String := ""
  errors : String := ""
  success : Bool
  events : List Audit.Event := []

/-- What is said to a call without an action. -/
def usage : String := "Usage: docker-credential-finch <get|store|erase|list|version>\n"

/-- The path of the settings that the helper reads. -/
def settingsPath (files : FileTree) (vars : Variables) : String :=
  (vars.lookup Settings.pathVariable).getD (Settings.usualPath files vars)

/-- How the helper asks. -/
def client (files : FileTree) (vars : Variables) : Lookup.Client :=
  let settings := match Settings.load files (settingsPath files vars) with
    | .ok settings => settings
    | .error _ => {}
  { socket := (Environment.ofVariables vars).socket, timeoutMillis := 1000 * settings.dialSeconds.toNat }

/-- Runs the helper, with the daemon that its socket leads to, if any does. -/
def call (files : FileTree) (vars : Variables) (reach? : String → Option Reach) (args : List String)
    (input : List UInt8) : Call :=
  match args with
  | [] => { errors := usage, success := false }
  | action :: _ =>
    let build? := (Environment.ofVariables vars).build?
    let client := client files vars
    let unanswered (reply : Lookup.Reply) : Call :=
      let outcome := runAsking build? (client.fetch · reply) action input
      { output := outcome.output, success := outcome.success }
    match reach? client.socket with
    | none => unanswered .absent
    | some reach =>
      if !client.waits then unanswered .silent
      else
        let (outcome, events) := runOver reach.endpoint reach.store reach.connection build? action input
        { output := outcome.output, success := outcome.success, events }

end BuildCredentials.Helper
