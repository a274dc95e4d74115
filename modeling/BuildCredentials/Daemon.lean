import BuildCredentials.Build.Run
import BuildCredentials.Build.Scopes
import BuildCredentials.Lookup.Endpoint

/-!
# A daemon at work

A daemon opens and closes scopes, runs builds and answers requests, all over one store and one log and all at the
same time. What it does is one sequence of steps: a build takes a step to start and a step to finish, and whatever
happens while its engine runs, be it to other builds, stands in between.
-/

set_option autoImplicit false

namespace BuildCredentials.Daemon

open Build (Scopes RegistryAuth)
open Lookup (Endpoint)

/-- What a build comes with: its credentials as they arrive, and the identifier that randomness gives it. -/
structure Job where
  auth? : Option RegistryAuth
  fresh? : Except Error BuildId

/-- The scope that a build opens: none if it has no credentials, or if it fails before its engine starts. -/
def Job.scope? (job : Job) : Option (BuildId × Registry.Auths) :=
  match Build.readAuths job.auth?, job.fresh? with
  | .ok auths, .ok id => if auths.isEmpty then none else some (id, auths)
  | _, _ => none

/-- What a daemon does. -/
inductive Step (α : Type) where
  | scopes (s : Scopes.Step α)
  /-- A build starts. -/
  | start (job : Job)
  /-- The engine of a build has ended. -/
  | finish (job : Job)
  /-- A request is answered, which arrived over a connection if one is known. -/
  | request (connection? : Option Peer.Connection) (request : Http.Request)

section
variable {α : Type}

/-- Takes a step. -/
def step (e : Endpoint) (s : Scopes) : Step α → Scopes
  | .scopes x => s.step x
  | .start job =>
    match job.scope? with
    | some (id, auths) => s.step (.acquire id auths : Scopes.Step α)
    | none => s
  | .finish job =>
    match job.scope? with
    | some (id, _) => s.step (.drop id : Scopes.Step α)
    | none => s
  | .request connection? request =>
    let (store, _, events) := e.handle s.store connection? request
    { s with store, written := s.written ++ events }

/-- What a daemon has come to after steps. -/
def after (e : Endpoint) (s : Scopes) (steps : List (Step α)) : Scopes := steps.foldl (step e) s

/-- The engine of a build during which a daemon takes steps. -/
def engine (e : Endpoint) (during : List (Step α)) (outcome : Except Error Int) : Build.Engine := fun _ store =>
  let s := after e { store } during
  { store := s.store, events := s.written ++ s.pending, outcome }

end

/-- The entries of a log, in the order in which they were written. -/
def log (s : Scopes) : List Audit.Entry := s.written.map (·.entry)

end BuildCredentials.Daemon
