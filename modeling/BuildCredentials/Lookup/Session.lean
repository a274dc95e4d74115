import BuildCredentials.Lookup.Endpoint
import BuildCredentials.Store.Operation

/-!
# Sessions

A daemon's store is acted on from within, by operations, and over its socket, by requests. A session is a
sequence of such steps, and each step has its turn: its outcome, and what happened to credentials meanwhile.
-/

set_option autoImplicit false

namespace BuildCredentials.Lookup

/-- A step of a session. -/
inductive Step (α : Type) where
  | operation (o : Store.Operation α)
  /-- A request, and the connection that it arrived over where one is known. -/
  | request (connection? : Option Peer.Connection) (request : Http.Request)

/-- What a step comes out as. -/
inductive Outcome (α : Type) where
  | answer (a : Store.Answer α)
  | response (r : Http.Response)

/-- What came of a step. -/
structure Turn (α : Type) where
  outcome : Outcome α
  events : List Audit.Event

section
variable {α : Type}

/-- Takes a step: the store after it, and what came of it. -/
def Endpoint.step (e : Endpoint) (store : Store) : Step α → Store × Turn α
  | .operation o =>
    let (after, answer) := store.perform o
    (after, { outcome := .answer answer, events := [] })
  | .request connection? request =>
    let (after, response, events) := e.handle store connection? request
    (after, { outcome := .response response, events })

/-- The store after steps. -/
def Endpoint.after (e : Endpoint) (store : Store) (steps : List (Step α)) : Store :=
  steps.foldl (fun store s => (e.step store s).1) store

/-- What came of steps, each over the store that those before it left. -/
def Endpoint.turns (e : Endpoint) (store : Store) : List (Step α) → List (Turn α)
  | [] => []
  | s :: rest =>
    let (after, turn) := e.step store s
    turn :: e.turns after rest

end

end BuildCredentials.Lookup
