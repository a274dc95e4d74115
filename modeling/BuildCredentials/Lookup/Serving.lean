import BuildCredentials.Http.Wire
import BuildCredentials.Lookup.Client
import BuildCredentials.Lookup.Endpoint

/-!
# Serving a connection

The daemon reads a request from the bytes of a connection and answers it. What is no request is refused before
the endpoint sees it, and so is nobody's business in the log.
-/

set_option autoImplicit false

namespace BuildCredentials.Lookup

/-- What goes out over a connection: the status line and the body. -/
structure Served where
  line : String
  body : String
  deriving DecidableEq, Repr

/-- An answer as it goes out. -/
def Served.ofResponse (version : Http.Version) (response : Http.Response) : Served :=
  ⟨Http.statusLine version response.status, response.body⟩

/-- The answer to bytes that are no request; none to those that end too early. -/
def refusal? : Http.HeadFault → Option Served
  | .malformed => some (Served.ofResponse .v11 (.bare 400))
  | .tooLarge => some (Served.ofResponse .v11 (.bare 431))
  | .targetTooLong => some (Served.ofResponse .v11 (.bare 414))
  | .incomplete => none

/-- The answer to an admitted request whose body ends too early. -/
def cutShort : Http.Response :=
  .plain 400 "Failed to buffer the request body: error reading a body from connection"

/-- Answers the request that arrived over a connection. -/
def Endpoint.serve (e : Endpoint) (store : Store) (connection : Peer.Connection) (bytes : List UInt8) :
    Option Served × List Audit.Event :=
  match Http.readRequest bytes with
  | .error fault => (refusal? fault, [])
  | .ok incoming =>
    let request : Http.Request :=
      { method := incoming.method, path := incoming.path, body := incoming.body?.getD [] }
    let (response, events) := e.respond store (some connection) request
    let response :=
      if incoming.body?.isNone ∧ request.path = path ∧ request.method ∈ allowedMethods
          ∧ (e.verdict (some connection)).isOk then
        withoutBody request cutShort
      else response
    (some (Served.ofResponse incoming.version response), events)

/-- Asks for a record over a connection to the endpoint, and says what happened to credentials. -/
def Endpoint.fetch (e : Endpoint) (store : Store) (connection : Peer.Connection) (request : Request) :
    Except Error Registry.Record × List Audit.Event :=
  let sent : Http.Request := { path := path, body := Utf8.encode (Client.body request) }
  let (response, events) := e.respond store (some connection) sent
  (Client.interpret request response.status (Utf8.encode response.body), events)

end BuildCredentials.Lookup
