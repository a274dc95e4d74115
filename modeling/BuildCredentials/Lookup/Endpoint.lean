import BuildCredentials.Audit.Entry
import BuildCredentials.Http.Message
import BuildCredentials.Lookup.Request
import BuildCredentials.Store

/-!
# The lookup endpoint

`Endpoint.handle` takes one request over the store: the guard decides first, before the path, the method or
the body are looked at, and every rejection gets the same answer. What a peer learns of a failed lookup is one
message, whatever the store holds.
-/

set_option autoImplicit false

namespace BuildCredentials.Lookup

/-- The most bytes of a body that are read. -/
def bodyLimit : Nat := 2097152

/-- The methods that lookups may be asked for with. -/
def allowedMethods : List String := ["GET", "HEAD"]

/-- The answer to a failure. -/
def failure (kind : ErrorKind) : Http.Response := .json (status kind) (message kind).toJson

/-- The store after a request, what it is answered with, and what happened to credentials. -/
abbrev Handled := Store × Http.Response × List Audit.Event

/-- Answers a lookup. -/
def answer (store : Store) (request : Request) : Handled :=
  let build : BuildId := ⟨request.build⟩
  match store.resolve build request.address with
  | .ok (record, kind) => (store, .json 200 record.toJson, [.served build request.address kind])
  | .error e => (store, failure e.kind, [.denied build request.address])

/-- Answers a body that is asked to be looked up. -/
def answerBody (store : Store) (body : List UInt8) : Handled :=
  if bodyLimit < body.length then
    (store, .plain 413 "Failed to buffer the request body: length limit exceeded", [])
  else match Request.read body with
    | .error e => (store, failure e.kind, [])
    | .ok request => answer store request

/-- Answers an admitted peer. -/
def route (store : Store) (request : Http.Request) : Handled :=
  if request.path ≠ path then (store, .bare 404, [])
  else if request.method ∈ allowedMethods then answerBody store request.body
  else (store, .bare 405, [])

/-- Every method that is not allowed where lookups are is told so, admitted or not. -/
def withAllowed (request : Http.Request) (response : Http.Response) : Http.Response :=
  if request.path = path ∧ request.method ∉ allowedMethods then
    { response with allow? := some (",".intercalate allowedMethods) }
  else response

/-- The answer to a question for the head alone has no body. -/
def withoutBody (request : Http.Request) (response : Http.Response) : Http.Response :=
  if request.method = "HEAD" then { response with body := "" } else response

/-- Who answers lookups: the daemon's identity and the processes it can see. -/
structure Endpoint where
  daemon : Peer.Identity
  parent : Peer.ProcessTable

/-- Whether the peer of a connection is admitted; a request without a connection is not local. -/
def Endpoint.verdict (e : Endpoint) (connection? : Option Peer.Connection) : Except Peer.Rejection Peer.Identity :=
  match connection? with
  | none => .error .notLocal
  | some connection => (Peer.examine e.daemon e.parent connection).verdict

/-- Handles a request that arrived over a connection. -/
def Endpoint.handle (e : Endpoint) (store : Store) (connection? : Option Peer.Connection)
    (request : Http.Request) : Handled :=
  let (after, response, events) :=
    match e.verdict connection? with
    | .error reason => (store, failure (Error.peerRejected reason).kind, [.rejected reason])
    | .ok _ => route store request
  (after, withoutBody request (withAllowed request response), events)

/-- Answers a request that arrived over a connection, and says what happened to credentials. -/
def Endpoint.respond (e : Endpoint) (store : Store) (connection? : Option Peer.Connection)
    (request : Http.Request) : Http.Response × List Audit.Event :=
  (e.handle store connection? request).2

end BuildCredentials.Lookup
