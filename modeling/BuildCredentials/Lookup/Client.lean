import BuildCredentials.Http.Wire
import BuildCredentials.Lookup.Request
import BuildCredentials.Registry.Record

/-!
# Asking the daemon

A helper sends one request and reads one answer. An answer of success carries a record; that nothing was found
is told by the status alone; any other status is an error with the daemon's message.
-/

set_option autoImplicit false

namespace BuildCredentials.Lookup

open Registry (Record)

/-- Who asks: where the daemon's socket is, and how long to wait for an answer. -/
structure Client where
  socket : String
  timeoutMillis : Nat := 5000
  deriving DecidableEq, Repr

/-- What comes back over a socket. -/
inductive Reply where
  /-- Nobody listens. -/
  | absent
  | silent
  /-- The bytes up to the end of the connection. -/
  | bytes (bytes : List UInt8)
  deriving DecidableEq, Repr

namespace Client

/-- The first line of every request. -/
def requestLine : String := "GET " ++ path ++ " HTTP/1.1"

/-- The body of a request. -/
def body (request : Request) : String := request.toJson.render

/-- The fields of a request. -/
def fields (request : Request) : List (String × String) := [
  ("host", "localhost"),
  ("content-type", "application/json"),
  ("content-length", toString (body request).utf8ByteSize)]

/-- A request as text on the wire. -/
def requestText (request : Request) : String :=
  requestLine ++ "\r\n" ++ String.join ((fields request).map fun (name, v) => name ++ ": " ++ v ++ "\r\n") ++ "\r\n"
    ++ body request

/-- The message of an answer without success: the one in its JSON, or else its whole body. -/
def messageOf (body : List UInt8) : String :=
  match Message.parse body with
  | .ok m => m.text
  | .error _ => Utf8.decodeLossy body

/-- What an answer means. -/
def interpret (request : Request) (status : Nat) (body : List UInt8) : Except Error Record :=
  if status = 404 then .error (.credentialNotFound (BuildId.mk request.build).fingerprint request.address)
  else if !Http.isSuccess status then .error (.http (Http.statusText status ++ ": " ++ messageOf body))
  else match Record.parse body with
    | .ok record => .ok record
    | .error f => .error (.json (f.message body))

/-- Whether a client waits at all. -/
def waits (c : Client) : Bool := 0 < c.timeoutMillis

/-- The error of an answer that does not come in time. -/
def timedOut (c : Client) : Error := .timeout ("credential request to " ++ c.socket) (c.timeoutMillis / 1000)

/-- Asks for a record, with what comes back. -/
def fetch (c : Client) (request : Request) : Reply → Except Error Record
  | .absent => .error (.io ("connecting to " ++ c.socket))
  | .silent => .error c.timedOut
  | .bytes bytes =>
    if !c.waits then .error c.timedOut
    else match Http.readResponse (bytes.length + 1) bytes with
      | none => .error (.http "connection closed before message completed")
      | some (status, body) => interpret request status body

end Client

end BuildCredentials.Lookup
