import BuildCredentials.Build.Id
import BuildCredentials.Error
import BuildCredentials.Json.Fields

/-!
# Lookup messages

A helper asks for the credentials of one build and one address. Every answer that is no record is a message
that tells the class of the failure and nothing else.
-/

set_option autoImplicit false

namespace BuildCredentials.Lookup

/-- Where lookups are asked for. -/
def path : String := "/finch/credentials"

/-- A question for the credentials that a build declared for an address. -/
structure Request where
  build : String
  address : String
  deriving DecidableEq, Repr

namespace Request

/-- The fields of a request in JSON. -/
def shape : Json.Shape where
  name := "CredentialRequest"
  fields := ["buildID", "serverAddr"]
  optional := false

/-- The values of the fields, in the order of the shape. -/
def values (r : Request) : List String := [r.build, r.address]

/-- The request with given values. -/
def ofValues : List String → Request
  | [build, address] => ⟨build, address⟩
  | _ => ⟨"", ""⟩

/-- A request as an object. -/
def toJson (r : Request) : Json := shape.toJson r.values

/-- Reads the JSON text of a request. -/
def parse (bytes : List UInt8) : Except Json.Failure Request := (shape.parse bytes).map ofValues

/-- Reads a request that names a build and an address. -/
def read (bytes : List UInt8) : Except Error Request :=
  match parse bytes with
  | .error f => .error (.malformedRequest (f.message bytes))
  | .ok r =>
    if r.build = "" then .error (.malformedRequest "buildID is empty")
    else if r.address = "" then .error (.malformedRequest "serverAddr is empty")
    else .ok r

end Request

/-- The body of an answer that is no record. -/
structure Message where
  text : String
  deriving DecidableEq, Repr

namespace Message

/-- The fields of a message in JSON. -/
def shape : Json.Shape where
  name := "ErrorMessage"
  fields := ["message"]
  optional := false

/-- A message as an object. -/
def toJson (m : Message) : Json := shape.toJson [m.text]

/-- Reads the JSON text of a message. -/
def parse (bytes : List UInt8) : Except Json.Failure Message := (shape.parse bytes).map fun vs => ⟨vs.headD ""⟩

end Message

/-- The status that a class of errors is answered with. -/
def status : ErrorKind → Nat
  | .notFound => 404
  | .unauthorized => 401
  | .malformed => 400
  | .internal => 500

/-- The message that a class of errors is answered with. -/
def message : ErrorKind → Message
  | .notFound => ⟨"credentials not found"⟩
  | .unauthorized => ⟨"unauthorized"⟩
  | .malformed => ⟨"malformed request"⟩
  | .internal => ⟨"internal error"⟩

end BuildCredentials.Lookup
