import BuildCredentials.Json.Fields

/-!
# Credential records

What a build supplies for one registry: a name and password, or tokens. A record is written as a flat JSON
object without its empty fields, and it is shown in diagnostics without its secrets.
-/

set_option autoImplicit false

namespace BuildCredentials.Registry

/-- The credentials for one registry; an empty field is one that is not given. -/
structure Record where
  username : String := ""
  password : String := ""
  auth : String := ""
  email : String := ""
  /-- The address that the credentials were declared for. -/
  serverAddress : String := ""
  /-- A token that takes the place of the password. -/
  identityToken : String := ""
  /-- A token that is sent to the registry as it is. -/
  registryToken : String := ""
  deriving DecidableEq, Repr, Inhabited

namespace Record

/-- A name and a password for a registry. -/
def basic (address username password : String) : Record :=
  { username := username, password := password, serverAddress := address }

/-- The fields of a record in JSON. -/
def shape : Json.Shape where
  name := "CredentialRecord"
  fields := ["username", "password", "auth", "email", "serveraddress", "identitytoken", "registrytoken"]
  optional := true

/-- The values of the fields, in the order of the shape. -/
def values (r : Record) : List String :=
  [r.username, r.password, r.auth, r.email, r.serverAddress, r.identityToken, r.registryToken]

/-- The record with given values, in the order of the shape. -/
def ofValues : List String → Record
  | [username, password, auth, email, serverAddress, identityToken, registryToken] =>
    ⟨username, password, auth, email, serverAddress, identityToken, registryToken⟩
  | _ => {}

theorem ofValues_values (r : Record) : ofValues r.values = r := rfl

/-- The record as an object without its empty fields. -/
def toJson (r : Record) : Json := shape.toJson r.values

/-- Reads the JSON text of a record. -/
def parse (bytes : List UInt8) : Except Json.Failure Record := (shape.parse bytes).map ofValues

/-- What diagnostics show in place of a secret. -/
def redacted (secret : String) : String := if secret = "" then "" else "<redacted>"

/-- The text that diagnostics show of a record. -/
def describe (r : Record) : String :=
  let field (name value : String) := name ++ ": " ++ Text.quote value
  "CredentialRecord \x7b " ++ ", ".intercalate [
    field "username" r.username,
    field "password" (redacted r.password),
    field "auth" (redacted r.auth),
    field "server_address" r.serverAddress,
    field "identity_token" (redacted r.identityToken),
    field "registry_token" (redacted r.registryToken)] ++ " \x7d"

end Record

end BuildCredentials.Registry
