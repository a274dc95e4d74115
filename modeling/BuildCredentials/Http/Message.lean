import BuildCredentials.Json.Value

/-!
# Requests and answers

The part of HTTP that credentials are looked up with: a request by method, path and body, and an answer by
status, a few headers and body.
-/

set_option autoImplicit false

namespace BuildCredentials.Http

/-- A request. -/
structure Request where
  method : String := "GET"
  /-- The path that the target names. -/
  path : String
  body : List UInt8 := []
  deriving DecidableEq, Repr

/-- An answer. -/
structure Response where
  status : Nat
  contentType? : Option String := none
  /-- The methods that are allowed instead. -/
  allow? : Option String := none
  body : String := ""
  deriving DecidableEq, Repr

namespace Response

/-- An answer that carries JSON. -/
def json (status : Nat) (v : Json) : Response :=
  { status, contentType? := some "application/json", body := v.render }

/-- An answer that carries plain text. -/
def plain (status : Nat) (text : String) : Response :=
  { status, contentType? := some "text/plain; charset=utf-8", body := text }

/-- An answer without a body. -/
def bare (status : Nat) : Response := { status }

end Response

end BuildCredentials.Http
