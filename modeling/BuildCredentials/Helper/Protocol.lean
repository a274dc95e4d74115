import BuildCredentials.Bytes.Utf8
import BuildCredentials.Json.Fields
import BuildCredentials.Text.Blank

/-!
# The credential-helper protocol

A build engine runs a helper with an action, gives it the action's input and reads its output. A failure is
one line of output and a failing exit. `run` performs an action over any helper that can store, erase, look
up and list credentials; what the helper keeps is its own state.
-/

set_option autoImplicit false

namespace BuildCredentials.Helper

/-- The credentials that a helper exchanges with a build engine. -/
structure Credentials where
  serverUrl : String
  username : String
  secret : String
  deriving DecidableEq, Repr

namespace Credentials

/-- The fields of credentials in JSON. -/
def shape : Json.Shape where
  name := "Credentials"
  fields := ["ServerURL", "Username", "Secret"]
  optional := false

/-- The values of the fields, in the order of the shape. -/
def values (c : Credentials) : List String := [c.serverUrl, c.username, c.secret]

/-- The credentials with given values. -/
def ofValues : List String → Credentials
  | [serverUrl, username, secret] => ⟨serverUrl, username, secret⟩
  | _ => ⟨"", "", ""⟩

/-- Credentials as an object. -/
def toJson (c : Credentials) : Json := shape.toJson c.values

/-- Reads the JSON text of credentials. -/
def parse (bytes : List UInt8) : Except Json.Failure Credentials := (shape.parse bytes).map ofValues

end Credentials

/-- Why an action failed. -/
inductive Fault where
  | notFound
  | notImplemented
  | noServerUrl
  | protocol (reason : String)
  deriving DecidableEq, Repr

/-- The line that a build engine reads of a fault. -/
def Fault.message : Fault → String
  | .notFound => "credentials not found in native keychain"
  | .notImplemented => "not implemented"
  | .noServerUrl => "no credentials server URL"
  | .protocol reason => reason

/-- A helper whose state is of type `σ`. -/
structure Backend (σ : Type) where
  add : σ → Credentials → Except Fault σ
  erase : σ → String → Except Fault σ
  get : σ → String → Except Fault (String × String)
  /-- Every known address with its user, in the order in which they are listed. -/
  list : σ → Except Fault (List (String × String))

/-- The line that tells the helper's version. -/
def versionLine : String := "docker-credential-finch 0.3.0\n"

/-- Reads the whole input as text. -/
def readText (input : List UInt8) : Except Fault String :=
  match Utf8.decode? input with
  | some s => .ok s
  | none =>
    match Utf8.fault? input with
    | some fault => .error (.protocol ("reading input: " ++ fault.message))
    | none => .error (.protocol "reading input: ")

/-- Reads the address that the input names, blanks around it aside. -/
def readServerUrl (input : List UInt8) : Except Fault String := do
  let url := Text.trim (← readText input)
  if url = "" then .error .noServerUrl else .ok url

/-- Reads the credentials that the input holds. -/
def readCredentials (input : List UInt8) : Except Fault Credentials := do
  let _ ← readText input
  match Credentials.parse input with
  | .error f => .error (.protocol (f.message input))
  | .ok c => if c.serverUrl = "" then .error .noServerUrl else .ok c

/-- One line of JSON. -/
def line (v : Json) : String := v.render ++ "\n"

/-- Performs an action: the state after it and what it writes. -/
def perform {σ : Type} (b : Backend σ) (state : σ) (action : String) (input : List UInt8) :
    Except Fault (σ × String) := do
  if action = "get" then
    let url ← readServerUrl input
    let (username, secret) ← b.get state url
    return (state, line (Credentials.toJson ⟨url, username, secret⟩))
  else if action = "store" then
    return (← b.add state (← readCredentials input), "")
  else if action = "erase" then
    return (← b.erase state (← readServerUrl input), "")
  else if action = "list" then
    let entries ← b.list state
    return (state, line (.object (entries.map fun (url, user) => (url, .text user))))
  else if action = "version" then return (state, versionLine)
  else .error (.protocol ("unknown credential action \x60" ++ action ++ "\x60"))

/-- What a build engine sees of an action. -/
structure Outcome where
  /-- Whether the exit is a success. -/
  success : Bool
  output : String
  deriving DecidableEq, Repr

/-- Runs an action; a failure leaves the state as it was and is all that is written. -/
def run {σ : Type} (b : Backend σ) (state : σ) (action : String) (input : List UInt8) : σ × Outcome :=
  match perform b state action input with
  | .ok (state, output) => (state, ⟨true, output⟩)
  | .error fault => (state, ⟨false, fault.message ++ "\n"⟩)

/-- Performs an action whose output cannot be written for the given reason. What the action did to the state
stays. -/
def performUnwritable {σ : Type} (b : Backend σ) (state : σ) (action : String) (input : List UInt8)
    (reason : String) : σ × Except Fault Unit :=
  match perform b state action input with
  | .ok (state, output) =>
    (state, if output = "" then .ok () else .error (.protocol ("writing output: " ++ reason)))
  | .error fault => (state, .error fault)

end BuildCredentials.Helper
