import BuildCredentials.Bytes.Utf8
import BuildCredentials.Http.Body
import BuildCredentials.Http.Message
import BuildCredentials.Http.Status
import BuildCredentials.Http.Target

/-!
# Messages on the wire

Requests and answers as bytes. Of an answer a client needs the status and the body only.
-/

set_option autoImplicit false

namespace BuildCredentials.Http

/-! ## Requests -/

/-- A request whose body may have ended too early. -/
structure Incoming where
  version : Version
  method : String
  path : String
  body? : Option (List UInt8)
  deriving DecidableEq, Repr

/-- Whether bytes are the name of a method. -/
def isMethod (bytes : List UInt8) : Bool := bytes ≠ [] && bytes.all isTokenByte

/-- A byte of a target. -/
def isTargetByte (b : UInt8) : Bool := 32 < b && b ≠ 127

/-- Reads the first line of a request: method, target and version. -/
def requestLine? (line : List UInt8) : Option (List UInt8 × List UInt8 × Version) :=
  match line.splitOn 32 with
  | [method, target, version] =>
    if isMethod method ∧ target ≠ [] ∧ target.all isTargetByte then
      (Version.ofName? version).map (method, target, ·)
    else none
  | _ => none

/-- Reads the path that the target of a request names. -/
def readTarget (target : List UInt8) : Except HeadFault String :=
  if Target.limit < target.length then .error .targetTooLong
  else match Target.path? target with
    | none => .error .malformed
    | some path => .ok path

/-- Reads a request. -/
def readRequest (bytes : List UInt8) : Except HeadFault Incoming := do
  let ((method, target, version), fields, rest) ← readHead requestLine? bytes
  let path ← readTarget target
  let framing ← Framing.ofRequest version fields
  return { version, method := text method, path, body? := framing.read rest }

/-! ## Answers -/

/-- Reads the first line of an answer: version and status; the phrase means nothing. -/
def statusLine? (line : List UInt8) : Option (Version × Nat) :=
  match line.splitOn 32 with
  | version :: code :: phrase =>
    if code.length = 3 ∧ phrase.flatten.all isValueByte then do
      let n ← number? code
      if 100 ≤ n then return (← Version.ofName? version, n) else none
    else none
  | _ => none

/-- Whether an answer only tells that another will follow. -/
def isInterim (status : Nat) : Bool := 100 ≤ status && status < 200 && status ≠ 101

/-- Reads the status and the body of the first answer that is not interim. -/
def readResponse : Nat → List UInt8 → Option (Nat × List UInt8)
  | 0, _ => none
  | fuel + 1, bytes =>
    match readHead statusLine? bytes with
    | .error _ => none
    | .ok ((version, status), fields, rest) =>
      if isInterim status then readResponse fuel rest
      else do
        let framing ← Framing.ofResponse? version status fields
        return (status, ← framing.read rest)

/-- The status line of an answer. -/
def statusLine (version : Version) (status : Nat) : String := version.name ++ " " ++ statusText status

end BuildCredentials.Http
