import BuildCredentials.Bytes.Utf8
import BuildCredentials.Http.Head

/-!
# Targets of requests

A target is a path with a query, perhaps behind a scheme and an authority, or an authority alone, or a star.
`Target.path?` answers the path that it names, and nothing for bytes that are no target.
-/

set_option autoImplicit false

namespace BuildCredentials.Http.Target

/-- The most bytes of a target. -/
def limit : Nat := 65534

/-! ## Paths -/

/-- A byte that a path may hold; question marks and number signs end it. -/
def isPathByte (b : UInt8) : Bool := 32 < b && b ∉ ascii "<>\x60"

/-- A byte that a query may hold. -/
def isQueryByte (b : UInt8) : Bool := 32 < b && b ∉ ascii "\"<>"

/-- A mark that ends a path. -/
def endsPath (b : UInt8) : Bool := b = 63 || b = 35

/-- The path of a text from its first slash on. What follows a number sign means nothing. -/
def pathAndQuery? (bytes : List UInt8) : Option String := do
  let path := bytes.takeWhile (!endsPath ·)
  let query := (bytes.dropWhile (!endsPath ·)).takeWhile (· ≠ 35)
  if !path.all isPathByte || !query.all isQueryByte then none
  let _ ← Utf8.decode? query
  Utf8.decode? path

/-! ## Authorities -/

/-- What an authority held so far. -/
structure Authority where
  /-- Colons after the last at sign or bracket. -/
  colons : Nat := 0
  /-- Whether a percent sign came after the last at sign or bracket. -/
  percent : Bool := false
  opened : Bool := false
  closed : Bool := false

/-- A byte of an authority without a meaning of its own. -/
def isAuthorityByte (b : UInt8) : Bool :=
  isDigitByte b || (65 ≤ b && b ≤ 90) || (97 ≤ b && b ≤ 122) || b ∈ ascii "!$&'()*+,-.;=_~"

/-- Takes the next byte of an authority. There is one pair of brackets at most. -/
def Authority.step? (a : Authority) (b : UInt8) : Option Authority :=
  if b = 58 then if a.colons < 8 then some { a with colons := a.colons + 1 } else none
  else if b = 91 then if a.percent || a.opened then none else some { a with opened := true }
  else if b = 93 then
    if a.opened && !a.closed then some { a with closed := true, colons := 0, percent := false } else none
  else if b = 64 then some { a with colons := 0, percent := false }
  else if b = 37 then some { a with percent := true }
  else if isAuthorityByte b then some a
  else none

/-- Whether bytes are an authority: a host with a port at most, behind a user who may be written with percent
signs. -/
def isAuthority (bytes : List UInt8) : Bool :=
  match bytes.foldlM Authority.step? {} with
  | none => false
  | some a => bytes ≠ [] && a.opened = a.closed && a.colons ≤ 1 && !a.percent && bytes.getLast? ≠ some 64

/-! ## Schemes -/

/-- A byte of a scheme. -/
def isSchemeByte (b : UInt8) : Bool :=
  isDigitByte b || (65 ≤ b && b ≤ 90) || (97 ≤ b && b ≤ 122) || b ∈ ascii "+-.~"

/-- The most bytes of a scheme. -/
def schemeLimit : Nat := 64

/-- What follows a scheme, a colon and two slashes. -/
def afterScheme? (bytes : List UInt8) : Option (List UInt8) :=
  match bytes.dropWhile isSchemeByte with
  | 58 :: 47 :: 47 :: rest => some rest
  | _ => none

/-! ## Targets -/

/-- The path of a target that begins with a scheme, after which an authority is asked for. -/
def absolutePath? (rest : List UInt8) : Option String :=
  let endsAuthority (b : UInt8) : Bool := b = 47 || endsPath b
  if isAuthority (rest.takeWhile (!endsAuthority ·)) then
    (pathAndQuery? (rest.dropWhile (!endsAuthority ·))).map fun path => if path = "" then "/" else path
  else none

/-- The path that a target names; the empty one if it is an authority alone. -/
def path? (bytes : List UInt8) : Option String :=
  if limit < bytes.length then none
  else match bytes with
    | [] => none
    | [42] => some "*"
    | 47 :: _ => pathAndQuery? bytes
    | _ =>
      match afterScheme? bytes with
      | some rest =>
        if schemeLimit < (bytes.takeWhile isSchemeByte).length then none else absolutePath? rest
      | none => if isAuthority bytes then some "" else none

end BuildCredentials.Http.Target
