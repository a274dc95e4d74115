import BuildCredentials.Url.Address

/-!
# Registry addresses as they are asked for

A requested address may leave out its port or its path. Which of them it gives is read off its text, since a
default port and the path of a bare host cannot be told from ones that are given once the address is parsed.
-/

set_option autoImplicit false

namespace BuildCredentials.Registry

/-- A requested address. -/
structure Address where
  url : Url
  /-- Whether the text gives a path. -/
  hasPath : Bool
  /-- The port that the text gives, default ports included. -/
  explicitPort? : Option Nat
  deriving DecidableEq, Repr

namespace Address

/-- The text after the first mark between a scheme and a host. -/
def afterMark? : List Char → Option (List Char)
  | ':' :: '/' :: '/' :: rest => some rest
  | _ :: rest => afterMark? rest
  | [] => none

/-- The text after the last occurrence of a character, or all of it. -/
def afterLast (c : Char) (cs : List Char) : List Char := (cs.reverse.takeWhile (· ≠ c)).reverse

/-- Whether the part of a text between the mark and the path gives a port. -/
def namesPort (authority : List Char) : Bool :=
  let hostPort := afterLast '@' authority
  if ']' ∈ hostPort then [':'].isPrefixOf (afterLast ']' hostPort) else ':' ∈ hostPort

/-- What ends the part of a text that gives host and port. -/
def endsHost (c : Char) : Bool := c = '/' || c = '?' || c = '#'

/-- Reads a requested address. -/
def parse? (raw : String) : Option Address := do
  let url ← Url.parse? raw
  match afterMark? raw.toList with
  | some rest =>
    let authority := rest.takeWhile (!endsHost ·)
    return { url
             hasPath := ['/'].isPrefixOf (rest.dropWhile (!endsHost ·))
             explicitPort? := if namesPort authority then url.effectivePort? else none }
  | none => return { url, hasPath := url.path ≠ "", explicitPort? := none }

end Address

end BuildCredentials.Registry
