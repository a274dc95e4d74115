/-!
# Schemes

The schemes of the web are special: a host is asked for, backslashes count as slashes, and there may be a
default port. The scheme of local files is special without a port, and its host may be missing.
-/

set_option autoImplicit false

namespace BuildCredentials.Url

/-- How addresses of a scheme are read. -/
inductive SchemeKind where
  | file
  /-- A scheme of the web, with its default port. -/
  | web (port : Nat)
  | other
  deriving DecidableEq, Repr

/-- The kind of a scheme. -/
def SchemeKind.ofScheme (scheme : String) : SchemeKind :=
  if scheme = "http" ∨ scheme = "ws" then .web 80
  else if scheme = "https" ∨ scheme = "wss" then .web 443
  else if scheme = "ftp" then .web 21
  else if scheme = "file" then .file
  else .other

/-- Whether a scheme is one of the special ones. -/
def SchemeKind.isSpecial : SchemeKind → Bool
  | .other => false
  | _ => true

/-- The port that stands for none. -/
def SchemeKind.defaultPort? : SchemeKind → Option Nat
  | .web port => some port
  | _ => none

/-- A character that may stand in a scheme. -/
def isSchemeChar (c : Char) : Bool := c.isAlphanum || c = '+' || c = '-' || c = '.'

/-- The scheme that an address begins with, in lower case, and what follows its colon. -/
def splitScheme? : List Char → Option (String × List Char)
  | [] => none
  | c :: rest =>
    if c.isAlpha then
      match rest.dropWhile isSchemeChar with
      | ':' :: after => some (String.ofList ((c :: rest.takeWhile isSchemeChar).map Char.toLower), after)
      | _ => none
    else none

end BuildCredentials.Url
