import BuildCredentials.Url.Host
import BuildCredentials.Url.Path

/-!
# Addresses

`Url.parse?` reads an absolute address into its parts, each in its one spelling, so that two addresses can be
compared part by part. `withScheme?` and `withPath` change one part under the rules that reading it follows.
-/

set_option autoImplicit false

namespace BuildCredentials

/-- An absolute address. -/
structure Url where
  scheme : String
  /-- Whether two slashes announce a host, be it missing. -/
  hasAuthority : Bool := true
  username : String := ""
  password? : Option String := none
  host? : Option Url.Host := none
  /-- The port, unless it is the scheme's default. -/
  port? : Option Nat := none
  /-- The path; behind no host it may be one that does not begin with a slash. -/
  path : String
  query? : Option String := none
  fragment? : Option String := none
  deriving DecidableEq, Repr

namespace Url

/-- How addresses of this scheme are read. -/
def kind (u : Url) : SchemeKind := .ofScheme u.scheme

/-- The port that is meant: the one that is given, or the scheme's default. -/
def effectivePort? (u : Url) : Option Nat := u.port? <|> u.kind.defaultPort?

/-- Whether the path is one text without segments. -/
def hasOpaquePath (u : Url) : Bool := !u.hasAuthority && !(['/'].isPrefixOf u.path.toList)

/-! ## Reading -/

/-- Characters that an address may be surrounded by. -/
def isMargin (c : Char) : Bool := c ≤ ' '

/-- Characters that are passed over anywhere in an address. -/
def isPassedOver (c : Char) : Bool := c = '\t' || c = '\n' || c = '\r'

/-- The characters of an address that count. -/
def clean (raw : List Char) : List Char :=
  ((raw.dropWhile isMargin).reverse.dropWhile isMargin).reverse.filter (!isPassedOver ·)

/-- A query or a fragment begins. -/
def endsPath (c : Char) : Bool := c = '?' || c = '#'

/-- A path, a query or a fragment begins. -/
def endsAuthority (kind : SchemeKind) (c : Char) : Bool := endsPath c || Path.isSlash kind c

/-- The query and the fragment of an address, from the mark that begins them. -/
def tail (kind : SchemeKind) (cs : List Char) : Option String × Option String :=
  let text (set : Char → Bool) (part : List Char) := String.ofList (Percent.encode set part)
  let fragment (rest : List Char) : Option String :=
    match rest with
    | '#' :: after => some (text Percent.inFragment after)
    | _ => none
  match cs with
  | '?' :: rest =>
    (some (text (if kind.isSpecial then Percent.inSpecialQuery else Percent.inQuery) (rest.takeWhile (· ≠ '#'))),
      fragment (rest.dropWhile (· ≠ '#')))
  | rest => (none, fragment rest)

/-- The address with a path and what follows it, given as text. -/
def finish (u : Url) (path : List Char) (rest : List Char) : Url :=
  let (query?, fragment?) := tail u.kind rest
  { u with path := String.ofList path, query? := query?, fragment? := fragment? }

/-- The user name and the password of an address, encoded. A password is not empty. -/
def userinfo (cs : List Char) : String × Option String :=
  let text (part : List Char) := String.ofList (Percent.encode Percent.inUserinfo part)
  let password? :=
    match cs.dropWhile (· ≠ ':') with
    | _ :: c :: rest => some (text (c :: rest))
    | _ => none
  (text (cs.takeWhile (· ≠ ':')), password?)

/-- The text before the last at sign and the text after it. -/
def splitUserinfo (authority : List Char) : Option (List Char) × List Char :=
  let after := (authority.reverse.takeWhile (· ≠ '@')).reverse
  if after.length < authority.length then (some (authority.take (authority.length - after.length - 1)), after)
  else (none, authority)

/-- The text up to the first colon that is not in brackets. -/
def hostText (inBrackets : Bool) : List Char → List Char
  | [] => []
  | c :: rest =>
    if c = ':' ∧ !inBrackets then []
    else c :: hostText (if c = '[' then true else if c = ']' then false else inBrackets) rest

/-- The port that digits stand for, unless they stand for the default; too large a port is refused. -/
def portOfDigits? (kind : SchemeKind) (digits : List Char) : Option (Option Nat) :=
  if digits = [] then some none
  else match Ipv4.digits? 10 digits with
    | some n => if 65535 < n then none else some (if kind.defaultPort? = some n then none else some n)
    | none => none

/-- The port after a host, and what is left of the authority. Only a backslash may follow the digits. -/
def readPort? (kind : SchemeKind) : List Char → Option (Option Nat × List Char)
  | ':' :: rest =>
    let after := rest.dropWhile Char.isDigit
    match after with
    | [] | '\\' :: _ => (portOfDigits? kind (rest.takeWhile Char.isDigit)).map (·, after)
    | _ :: _ => none
  | rest => some (none, rest)

/-- The host of a text; only where the scheme is not special may it be missing. -/
def readHost? (kind : SchemeKind) (cs : List Char) : Option (Option Host) :=
  if kind.isSpecial then (Host.ofSpecial? cs).map some else Host.ofOpaque? cs

/-- Reads what follows the two slashes before an authority. -/
def readAuthority? (scheme : String) (cs : List Char) : Option Url := do
  let kind := SchemeKind.ofScheme scheme
  let authority := cs.takeWhile (!endsAuthority kind ·)
  let (info?, hostPort) := splitUserinfo authority
  let rest := cs.dropWhile (!endsAuthority kind ·)
  if info? = some [] ∧ hostPort = [] ∧ rest ≠ [] then none
  let (username, password?) := userinfo (info?.getD [])
  let hostCs := hostText false hostPort
  let host? ← readHost? kind hostCs
  let portCs := hostPort.drop hostCs.length
  if host? = none ∧ (portCs ≠ [] ∨ username ≠ "" ∨ password? ≠ none) then none
  let (port?, left) ← readPort? kind portCs
  let pathCs := left ++ rest
  let u : Url := { scheme, username, password?, host?, port?, path := "" }
  return u.finish (Path.read kind (pathCs.takeWhile (!endsPath ·))).1 (pathCs.dropWhile (!endsPath ·))

/-- Reads what follows the scheme of an address of a file. -/
def readFile? (scheme : String) (cs : List Char) : Option Url := do
  let isSlash := Path.isSlash .file
  let u : Url := { scheme, path := "" }
  let (host?, pathCs) ←
    match cs with
    | a :: b :: rest =>
      if isSlash a && isSlash b then
        let name := rest.takeWhile (!endsAuthority .file ·)
        if name = [] ∨ Path.isDriveLetter name then some (none, rest)
        else (Host.ofSpecial? name).map fun host =>
          (if host = .name "localhost" then none else some host, rest.drop name.length)
      else some (none, cs)
    | _ => some (none, cs)
  let (path, hasDrive) := Path.read .file (pathCs.takeWhile (!endsPath ·))
  return { u with host? := if hasDrive then none else host? }.finish path (pathCs.dropWhile (!endsPath ·))

/-- Reads what follows a scheme that is not special. -/
def readOther? (scheme : String) (cs : List Char) : Option Url :=
  let u : Url := { scheme, hasAuthority := false, path := "" }
  let path := cs.takeWhile (!endsPath ·)
  let rest := cs.dropWhile (!endsPath ·)
  match cs with
  | '/' :: '/' :: after => readAuthority? scheme after
  | '/' :: _ => some (u.finish (Path.read .other path).1 rest)
  | _ => some (u.finish (Percent.encode Percent.isControl path) rest)

/-- Reads an absolute address. -/
def parse? (raw : String) : Option Url := do
  let (scheme, rest) ← splitScheme? (clean raw.toList)
  match SchemeKind.ofScheme scheme with
  | .file => readFile? scheme rest
  | .web _ => readAuthority? scheme (rest.dropWhile (Path.isSlash (.ofScheme scheme)))
  | .other => readOther? scheme rest

/-! ## Changing a part -/

/-- The address under another scheme. Special and other schemes do not replace one another, no address that
may have a host becomes one of a file, and a special scheme asks for a host. -/
def withScheme? (u : Url) (scheme : String) : Option Url :=
  let kind := SchemeKind.ofScheme scheme
  if kind.isSpecial ≠ u.kind.isSpecial ∨ kind = .file ∨ (kind.isSpecial ∧ u.host? = none) then none
  else
    some { u with scheme := scheme, port? := if kind.defaultPort? = u.port? then none else u.port? }

/-- The address with another path, of which marks of queries and fragments are encoded as well. -/
def withPath (u : Url) (path : String) : Url :=
  let text :=
    if u.hasOpaquePath then
      match path.toList with
      | '/' :: rest => ['%', '2', 'F'] ++ Percent.encode Percent.isControl rest
      | cs => Percent.encode Percent.isControl cs
    else (Path.read u.kind (path.toList.filter (!isPassedOver ·))).1
  { u with path := String.ofList text }

end Url

end BuildCredentials
