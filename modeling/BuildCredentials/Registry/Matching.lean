import BuildCredentials.Registry.Address
import Std.Data.ExtTreeMap

/-!
# Matching a requested address with stored ones

Tools spell registry addresses differently: with or without a scheme's default port, a path, or even another
scheme. `resolve` asks the stored addresses in rising order, first for one that means the same, then for one
that agrees with all that the request gives; a request that is no address only matches its own spelling.
-/

set_option autoImplicit false

namespace BuildCredentials.Registry

/-- How a stored address was found. -/
inductive MatchKind where
  /-- Both mean the same. -/
  | exact
  /-- They are the same once the request takes scheme, port and path from the stored address. -/
  | approximate
  /-- The requested text is a stored one. -/
  | verbatim
  deriving DecidableEq, Repr

/-- The name of a kind. -/
def MatchKind.name : MatchKind → String
  | .exact => "exact"
  | .approximate => "approximate"
  | .verbatim => "verbatim"

/-- Whether two addresses agree in everything but their ports. -/
def sameExceptPort (a b : Url) : Bool :=
  a.scheme = b.scheme && a.username = b.username && a.password? = b.password? && a.host? = b.host?
    && a.path = b.path && a.query? = b.query? && a.fragment? = b.fragment?

namespace Address

/-- Whether a stored address means the same. -/
def matchesExactly (a : Address) (stored : Url) : Bool :=
  sameExceptPort a.url stored && a.url.effectivePort? = stored.effectivePort?

/-- The address with the scheme of a stored one, if it can take it. -/
def takeScheme? (a : Address) (stored : Url) : Option Url :=
  if a.url.scheme = stored.scheme then some a.url else a.url.withScheme? stored.scheme

/-- Whether a port that is given is that of a stored address. -/
def allowsPort (a : Address) (stored : Url) : Bool :=
  match a.explicitPort? with
  | none => true
  | some port => stored.effectivePort? = some port

/-- Whether a stored address agrees with all that is given. -/
def approximates (a : Address) (stored : Url) : Bool :=
  a.allowsPort stored &&
    match a.takeScheme? stored with
    | none => false
    | some url => sameExceptPort (if a.hasPath then url else url.withPath stored.path) stored

end Address

/-- The first of some stored addresses that satisfies a condition on its parsed form. -/
def firstWith? (condition : Url → Bool) (keys : List String) : Option String :=
  keys.find? fun key => (Url.parse? key).any condition

/-- The requested text, if it is a stored one. -/
def verbatim? (keys : List String) (requested : String) : Option (String × MatchKind) :=
  if requested ∈ keys then some (requested, .verbatim) else none

/-- The stored address, of those in rising order, that a request is answered with. -/
def resolveAmong (keys : List String) (requested : String) : Option (String × MatchKind) :=
  match Address.parse? requested with
  | none => verbatim? keys requested
  | some wanted =>
    match firstWith? wanted.matchesExactly keys with
    | some key => some (key, .exact)
    | none =>
      match firstWith? wanted.approximates keys with
      | some key => some (key, .approximate)
      | none => verbatim? keys requested

/-- The stored address that a request is answered with. -/
def resolve {α : Type} (entries : Std.ExtTreeMap String α) (requested : String) : Option (String × MatchKind) :=
  resolveAmong entries.keys requested

end BuildCredentials.Registry
