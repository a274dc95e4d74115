import BuildCredentials.Url.Domain
import BuildCredentials.Url.Ipv6
import BuildCredentials.Url.Percent

/-!
# Hosts

Where the scheme is special a host is a domain name, an IPv4 address or an IPv6 address in brackets; elsewhere
it is an IPv6 address or any text without delimiters.
-/

set_option autoImplicit false

namespace BuildCredentials.Url

/-- A host. -/
inductive Host where
  | name (text : String)
  | ipv4 (address : Nat)
  | ipv6 (groups : List Nat)
  deriving DecidableEq, Repr

namespace Host

/-- The text between brackets, if a text begins with one. -/
def bracketed? : List Char → Option (Option (List Char))
  | '[' :: rest => some (if rest.getLast? = some ']' then some rest.dropLast else none)
  | _ => none

/-- The characters that no opaque host may hold. -/
def opaqueForbidden : List Char :=
  ['\x00', '\t', '\n', '\r', ' ', '#', '/', ':', '<', '>', '?', '@', '[', '\\', ']', '^', '|']

/-- The host of an address whose scheme is not special; the empty text is no host. -/
def ofOpaque? (cs : List Char) : Option (Option Host) :=
  match bracketed? cs with
  | some none => none
  | some (some inner) => (Ipv6.parse? inner).map fun groups => some (.ipv6 groups)
  | none =>
    if cs.any (· ∈ opaqueForbidden) then none
    else if cs = [] then some none
    else some (some (.name (String.ofList (Percent.encode Percent.isControl cs))))

/-- The host of an address whose scheme is special. -/
def ofSpecial? (cs : List Char) : Option Host :=
  match bracketed? cs with
  | some none => none
  | some (some inner) => (Ipv6.parse? inner).map .ipv6
  | none => do
    let text ← Utf8.decode? (Percent.decode (Utf8.encode (String.ofList cs)))
    let name ← Domain.ascii? text.toList
    if name = [] then none
    else if Ipv4.endsInNumber name then (Ipv4.parse? name).map .ipv4
    else some (.name (String.ofList name))

end Host

end BuildCredentials.Url
