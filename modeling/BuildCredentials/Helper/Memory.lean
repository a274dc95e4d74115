import BuildCredentials.Helper.Protocol
import Std.Data.ExtTreeMap

/-!
# A helper that keeps credentials in memory

Credentials are kept under their address exactly as it is given; storing replaces what an address had.
-/

set_option autoImplicit false

namespace BuildCredentials.Helper

/-- User and secret by address. -/
abbrev Memory := Std.ExtTreeMap String (String × String)

/-- The helper over credentials in memory. -/
def memory : Backend Memory where
  add entries c := .ok (entries.insert c.serverUrl (c.username, c.secret))
  erase entries url := if url ∈ entries then .ok (entries.erase url) else .error .notFound
  get entries url :=
    match entries[url]? with
    | some found => .ok found
    | none => .error .notFound
  list entries := .ok (entries.toList.map fun (url, user, _) => (url, user))

end BuildCredentials.Helper
