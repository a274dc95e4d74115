import BuildCredentials.Build.Id
import BuildCredentials.Error
import BuildCredentials.Registry.Config
import BuildCredentials.Registry.Matching

/-!
# The store of credentials

The store maps builds to the credentials they supplied. Credentials are put in and taken out as a whole, and
a lookup says which stored address answered it. Errors name a build by its fingerprint alone.

A `Store` is what the map of a `CredentialCache` holds; `put`, `resolve`, `get` and `remove` are `store_auth_configs`,
`resolve`, `get_credentials` and `remove_credentials` of the `CredentialService`.
-/

set_option autoImplicit false

namespace BuildCredentials

open Registry

/-- The credentials of every active build. -/
abbrev Store := Std.ExtTreeMap BuildId Auths

namespace Store

/-- Stores the credentials of a build, in place of earlier ones. -/
def put (store : Store) (id : BuildId) (auths : Auths) : Store := store.insert id auths

/-- The record for an address among those of a build, and how it was found. -/
def find? (auths : Auths) (address : String) : Option (Record × MatchKind) := do
  let (key, kind) ← resolve auths address
  return (← auths[key]?, kind)

/-- The record that a build declared for an address, and how it was found. -/
def resolve (store : Store) (id : BuildId) (address : String) : Except Error (Record × MatchKind) :=
  match store[id]? with
  | none => .error (.buildNotFound id.fingerprint)
  | some auths =>
    match find? auths address with
    | none => .error (.credentialNotFound id.fingerprint address)
    | some found => .ok found

/-- The record that a build declared for an address. -/
def get (store : Store) (id : BuildId) (address : String) : Except Error Record :=
  (store.resolve id address).map (·.1)

/-- Forgets the credentials of a build. -/
def remove (store : Store) (id : BuildId) : Except Error Store :=
  if id ∈ store then .ok (store.erase id) else .error (.buildNotFound id.fingerprint)

/-! ## What is stored after a change -/

theorem getElem?_put (store : Store) (id b : BuildId) (auths : Auths) :
    (store.put id auths)[b]? = if id = b then some auths else store[b]? := by
  simp [put, Std.ExtTreeMap.getElem?_insert]

theorem getElem?_erase (store : Store) (id b : BuildId) :
    (store.erase id)[b]? = if id = b then none else store[b]? := by
  simp [Std.ExtTreeMap.getElem?_erase]

/-- To forget what is not stored is to leave everything as it is. -/
theorem getElem?_of_not_mem {store : Store} {id : BuildId} (h : id ∉ store) (b : BuildId) :
    store[b]? = if id = b then none else store[b]? := by
  split
  · next he => rw [← he, Std.ExtTreeMap.getElem?_eq_none h]
  · rfl

theorem remove_of_mem {store : Store} {id : BuildId} (h : id ∈ store) :
    store.remove id = .ok (store.erase id) := if_pos h

theorem remove_of_not_mem {store : Store} {id : BuildId} (h : id ∉ store) :
    store.remove id = .error (.buildNotFound id.fingerprint) := if_neg h

end Store

end BuildCredentials
