import BuildCredentials.Audit.Entry
import BuildCredentials.Store

/-!
# The lifetime of a build's credentials

A scope stores the credentials of one build under a fresh identifier, and closing it removes them, whatever
became of the build. Credentials that someone else removed are not reported as removed again.
-/

set_option autoImplicit false

namespace BuildCredentials.Build

/-- Bytes of a fresh identifier. -/
def idBytes : Nat := 32

/-- The identifier that random bytes make. -/
def idOfBytes (bytes : List UInt8) : BuildId := ⟨Hex.encode bytes⟩

/-- Stores credentials under a fresh identifier. -/
def openScope (store : Store) (id : BuildId) (auths : Registry.Auths) : Store × List Audit.Event :=
  (store.put id auths, [.stored id auths.keys])

/-- Removes what a scope stored, if it is still there. -/
def closeScope (store : Store) (id : BuildId) : Store × List Audit.Event :=
  match store.remove id with
  | .ok store => (store, [.removed id])
  | .error _ => (store, [])

end BuildCredentials.Build
