import BuildCredentials.Store

/-!
# Operations on the store

Clients share one store, and each acts on it through single operations: it sees the store as the operation
before left it, whoever asked for that one. `run` is the store after a sequence of operations and `answers`
what they answer.

The operations `put`, `get`, `resolve` and `remove` are `store_auth_configs`, `get_credentials`, `resolve` and
`remove_credentials` of the `CredentialService`. The others are those of the `CredentialCache` itself: `replace` is
`insert`, which gives back what it displaces, `inspect` is `with_entry` and `take` is `remove`.
-/

set_option autoImplicit false

namespace BuildCredentials.Store

open Registry

/-- What a client asks of the store. A client that inspects credentials makes a value of `α` of them. -/
inductive Operation (α : Type) where
  | put (build : BuildId) (auths : Auths)
  | get (build : BuildId) (address : String)
  | resolve (build : BuildId) (address : String)
  | remove (build : BuildId)
  /-- Puts credentials and asks for those before. -/
  | replace (build : BuildId) (auths : Auths)
  | inspect (build : BuildId) (read : Auths → α)
  /-- Forgets credentials, if there are any, and asks for them. -/
  | take (build : BuildId)

/-- The build that an operation is about. -/
def Operation.build {α : Type} : Operation α → BuildId
  | .put build _ | .get build _ | .resolve build _ | .remove build | .replace build _ | .inspect build _
  | .take build => build

/-- What an operation is answered with. -/
inductive Answer (α : Type) where
  | done (result : Except Error Unit)
  | record (result : Except Error Record)
  | found (result : Except Error (Record × MatchKind))
  /-- The credentials that were stored before. -/
  | previous (auths? : Option Auths)
  | value (value? : Option α)

/-- Makes a value of the credentials of a build. -/
def inspect {α : Type} (store : Store) (id : BuildId) (read : Auths → α) : Option α := store[id]?.map read

section
variable {α : Type}

/-- Performs an operation: the store after it, and its answer. -/
def perform (store : Store) : Operation α → Store × Answer α
  | .put id auths => (store.put id auths, .done (.ok ()))
  | .get id address => (store, .record (store.get id address))
  | .resolve id address => (store, .found (store.resolve id address))
  | .remove id =>
    match store.remove id with
    | .ok after => (after, .done (.ok ()))
    | .error e => (store, .done (.error e))
  | .replace id auths => (store.put id auths, .previous store[id]?)
  | .inspect id read => (store, .value (store.inspect id read))
  | .take id => (store.erase id, .previous store[id]?)

/-- The store after operations. -/
def run (store : Store) (operations : List (Operation α)) : Store :=
  operations.foldl (fun store o => (store.perform o).1) store

/-- What operations are answered with, each over the store that those before it left. -/
def answers (store : Store) : List (Operation α) → List (Answer α)
  | [] => []
  | o :: rest =>
    let (after, answer) := store.perform o
    answer :: after.answers rest

end

end BuildCredentials.Store
