import BuildCredentials.Build.Scope
import BuildCredentials.Store.Operation

/-!
# Scopes that share a store

A daemon has many scopes over one store and one log. A scope that opens waits until its line is written; one
that closes does not, and its line is written in the background, before or after those of others.
-/

set_option autoImplicit false

namespace BuildCredentials.Build

open Registry

/-- A store with the log of what scopes did to it. -/
structure Scopes where
  store : Store := ∅
  /-- What is in the log. -/
  written : List Audit.Event := []
  /-- What is still to be written to the log in the background. -/
  pending : List Audit.Event := []

namespace Scopes

/-- What happens to scopes and to their store. -/
inductive Step (α : Type) where
  /-- A scope is opened under an identifier that was made for it. -/
  | acquire (id : BuildId) (auths : Auths)
  /-- The scope of an identifier is closed. -/
  | drop (id : BuildId)
  | operation (o : Store.Operation α)
  /-- Of what is still to be written, the line at a position is. -/
  | settle (position : Nat)

section
variable {α : Type}

/-- Takes a step. -/
def step (s : Scopes) : Step α → Scopes
  | .acquire id auths =>
    let (store, events) := openScope s.store id auths
    { s with store, written := s.written ++ events }
  | .drop id =>
    let (store, events) := closeScope s.store id
    { s with store, pending := s.pending ++ events }
  | .operation o => { s with store := (s.store.perform o).1 }
  | .settle position =>
    match s.pending[position]? with
    | none => s
    | some event => { s with written := s.written ++ [event], pending := s.pending.eraseIdx position }

/-- What a history leaves of a state. -/
def after (s : Scopes) (history : List (Step α)) : Scopes := history.foldl step s

end

end Scopes

end BuildCredentials.Build
