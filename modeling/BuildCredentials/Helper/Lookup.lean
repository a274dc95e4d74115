import BuildCredentials.Helper.Environment
import BuildCredentials.Helper.Protocol
import BuildCredentials.Lookup.Serving

/-!
# The helper of a build

The helper looks credentials up with the daemon, under the identifier that the engine passes on. It keeps
nothing itself, and a lookup that fails for whatever reason finds nothing.
-/

set_option autoImplicit false

namespace BuildCredentials.Helper

/-- How questions are put to the daemon. -/
abbrev Asking := Lookup.Request → Except Error Registry.Record

/-- Looks credentials up under the identifier of a build; without one there is nothing to find. -/
def lookUp (build? : Option String) (ask : Asking) (url : String) : Except Fault (String × String) :=
  match build? with
  | none => .error .notFound
  | some build =>
    match ask ⟨build, url⟩ with
    | .ok record => .ok (record.username, record.password)
    | .error _ => .error .notFound

/-- The helper that asks the daemon, and can do nothing else. -/
def asking (build? : Option String) (ask : Asking) : Backend Unit where
  add _ _ := .error .notImplemented
  erase _ _ := .error .notImplemented
  get _ url := lookUp build? ask url
  list _ := .error .notImplemented

/-- What a build engine sees of an action of this helper. -/
def runAsking (build? : Option String) (ask : Asking) (action : String) (input : List UInt8) : Outcome :=
  (run (asking build? ask) () action input).2

/-- The question that an action puts to the daemon, if it puts one. -/
def question? (build? : Option String) (action : String) (input : List UInt8) : Option Lookup.Request :=
  if action = "get" then
    match readServerUrl input, build? with
    | .ok url, some build => some ⟨build, url⟩
    | _, _ => none
  else none

/-- Runs an action of a helper whose socket leads to an endpoint, and says what happened to credentials. -/
def runOver (endpoint : Lookup.Endpoint) (store : Store) (connection : Peer.Connection) (build? : Option String)
    (action : String) (input : List UInt8) : Outcome × List Audit.Event :=
  let ask (request : Lookup.Request) := (endpoint.fetch store connection request).1
  let events := match question? build? action input with
    | some request => (endpoint.fetch store connection request).2
    | none => []
  (runAsking build? ask action input, events)

end BuildCredentials.Helper
