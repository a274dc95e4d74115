import BuildCredentials.Build.Id
import BuildCredentials.Json.Value
import BuildCredentials.Peer.Guard
import BuildCredentials.Registry.Matching

/-!
# Entries of the audit log

Each thing that happens to credentials is one line of JSON with the members data, event and timestamp. Lines
name builds by fingerprint and registries by address, and no secret stands in them.
-/

set_option autoImplicit false

namespace BuildCredentials.Audit

/-- What happened to credentials. -/
inductive Event where
  /-- A build's credentials for some registries were stored. -/
  | stored (build : BuildId) (registries : List String)
  | removed (build : BuildId)
  /-- A lookup was answered with a record. -/
  | served (build : BuildId) (address : String) (kind : Registry.MatchKind)
  /-- A lookup found no record. -/
  | denied (build : BuildId) (address : String)
  /-- A peer may not ask. -/
  | rejected (reason : Peer.Rejection)
  deriving DecidableEq, Repr

/-- A named event with its data. -/
structure Entry where
  event : String
  data : Json
  deriving Repr

namespace Event

/-- The name of an event. -/
def name : Event → String
  | .stored _ _ => "credentials.stored"
  | .removed _ => "credentials.removed"
  | .served _ _ _ => "credentials.served"
  | .denied _ _ => "credentials.denied"
  | .rejected _ => "peer.rejected"

/-- The build that an event is about, as a log shows it. -/
def reference (build : BuildId) : String × Json := ("build_ref", .text build.fingerprint)

/-- The data of an event. -/
def data : Event → Json
  | .stored build registries => .object [reference build, ("registries", .array (registries.map .text))]
  | .removed build => .object [reference build]
  | .served build address kind =>
    .object [reference build, ("server", .text address), ("match", .text kind.name)]
  | .denied build address => .object [reference build, ("server", .text address)]
  | .rejected reason => .object [("reason", .text reason.code)]

/-- The entry of an event. -/
def entry (e : Event) : Entry := ⟨e.name, e.data⟩

end Event

namespace Entry

/-- The record of an entry at a time, its members in the order of their names. -/
def toJson (e : Entry) (time : String) : Json :=
  (Json.object [("timestamp", .text time), ("event", .text e.event), ("data", e.data)]).sorted

/-- The line of an entry, without its end. -/
def line (e : Entry) (time : String) : String := (e.toJson time).render

end Entry

end BuildCredentials.Audit
