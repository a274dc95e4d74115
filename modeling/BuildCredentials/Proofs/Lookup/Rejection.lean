import BuildCredentials.Proofs.Lookup.Disclosure

/-!
# What a rejected peer learns

Every rejection is answered alike. Two rejected requests for the same target by the same method get one and the
same answer (`rejection_reveals_nothing`): it tells nothing of the check that failed, of what was sent, or of
what is stored.
-/

set_option autoImplicit false

namespace BuildCredentials.Lookup

section
variable {e e' : Endpoint} {store store' : Store} {connection? connection'? : Option Peer.Connection}
  {request request' : Http.Request} {reason reason' : Peer.Rejection}

/-- The answer to a rejected peer is made of the method and the path alone. -/
theorem respond_of_rejected (h : e.verdict connection? = .error reason) :
    (e.respond store connection? request).1 =
      withoutBody request (withAllowed request (failure .unauthorized)) := by
  rw [Endpoint.respond, Endpoint.handle, h]
  rfl

theorem withoutBody_congr (h : request.method = request'.method) (response : Http.Response) :
    withoutBody request response = withoutBody request' response := by
  rw [withoutBody, withoutBody, h]

theorem withAllowed_congr (hm : request.method = request'.method) (hp : request.path = request'.path)
    (response : Http.Response) : withAllowed request response = withAllowed request' response := by
  rw [withAllowed, withAllowed, hm, hp]

theorem body_failure_unauthorized :
    (failure .unauthorized).body = "\x7b\"message\":\"unauthorized\"\x7d" := by decide +kernel

/-- Rejected requests of one method and one target are answered alike, whatever the daemons, the checks that
failed, the bodies and the stores: with 401 and the message that says no more than that. -/
theorem rejection_reveals_nothing (h : e.verdict connection? = .error reason)
    (h' : e'.verdict connection'? = .error reason') (hm : request.method = request'.method)
    (hp : request.path = request'.path) :
    (e.respond store connection? request).1 = (e'.respond store' connection'? request').1 ∧
      (e.respond store connection? request).1.status = 401 ∧
      (e.respond store connection? request).1.body =
        if request.method = "HEAD" then "" else "\x7b\"message\":\"unauthorized\"\x7d" := by
  rw [respond_of_rejected h, respond_of_rejected h']
  refine ⟨?_, ?_, ?_⟩
  · rw [withAllowed_congr hm hp, withoutBody_congr hm]
  · rw [status_withoutBody, status_withAllowed]
    rfl
  · rw [body_withoutBody, body_withAllowed, body_failure_unauthorized]

end

/-- A stranger over the network who sends no lookup, and a process of another user who sends a good one for a
build that is stored, are told the same. -/
theorem rejection_reveals_nothing_of_stored_build :
    let daemon : Peer.Identity := ⟨1000, 1000, 10⟩
    let alone : Endpoint := ⟨daemon, .ofParents []⟩
    let watched : Endpoint := ⟨daemon, .ofParents [(30, 20), (20, 10)]⟩
    let stored : Store := Store.put ∅ ⟨"b"⟩ ∅
    let junk : Http.Request := { path := path, body := [0] }
    let asked : Http.Request := { path := path, body := Utf8.encode "[\"b\",\"ghcr.io\"]" }
    alone.verdict (some .network) = .error .notLocal ∧
      watched.verdict (some (.unix (.ok ⟨1001, 1000, some 30⟩))) = .error .uidMismatch ∧
      (alone.respond ∅ (some .network) junk).1 =
        (watched.respond stored (some (.unix (.ok ⟨1001, 1000, some 30⟩))) asked).1 ∧
      (alone.respond ∅ (some .network) junk).1.status = 401 ∧
      (alone.respond ∅ (some .network) junk).1.body = "\x7b\"message\":\"unauthorized\"\x7d" :=
  ⟨rfl, rfl, rejection_reveals_nothing rfl rfl rfl rfl⟩

end BuildCredentials.Lookup
