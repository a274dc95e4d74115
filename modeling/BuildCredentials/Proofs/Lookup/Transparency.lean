import BuildCredentials.Lookup.Serving
import BuildCredentials.Proofs.Lookup.Rejection
import BuildCredentials.Proofs.Lookup.Replies

/-!
# The wire adds nothing and loses nothing

What a client is told is what the store answers. Requests, records and messages are read as they were written
(`Request.parse_body`, `Record.parse_toJson`, `Message.parse_toJson`), so that a lookup over a connection
comes to what the store resolves (`fetch_of_resolve_ok`, `fetch_of_resolve_error`), as long as it is admitted,
complete and not too long.
-/

set_option autoImplicit false

namespace BuildCredentials.Lookup

open Registry (Record MatchKind)

/-! ## Requests -/

theorem Request.parse_body (request : Request) :
    Request.parse (Utf8.encode (Client.body request)) = .ok request := parse_toJson request

theorem Request.read_body {request : Request} (hb : request.build ≠ "") (ha : request.address ≠ "") :
    Request.read (Utf8.encode (Client.body request)) = .ok request := by
  rw [read, parse_body]
  simp only [hb, ha, if_false]

theorem Request.read_body_of_empty {request : Request} (h : request.build = "" ∨ request.address = "") :
    ∃ reason, Request.read (Utf8.encode (Client.body request)) = .error (.malformedRequest reason) := by
  rw [read, parse_body]
  by_cases hb : request.build = ""
  · exact ⟨_, by simp only [hb, if_true]; rfl⟩
  · exact ⟨_, by simp only [hb, h.resolve_left hb, if_true, if_false]; rfl⟩

/-! ## What a client makes of an answer -/

section
variable {e : Endpoint} {store : Store} {connection : Peer.Connection} {request : Request}

theorem interpret_record (record : Record) :
    Client.interpret request 200 (Utf8.encode record.toJson.render) = .ok record :=
  Client.interpret_eq_ok_iff.2 ⟨by decide, record.parse_toJson⟩

theorem interpret_notFound (body : List UInt8) :
    Client.interpret request 404 body =
      .error (.credentialNotFound (BuildId.mk request.build).fingerprint request.address) := if_pos rfl

theorem interpret_failure (kind : ErrorKind) (h : kind ≠ .notFound) :
    Client.interpret request (status kind) (Utf8.encode (failure kind).body) =
      .error (.http (Http.statusText (status kind) ++ ": " ++ (message kind).text)) := by
  have hs : status kind ≠ 404 ∧ Http.isSuccess (status kind) = false := by
    cases kind with
    | notFound => exact absurd rfl h
    | unauthorized | malformed | internal => decide
  have hm : Client.messageOf (Utf8.encode (failure kind).body) = (message kind).text := by
    show Client.messageOf (Utf8.encode (message kind).toJson.render) = _
    rw [Client.messageOf, Message.parse_toJson]
  rw [Client.interpret, if_neg hs.1, if_pos (by rw [hs.2]; rfl), hm]

theorem messageOf_tooLong :
    Client.messageOf (Utf8.encode "Failed to buffer the request body: length limit exceeded") =
      "Failed to buffer the request body: length limit exceeded" := by decide +kernel

/-! ## Lookups over a connection -/

/-- The request that asks for what `request` names. -/
def sent (request : Request) : Http.Request := { path := path, body := Utf8.encode (Client.body request) }

theorem fetch_eq_interpret : (e.fetch store connection request).1 =
    let response := (e.respond store (some connection) (sent request)).1
    Client.interpret request response.status (Utf8.encode response.body) := rfl

theorem fetch_of_rejected {reason : Peer.Rejection} (h : e.verdict (some connection) = .error reason) :
    (e.fetch store connection request).1 = .error (.http "401 Unauthorized: unauthorized") := by
  rw [fetch_eq_interpret, respond_of_rejected h]
  exact interpret_failure .unauthorized (by decide)

theorem respond_sent {peer : Peer.Identity} (h : e.verdict (some connection) = .ok peer) :
    (e.respond store (some connection) (sent request)).1 = (answerBody store (sent request).body).2.1 :=
  respond_of_get h rfl rfl

/-- A client whose peer is admitted is told what its body is answered with. -/
theorem fetch_of_admitted {peer : Peer.Identity} (h : e.verdict (some connection) = .ok peer) :
    (e.fetch store connection request).1 =
      let response := (answerBody store (Utf8.encode (Client.body request))).2.1
      Client.interpret request response.status (Utf8.encode response.body) := by
  rw [fetch_eq_interpret, respond_sent h, sent]

end

section
variable {e : Endpoint} {store : Store} {connection : Peer.Connection} {request : Request} {peer : Peer.Identity}
  (h : e.verdict (some connection) = .ok peer)
include h

theorem fetch_of_too_long (hl : bodyLimit < (Utf8.encode (Client.body request)).length) :
    (e.fetch store connection request).1 =
      .error (.http "413 Payload Too Large: Failed to buffer the request body: length limit exceeded") := by
  rw [fetch_of_admitted h, answerBody, if_pos hl]
  show Client.interpret request 413 (Utf8.encode "Failed to buffer the request body: length limit exceeded") = _
  rw [Client.interpret, if_neg (by decide), if_pos (by decide), messageOf_tooLong]
  rfl

theorem fetch_of_empty (fits : (Utf8.encode (Client.body request)).length ≤ bodyLimit)
    (hempty : request.build = "" ∨ request.address = "") :
    (e.fetch store connection request).1 = .error (.http "400 Bad Request: malformed request") := by
  obtain ⟨reason, hr⟩ := Request.read_body_of_empty hempty
  rw [fetch_of_admitted h, answerBody, if_neg (Nat.not_lt.2 fits), hr]
  exact interpret_failure .malformed (by decide)

variable (fits : (Utf8.encode (Client.body request)).length ≤ bodyLimit) (hb : request.build ≠ "")
  (ha : request.address ≠ "")
include fits hb ha

theorem fetch_of_complete :
    (e.fetch store connection request).1 =
      let response := (answer store request).2.1
      Client.interpret request response.status (Utf8.encode response.body) := by
  rw [fetch_of_admitted h, answerBody, if_neg (Nat.not_lt.2 fits), Request.read_body hb ha]

theorem fetch_of_resolve_ok {record : Record} {kind : MatchKind}
    (hr : store.resolve ⟨request.build⟩ request.address = .ok (record, kind)) :
    (e.fetch store connection request).1 = .ok record := by
  rw [fetch_of_complete h fits hb ha, answer_of_ok hr]
  exact interpret_record record

theorem fetch_of_resolve_error {f : Error} (hr : store.resolve ⟨request.build⟩ request.address = .error f) :
    (e.fetch store connection request).1 =
      .error (.credentialNotFound (BuildId.mk request.build).fingerprint request.address) := by
  rw [fetch_of_complete h fits hb ha, answer_of_error hr, Store.kind_of_resolve_error hr]
  exact interpret_notFound _

/-- Over a connection that is admitted, a complete request gets the record that is resolved, or else is told
that there is none. -/
theorem fetch_of_complete_cases :
    (∀ record, (e.fetch store connection request).1 = .ok record ↔
      ∃ kind, store.resolve ⟨request.build⟩ request.address = .ok (record, kind)) ∧
    ((e.fetch store connection request).1 =
        .error (.credentialNotFound (BuildId.mk request.build).fingerprint request.address) ↔
      ∃ f, store.resolve ⟨request.build⟩ request.address = .error f) := by
  cases hr : store.resolve ⟨request.build⟩ request.address with
  | error f => simp [fetch_of_resolve_error h fits hb ha hr]
  | ok found =>
    obtain ⟨record, kind⟩ := found
    simp [fetch_of_resolve_ok h fits hb ha hr]

end

/-- A client gets no record but the one that is resolved, however it asks. -/
theorem resolve_of_fetch {e : Endpoint} {store : Store} {connection : Peer.Connection} {request : Request}
    {record : Record} (h : (e.fetch store connection request).1 = .ok record) :
    ∃ kind, store.resolve ⟨request.build⟩ request.address = .ok (record, kind) := by
  cases hv : e.verdict (some connection) with
  | error reason =>
    rw [fetch_of_rejected hv] at h
    cases h
  | ok peer =>
    by_cases fits : (Utf8.encode (Client.body request)).length ≤ bodyLimit
    · by_cases hempty : request.build = "" ∨ request.address = ""
      · rw [fetch_of_empty hv fits hempty] at h
        cases h
      · obtain ⟨hb, ha⟩ := not_or.1 hempty
        exact ((fetch_of_complete_cases hv fits hb ha).1 record).1 h
    · rw [fetch_of_too_long hv (Nat.lt_of_not_le fits)] at h
      cases h

/-- What a client is told, over any connection. If its peer is rejected that is all it learns. Else its request
is refused if it is longer than what is read of one, or if it names no build or no address; and if it names
both, whatever characters they are made of, the client gets just what the store resolves. -/
theorem fetch_transparent (e : Endpoint) (store : Store) (connection : Peer.Connection) (request : Request) :
    (∀ reason, e.verdict (some connection) = .error reason →
      (e.fetch store connection request).1 = .error (.http "401 Unauthorized: unauthorized")) ∧
    ∀ peer, e.verdict (some connection) = .ok peer →
      (bodyLimit < (Utf8.encode (Client.body request)).length → (e.fetch store connection request).1 =
        .error (.http "413 Payload Too Large: Failed to buffer the request body: length limit exceeded")) ∧
      ((Utf8.encode (Client.body request)).length ≤ bodyLimit →
        (request.build = "" ∨ request.address = "" →
          (e.fetch store connection request).1 = .error (.http "400 Bad Request: malformed request")) ∧
        (request.build ≠ "" → request.address ≠ "" →
          (∀ record, (e.fetch store connection request).1 = .ok record ↔
            ∃ kind, store.resolve ⟨request.build⟩ request.address = .ok (record, kind)) ∧
          ((e.fetch store connection request).1 =
              .error (.credentialNotFound (BuildId.mk request.build).fingerprint request.address) ↔
            ∃ f, store.resolve ⟨request.build⟩ request.address = .error f))) :=
  ⟨fun _ h => fetch_of_rejected h, fun _ h => ⟨fetch_of_too_long h, fun fits =>
    ⟨fetch_of_empty h fits, fun hb ha => fetch_of_complete_cases h fits hb ha⟩⟩⟩

/-- A grandchild asks for a build whose name has a quote and a line break in it, and gets its record. -/
theorem fetch_transparent_of_quoted_name :
    let endpoint : Endpoint := ⟨⟨1000, 1000, 10⟩, .ofParents [(30, 20), (20, 10)]⟩
    let alice : Record := .basic "a" "alice" "pass\\word"
    let store := Store.put ∅ ⟨"\"b\n"⟩ (Registry.Auths.ofRecords [("a", alice)])
    (endpoint.fetch store (.unix (.ok ⟨1000, 1000, some 30⟩)) ⟨"\"b\n", "a"⟩).1 = .ok alice := by
  intro endpoint alice store
  have fits : (Utf8.encode (Client.body ⟨"\"b\n", "a"⟩)).length ≤ bodyLimit := by decide +kernel
  have hread := ((fetch_transparent endpoint store (.unix (.ok ⟨1000, 1000, some 30⟩)) ⟨"\"b\n", "a"⟩).2
    ⟨1000, 1000, 30⟩ rfl).2 fits
  exact ((hread.2 (by decide) (by decide)).1 alice).2 ⟨.verbatim, rfl⟩

end BuildCredentials.Lookup
