import BuildCredentials.Lookup.Session
import BuildCredentials.Proofs.Peer.Admission
import BuildCredentials.Proofs.Store.History

/-!
# What the endpoint discloses, and to whom

A record leaves the endpoint in one way only: in the answer to an admitted peer that names a build and an
address, out of what the build is left with at that time (`entitled_of_status`). Handling a request leaves
the store alone (`store_handle`), so a session leaves it as its operations do (`after_eq_run`).
-/

set_option autoImplicit false

namespace BuildCredentials.Lookup

open Registry Store

/-! ## Lookups -/

theorem answer_of_ok {store : Store} {asked : Request} {record : Record} {kind : MatchKind}
    (h : store.resolve ⟨asked.build⟩ asked.address = .ok (record, kind)) :
    answer store asked =
      (store, .json 200 record.toJson, [.served ⟨asked.build⟩ asked.address kind]) := by
  simp [answer, h]

theorem answer_of_error {store : Store} {asked : Request} {f : Error}
    (h : store.resolve ⟨asked.build⟩ asked.address = .error f) :
    answer store asked = (store, failure f.kind, [.denied ⟨asked.build⟩ asked.address]) := by
  simp [answer, h]

/-! ## Requests and the store -/

section
variable (e : Endpoint) (store : Store) (connection? : Option Peer.Connection) (request : Http.Request)

theorem store_answer (asked : Request) : (answer store asked).1 = store := by
  cases h : store.resolve ⟨asked.build⟩ asked.address with
  | error f => rw [answer_of_error h]
  | ok found => rw [answer_of_ok h]

theorem store_answerBody (body : List UInt8) : (answerBody store body).1 = store := by
  unfold answerBody
  split
  · rfl
  · cases Request.read body with
    | error f => rfl
    | ok asked => exact store_answer store asked

theorem store_route : (route store request).1 = store := by
  unfold route
  split
  · rfl
  · split
    · exact store_answerBody store request.body
    · rfl

/-- A request changes nothing that is stored, whether its peer is admitted or not. -/
theorem store_handle : (e.handle store connection? request).1 = store := by
  unfold Endpoint.handle
  cases e.verdict connection? with
  | error reason => rfl
  | ok peer => exact store_route store request

end

/-! ## Answers with a record -/

theorem status_ne_200 (kind : ErrorKind) : status kind ≠ 200 := by cases kind <;> decide

@[simp] theorem status_withAllowed (request : Http.Request) (response : Http.Response) :
    (withAllowed request response).status = response.status := by
  unfold withAllowed
  split <;> rfl

@[simp] theorem body_withAllowed (request : Http.Request) (response : Http.Response) :
    (withAllowed request response).body = response.body := by
  unfold withAllowed
  split <;> rfl

@[simp] theorem status_withoutBody (request : Http.Request) (response : Http.Response) :
    (withoutBody request response).status = response.status := by
  unfold withoutBody
  split <;> rfl

theorem body_withoutBody (request : Http.Request) (response : Http.Response) :
    (withoutBody request response).body = if request.method = "HEAD" then "" else response.body := by
  unfold withoutBody
  split <;> rfl

/-- `request` is a lookup of what `asked` names. -/
structure Asks (request : Http.Request) (asked : Request) : Prop where
  path : request.path = path
  method : request.method ∈ allowedMethods
  size : request.body.length ≤ bodyLimit
  body : Request.read request.body = .ok asked

section
variable {e : Endpoint} {store : Store} {connection? : Option Peer.Connection} {request : Http.Request}
  {asked : Request}

theorem route_of_asks (h : Asks request asked) : route store request = answer store asked := by
  rw [route, if_neg (not_not_intro h.path), if_pos h.method, answerBody, if_neg (Nat.not_lt.2 h.size), h.body]

theorem read_of_status {body : List UInt8} (h : (answerBody store body).2.1.status = 200) :
    body.length ≤ bodyLimit ∧ ∃ asked, Request.read body = .ok asked := by
  unfold answerBody at h
  split at h
  · cases h
  · rename_i hl
    cases hr : Request.read body with
    | error f =>
      rw [hr] at h
      exact absurd h (status_ne_200 f.kind)
    | ok asked => exact ⟨Nat.not_lt.1 hl, asked, rfl⟩

theorem asks_of_status (h : (route store request).2.1.status = 200) : ∃ asked, Asks request asked := by
  unfold route at h
  split at h
  · cases h
  · rename_i hp
    split at h
    · rename_i hm
      obtain ⟨hl, asked, hr⟩ := read_of_status h
      exact ⟨asked, Decidable.not_not.1 hp, hm, hl, hr⟩
    · cases h

theorem resolve_of_status (h : (answer store asked).2.1.status = 200) :
    ∃ record kind, store.resolve ⟨asked.build⟩ asked.address = .ok (record, kind) := by
  cases hr : store.resolve ⟨asked.build⟩ asked.address with
  | error f =>
    rw [answer_of_error hr] at h
    exact absurd h (status_ne_200 f.kind)
  | ok found => exact ⟨found.1, found.2, rfl⟩

theorem handle_of_verdict {peer : Peer.Identity} (h : e.verdict connection? = .ok peer) :
    (e.handle store connection? request).2.1 =
      withoutBody request (withAllowed request (route store request).2.1) := by
  rw [Endpoint.handle, h]

/-- Asked for by GET, an admitted peer gets just what its body is answered with. -/
theorem respond_of_get {peer : Peer.Identity} (h : e.verdict connection? = .ok peer) (hp : request.path = path)
    (hm : request.method = "GET") :
    (e.respond store connection? request).1 = (answerBody store request.body).2.1 := by
  have allowed : request.method ∈ allowedMethods := by rw [hm]; decide
  have whole : ¬request.method = "HEAD" := by rw [hm]; decide
  rw [Endpoint.respond, handle_of_verdict h, route, if_neg (not_not_intro hp), if_pos allowed, withAllowed,
    if_neg fun hn => hn.2 allowed, withoutBody, if_neg whole]

theorem verdict_of_status (h : (e.handle store connection? request).2.1.status = 200) :
    ∃ peer, e.verdict connection? = .ok peer := by
  cases hv : e.verdict connection? with
  | error reason =>
    rw [Endpoint.handle, hv] at h
    simp only [status_withoutBody, status_withAllowed] at h
    exact absurd h (status_ne_200 (Error.peerRejected reason).kind)
  | ok peer => exact ⟨peer, rfl⟩

theorem verdict_eq_ok_iff {peer : Peer.Identity} :
    e.verdict connection? = .ok peer ↔
      ∃ connection, connection? = some connection ∧ Peer.IsGrandchild e.daemon e.parent connection peer := by
  cases connection? with
  | none => simp [Endpoint.verdict]
  | some connection => simp [Endpoint.verdict, Peer.verdict_examine_eq_ok_iff]

end

section
variable {α : Type} {e : Endpoint} {history : List (Operation α)} {connection? : Option Peer.Connection}
  {request : Http.Request}

/-- A grandchild of the daemon asks for `record`: it is what the build that `request` names is left with after
`history`, at the key that answers the requested address. -/
structure Entitled (e : Endpoint) (history : List (Operation α)) (connection? : Option Peer.Connection)
    (request : Http.Request) (record : Record) : Prop where
  peer : ∃ connection peer, connection? = some connection ∧
    Peer.IsGrandchild e.daemon e.parent connection peer
  record : ∃ asked auths key kind, Asks request asked ∧ held? ⟨asked.build⟩ history = some auths ∧
    Registry.resolve auths asked.address = some (key, kind) ∧ auths[key]? = some record

/-- A record is given away to those alone who are entitled to it. -/
theorem entitled_of_status (h : (e.handle (run ∅ history) connection? request).2.1.status = 200) :
    ∃ record, Entitled e history connection? request record := by
  obtain ⟨peer, hv⟩ := verdict_of_status h
  rw [handle_of_verdict hv, status_withoutBody, status_withAllowed] at h
  obtain ⟨asked, hasks⟩ := asks_of_status h
  rw [route_of_asks hasks] at h
  obtain ⟨record, kind, hr⟩ := resolve_of_status h
  obtain ⟨auths, key, hheld, hkey, hrecord⟩ := resolve_eq_ok_iff.1 hr
  rw [getElem?_run] at hheld
  obtain ⟨connection, hc, hg⟩ := verdict_eq_ok_iff.1 hv
  exact ⟨record, ⟨connection, peer, hc, hg⟩, asked, auths, key, kind, hasks, hheld, hkey, hrecord⟩

theorem handle_of_entitled {record : Record} (h : Entitled e history connection? request record) :
    (e.handle (run ∅ history) connection? request).2.1 = withoutBody request (.json 200 record.toJson) := by
  obtain ⟨⟨connection, peer, hc, hg⟩, asked, auths, key, kind, hasks, hheld, hkey, hrecord⟩ := h
  have hr : (run ∅ history).resolve ⟨asked.build⟩ asked.address = .ok (record, kind) :=
    resolve_eq_ok_iff.2 ⟨auths, key, by rw [getElem?_run]; exact hheld, hkey, hrecord⟩
  rw [handle_of_verdict (verdict_eq_ok_iff.2 ⟨connection, hc, hg⟩), route_of_asks hasks, answer_of_ok hr,
    withAllowed, if_neg fun hn => hn.2 hasks.method]

/-! ## Sessions -/

/-- The operation of a step, if it is one. -/
def Step.operation? : Step α → Option (Operation α)
  | .operation o => some o
  | .request _ _ => none

/-- The operations of a session. -/
def operations (steps : List (Step α)) : List (Operation α) := steps.filterMap Step.operation?

/-- A session leaves the store as its operations alone do. -/
theorem after_eq_run (e : Endpoint) (store : Store) (steps : List (Step α)) :
    e.after store steps = store.run (operations steps) := by
  induction steps generalizing store with
  | nil => rfl
  | cons s rest ih =>
    rw [Endpoint.after, List.foldl_cons, ← Endpoint.after, ih]
    cases s with
    | operation o => rfl
    | request connection? request =>
      simp only [Endpoint.step, store_handle]
      rfl

theorem getElem?_turns (e : Endpoint) (store : Store) (steps : List (Step α)) (i : Nat) :
    (e.turns store steps)[i]? = steps[i]?.map fun s => (e.step (e.after store (steps.take i)) s).2 := by
  induction steps generalizing store i with
  | nil => simp [Endpoint.turns]
  | cons s rest ih =>
    cases i with
    | zero => simp [Endpoint.turns, Endpoint.after]
    | succ i => simpa [Endpoint.turns, Endpoint.after] using ih (e.step store s).1 i

/-- Over any session, whatever its steps and their order: a request is answered with 200 just if a grandchild
of the daemon asks for a record that the named build is left with at that time, and the body is then that
record; and no request changes what is stored, neither at its step nor over the session. -/
theorem disclosure_safe (e : Endpoint) (steps : List (Step α)) :
    (∀ i connection? request, steps[i]? = some (.request connection? request) →
      ∃ response events, (e.turns ∅ steps)[i]? = some ⟨.response response, events⟩ ∧
        (response.status = 200 ↔
          ∃ record, Entitled e (operations (steps.take i)) connection? request record) ∧
        ∀ record, Entitled e (operations (steps.take i)) connection? request record →
          response.body = if request.method = "HEAD" then "" else record.toJson.render) ∧
    (∀ i connection? request, steps[i]? = some (.request connection? request) →
      e.after ∅ (steps.take (i + 1)) = e.after ∅ (steps.take i)) ∧
    e.after ∅ steps = run ∅ (operations steps) := by
  refine ⟨fun i connection? request hs => ?_, fun i connection? request hs => ?_, after_eq_run e ∅ steps⟩
  · refine ⟨_, _, by rw [getElem?_turns, hs, after_eq_run]; rfl, ⟨entitled_of_status, ?_⟩, ?_⟩
    · rintro ⟨record, hr⟩
      rw [handle_of_entitled hr, status_withoutBody]
      rfl
    · intro record hr
      rw [handle_of_entitled hr, body_withoutBody]
      rfl
  · rw [List.take_add_one, hs, Option.toList_some, Endpoint.after, List.foldl_append]
    exact store_handle e _ connection? request

end

/-- The pair of `b` and `a` as a lookup of `a` in the build `b`. -/
theorem read_pair : Request.read [91, 34, 98, 34, 44, 34, 97, 34, 93] = .ok ⟨"b", "a"⟩ := by
  have hb : Json.readText [34, 98, 34, 44, 34, 97, 34, 93] = .ok ("b", [44, 34, 97, 34, 93]) := by
    show Json.readString _ = _
    rw [Json.readString, Json.readStringBytes, Json.readStringBytes]
    rfl
  have ha : Json.readText [34, 97, 34, 93] = .ok ("a", [93]) := by
    show Json.readString _ = _
    rw [Json.readString, Json.readStringBytes, Json.readStringBytes]
    rfl
  have hitems : Request.shape.readItems 0 ["buildID", "serverAddr"] [34, 98, 34, 44, 34, 97, 34, 93] =
      .ok (["b", "a"], []) := by
    simp [Json.Shape.readItems, Json.nextItem, Json.skipBlanks, Json.isBlank, Json.afterComma, hb, ha,
      Except.map, Json.endArray]
  have hparse : Request.parse [91, 34, 98, 34, 44, 34, 97, 34, 93] = .ok ⟨"b", "a"⟩ := by
    have hread : Request.shape.read [91, 34, 98, 34, 44, 34, 97, 34, 93] = .ok (["b", "a"], []) := hitems
    rw [Request.parse, Json.Shape.parse, hread]
    rfl
  rw [Request.read, hparse]
  rfl

/-- A grandchild gets the record that was put for its build last, beside a build that came and went. -/
theorem disclosure_safe_to_grandchild :
    let endpoint : Endpoint := ⟨⟨1000, 1000, 10⟩, .ofParents [(30, 20), (20, 10)]⟩
    let alice : Record := .basic "a" "alice" "secret"
    let steps : List (Step Unit) := [
      .operation (.put ⟨"b"⟩ ∅), .operation (.put ⟨"c"⟩ ∅),
      .operation (.replace ⟨"b"⟩ (Auths.ofRecords [("a", alice)])), .operation (.remove ⟨"c"⟩),
      .request (some (.unix (.ok ⟨1000, 1000, some 30⟩)))
        { path := path, body := [91, 34, 98, 34, 44, 34, 97, 34, 93] }]
    ∃ response events, (endpoint.turns ∅ steps)[4]? = some ⟨.response response, events⟩ ∧
      response.status = 200 ∧ response.body = alice.toJson.render := by
  intro endpoint alice steps
  obtain ⟨response, events, hturn, hstatus, hbody⟩ := (disclosure_safe endpoint steps).1 4 _ _ rfl
  have hentitled : Entitled endpoint (operations (steps.take 4)) (some (.unix (.ok ⟨1000, 1000, some 30⟩)))
      { path := path, body := [91, 34, 98, 34, 44, 34, 97, 34, 93] } alice := by
    refine ⟨⟨_, ⟨1000, 1000, 30⟩, rfl, rfl, rfl, rfl, 20, rfl, rfl⟩, ⟨"b", "a"⟩, ?_⟩
    exact ⟨_, "a", .verbatim, ⟨rfl, by decide, by decide, read_pair⟩, rfl, rfl, rfl⟩
  exact ⟨response, events, hturn, hstatus.2 ⟨alice, hentitled⟩, hbody alice hentitled⟩

end BuildCredentials.Lookup
