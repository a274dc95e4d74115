import BuildCredentials.Proofs.Lookup.Disclosure
import BuildCredentials.Proofs.Lookup.Wire

/-!
# What an answer tells

An admitted peer that asks for a lookup gets one of three answers: the record that is resolved, one answer to
every lookup that resolves nothing, or one answer to every body that asks for no lookup
(`answer_tells_lookup_alone`). So an answer tells nothing of the store but what the lookup resolves.
-/

set_option autoImplicit false

namespace BuildCredentials.Lookup

open Json (ObjectText)
open Registry (Record MatchKind)

/-- The answer to every lookup that resolves nothing. -/
def nothingFound : Http.Response where
  status := 404
  contentType? := some "application/json"
  body := "\x7b\"message\":\"credentials not found\"\x7d"

/-- The answer to every body that asks for no lookup. -/
def notUnderstood : Http.Response where
  status := 400
  contentType? := some "application/json"
  body := "\x7b\"message\":\"malformed request\"\x7d"

theorem failure_notFound : failure .notFound = nothingFound := by decide +kernel

theorem failure_malformed : failure .malformed = notUnderstood := by decide +kernel

/-! ## Bodies -/

section
variable {body : List UInt8} {asked : Request}

/-- A body asks for a lookup if it is a request and names a build and an address. -/
theorem read_eq_ok_iff : Request.read body = .ok asked ↔
    Request.parse body = .ok asked ∧ asked.build ≠ "" ∧ asked.address ≠ "" := by
  rw [Request.read]
  cases Request.parse body with
  | error f => simp
  | ok r =>
    show (if r.build = "" then _ else if r.address = "" then _ else _) = _ ↔ _
    constructor
    · intro h
      split at h
      · cases h
      · next hb =>
        split at h
        · cases h
        · next ha =>
          cases h
          exact ⟨rfl, hb, ha⟩
    · rintro ⟨⟨⟩, hb, ha⟩
      rw [if_neg hb, if_neg ha]

/-- Every other body is malformed. -/
theorem kind_of_read_error {f : Error} (h : Request.read body = .error f) : f.kind = .malformed := by
  rw [Request.read] at h
  split at h
  · cases h
    rfl
  · split at h
    · cases h
      rfl
    · split at h
      · cases h
        rfl
      · cases h

theorem parse_object_iff {o : ObjectText} : Request.parse o.bytes = .ok asked ↔ o.Carries false asked.named :=
  Request.represents.parse_object_iff

theorem not_ok_parse_trailing {o : ObjectText} {b : UInt8} {rest : List UInt8} (hb : Json.isBlank b = false) :
    Request.parse (o.bytes ++ b :: rest) ≠ .ok asked := by
  intro h
  rw [Request.parse] at h
  cases hs : Request.shape.parse (o.bytes ++ b :: rest) with
  | error f =>
    rw [hs] at h
    cases h
  | ok vs => exact Json.Shape.not_ok_parse_trailing hb hs

end

/-! ## Answers -/

/-- An admitted peer asks where lookups are, by GET, with a body that is not too long. -/
structure AdmittedGet (e : Endpoint) (connection? : Option Peer.Connection) (request : Http.Request) : Prop where
  admitted : ∃ peer, e.verdict connection? = .ok peer
  path : request.path = path
  method : request.method = "GET"
  size : request.body.length ≤ bodyLimit

section
variable {e : Endpoint} {connection? : Option Peer.Connection} {request : Http.Request} {store : Store}
  {asked : Request}

theorem AdmittedGet.respond (h : AdmittedGet e connection? request) :
    (e.respond store connection? request).1 =
      match Request.read request.body with
      | .error f => failure f.kind
      | .ok asked => (answer store asked).2.1 := by
  obtain ⟨peer, hv⟩ := h.admitted
  rw [respond_of_get hv h.path h.method, answerBody, if_neg (Nat.not_lt.2 h.size)]
  cases Request.read request.body with
  | error f | ok asked => rfl

theorem respond_of_resolve_ok (h : AdmittedGet e connection? request) (hread : Request.read request.body = .ok asked)
    {record : Record} {kind : MatchKind} (hr : store.resolve ⟨asked.build⟩ asked.address = .ok (record, kind)) :
    (e.respond store connection? request).1 = .json 200 record.toJson := by
  rw [h.respond, hread]
  show (answer store asked).2.1 = _
  rw [answer_of_ok hr]

theorem respond_of_resolve_error (h : AdmittedGet e connection? request)
    (hread : Request.read request.body = .ok asked) {f : Error}
    (hr : store.resolve ⟨asked.build⟩ asked.address = .error f) :
    (e.respond store connection? request).1 = nothingFound := by
  rw [h.respond, hread]
  show (answer store asked).2.1 = _
  rw [answer_of_error hr, Store.kind_of_resolve_error hr]
  exact failure_notFound

theorem respond_of_not_asking (h : AdmittedGet e connection? request)
    (hnone : ∀ asked, Request.read request.body ≠ .ok asked) :
    (e.respond store connection? request).1 = notUnderstood := by
  rw [h.respond]
  cases hread : Request.read request.body with
  | ok asked => exact absurd hread (hnone asked)
  | error f =>
    show failure f.kind = _
    rw [kind_of_read_error hread]
    exact failure_malformed

/-- What an admitted peer is answered, whatever is stored. A body that is a request for a build and an address
gets the record that is resolved for it; and if none is, for whatever reason, the one answer that all lookups get
that find nothing. Every other body gets the one answer to what is no request. An object is a request just if it
carries both fields, and what has more than blanks behind an object is none. -/
theorem answer_tells_lookup_alone (h : AdmittedGet e connection? request) (store : Store) :
    (∀ asked, Request.parse request.body = .ok asked → asked.build ≠ "" → asked.address ≠ "" →
      (∀ record kind, store.resolve ⟨asked.build⟩ asked.address = .ok (record, kind) →
        (e.respond store connection? request).1 = .json 200 record.toJson ∧
          Record.parse (Utf8.encode (e.respond store connection? request).1.body) = .ok record) ∧
      ∀ f, store.resolve ⟨asked.build⟩ asked.address = .error f →
        (e.respond store connection? request).1 = nothingFound) ∧
    ((∀ asked, Request.parse request.body = .ok asked → asked.build = "" ∨ asked.address = "") →
      (e.respond store connection? request).1 = notUnderstood) ∧
    ∀ o : ObjectText,
      (request.body = o.bytes → ∀ asked, Request.parse request.body = .ok asked ↔ o.Carries false asked.named) ∧
      ∀ b rest, Json.isBlank b = false → request.body = o.bytes ++ b :: rest →
        (e.respond store connection? request).1 = notUnderstood := by
  refine ⟨fun asked hparse hb ha => ?_, fun hempty => ?_, fun o => ⟨fun he asked => ?_, fun b rest hblank he => ?_⟩⟩
  · have hread : Request.read request.body = .ok asked := read_eq_ok_iff.2 ⟨hparse, hb, ha⟩
    refine ⟨fun record kind hr => ?_, fun f hr => respond_of_resolve_error h hread hr⟩
    have hrespond := respond_of_resolve_ok h hread hr
    exact ⟨hrespond, by rw [hrespond]; exact record.parse_toJson⟩
  · refine respond_of_not_asking h fun asked hread => ?_
    obtain ⟨hparse, hb, ha⟩ := read_eq_ok_iff.1 hread
    exact (hempty asked hparse).elim hb ha
  · rw [he]
    exact parse_object_iff
  · refine respond_of_not_asking h fun asked hread => ?_
    rw [he] at hread
    exact not_ok_parse_trailing hblank (read_eq_ok_iff.1 hread).1

end

/-- A grandchild asks for a build that is stored, for one that is not, and for none. -/
theorem answer_tells_lookup_alone_of_unknown_build :
    let endpoint : Endpoint := ⟨⟨1000, 1000, 10⟩, .ofParents [(30, 20), (20, 10)]⟩
    let alice : Record := .basic "a" "alice" "pass\\word"
    let store := Store.put ∅ ⟨"b"⟩ (Registry.Auths.ofRecords [("a", alice)])
    let told (body : String) : Http.Response :=
      (endpoint.respond store (some (.unix (.ok ⟨1000, 1000, some 30⟩))) { path := path, body := Utf8.encode body }).1
    told "\x7b\"buildID\":\"b\",\"serverAddr\":\"a\"\x7d" = .json 200 alice.toJson ∧
      told "\x7b\"buildID\":\"c\",\"serverAddr\":\"a\"\x7d" = nothingFound ∧
      told "\x7b\x7dx" = notUnderstood := by
  intro endpoint alice store told
  have admitted (body : String) (fits : (Utf8.encode body).length ≤ bodyLimit) :
      AdmittedGet endpoint (some (.unix (.ok ⟨1000, 1000, some 30⟩))) { path := path, body := Utf8.encode body } :=
    ⟨⟨⟨1000, 1000, 30⟩, rfl⟩, rfl, rfl, fits⟩
  have known := (answer_tells_lookup_alone (admitted (Request.toJson ⟨"b", "a"⟩).render (by decide +kernel)) store).1
    ⟨"b", "a"⟩ (Request.parse_toJson ⟨"b", "a"⟩) (by decide) (by decide)
  have unknown := (answer_tells_lookup_alone (admitted (Request.toJson ⟨"c", "a"⟩).render (by decide +kernel)) store).1
    ⟨"c", "a"⟩ (Request.parse_toJson ⟨"c", "a"⟩) (by decide) (by decide)
  have junk := (answer_tells_lookup_alone (admitted "\x7b\x7dx" (by decide +kernel)) store).2.2 (.ofTexts [])
  exact ⟨(known.1 alice .verbatim rfl).1, unknown.2 (.buildNotFound (BuildId.mk "c").fingerprint) rfl,
    junk.2 120 [] rfl rfl⟩

end BuildCredentials.Lookup
