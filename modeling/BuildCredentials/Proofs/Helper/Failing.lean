import BuildCredentials.Proofs.Helper.Asking
import BuildCredentials.Proofs.Lookup.Replies

/-!
# The one way in which the helper fails

If a build is set and the daemon's reply tells a record, the helper writes credentials on one line
(`runAsking_of_tells`, `line_toJson`). Whatever else happens comes to one outcome (`runAsking_of_not_tells`). An
answer to a question that the helper does not ask plays no part (`runAsking_congr`).
-/

set_option autoImplicit false

namespace BuildCredentials.Helper

open Registry (Record)
open Lookup (Client Reply)

/-! ## Outcomes -/

/-- What every lookup comes to that finds nothing. -/
def nothingFound : Outcome := ⟨false, "credentials not found in native keychain\n"⟩

section
variable {build? : Option String} {ask ask' : Asking} {action : String} {input : List UInt8}

/-- What an action comes to depends on the answer to its question alone. -/
theorem runAsking_congr (h : ∀ request ∈ question? build? action input, ask request = ask' request) :
    runAsking build? ask action input = runAsking build? ask' action input := by
  have hperform : perform (asking build? ask) () action input = perform (asking build? ask') () action input := by
    -- Only a `get` looks anything up.
    by_cases hget : action = "get"
    · subst hget
      unfold perform
      cases hurl : readServerUrl input with
      | error f => rfl
      | ok url =>
        have hlook : lookUp build? ask url = lookUp build? ask' url := by
          cases build? with
          | none => rfl
          | some build =>
            have hask := h ⟨build, url⟩ (by simp [question?, hurl])
            rw [lookUp, lookUp, hask]
        show (lookUp build? ask url >>= _) = (lookUp build? ask' url >>= _)
        rw [hlook]
    · rw [perform, perform, if_neg hget, if_neg hget]
      rfl
  rw [runAsking, run, hperform]
  rfl

/-- Credentials are written on one line, and read back from it. -/
theorem line_toJson (found : Credentials) : ∃ text : String, line found.toJson = text ++ "\n" ∧
    '\n' ∉ text.toList ∧ Credentials.parse (Utf8.encode text) = .ok found := by
  have hplain : found.toJson.Plain := Json.Shape.plain_toJson Credentials.shape found.values
  exact ⟨found.toJson.render, rfl, hplain.newline_not_mem_render, found.parse_toJson⟩

end

section
variable {c : Client} {reply : Reply} {build? : Option String} {u : String} (hu : Text.trim u ≠ "")
include hu

theorem runAsking_of_tells {build : String} {record : Record} (h : c.Tells reply record) :
    runAsking (some build) (c.fetch · reply) "get" (Utf8.encode u) =
      ⟨true, line (Credentials.toJson ⟨Text.trim u, record.username, record.password⟩)⟩ :=
  runAsking_of_found (readServerUrl_encode hu) (lookUp_of_ok (Client.fetch_eq_ok_iff.2 h))

theorem runAsking_of_not_tells (h : build? ≠ none → ∀ record, ¬c.Tells reply record) :
    runAsking build? (c.fetch · reply) "get" (Utf8.encode u) = nothingFound := by
  refine runAsking_of_notFound (readServerUrl_encode hu) (lookUp_of_forall_ne fun build hb record hask => ?_)
  exact h (by rw [hb]; exact nofun) record (Client.fetch_eq_ok_iff.1 hask)

end

/-- A `get` of an address, whatever the daemon does. It succeeds just if a build is set and the daemon's reply
tells a record; then it writes one line, which is read as credentials for the address with the name and the
password of the record. Whatever else happens, the outcome is one and the same. Nobody is asked but about the
question of the call, and without a build there is none. Of the bytes that a daemon may send, some are an answer of
each status that has a body, with any body. -/
theorem helper_fails_in_one_way (c : Client) (reply : Reply) (build? : Option String) {u : String}
    (hu : Text.trim u ≠ "") :
    let outcome := runAsking build? (c.fetch · reply) "get" (Utf8.encode u)
    (outcome.success = true ↔ build? ≠ none ∧ ∃ record, c.Tells reply record) ∧
    (∀ record, build? ≠ none → c.Tells reply record → ∃ text : String, outcome.output = text ++ "\n" ∧
      '\n' ∉ text.toList ∧
      Credentials.parse (Utf8.encode text) = .ok ⟨Text.trim u, record.username, record.password⟩) ∧
    (outcome.success = false → outcome = nothingFound) ∧
    (∀ ask : Asking, (∀ request ∈ question? build? "get" (Utf8.encode u), ask request = c.fetch request reply) →
      runAsking build? ask "get" (Utf8.encode u) = outcome) ∧
    (build? = none → question? build? "get" (Utf8.encode u) = none) ∧
    ∀ status body, 100 ≤ status → status < 1000 → Http.isInterim status = false → status ∉ [101, 204, 304] →
      c.waits → c.received? (.bytes (Http.plainAnswer status body)) = some (status, body) := by
  intro outcome
  refine ⟨?_, fun record hb htells => ?_, ?_, fun ask hask => runAsking_congr hask, ?_,
    fun status body hl hlt hi hs waits => Client.received?_plainAnswer waits hl hlt hi hs body⟩
  · constructor
    · intro hsuccess
      by_contra hnone
      have hfail : outcome = nothingFound :=
        runAsking_of_not_tells hu fun hb record htells => hnone ⟨hb, record, htells⟩
      rw [hfail] at hsuccess
      cases hsuccess
    · rintro ⟨hb, record, htells⟩
      obtain ⟨build, rfl⟩ := Option.ne_none_iff_exists'.1 hb
      exact congrArg Outcome.success (runAsking_of_tells hu htells)
  · obtain ⟨build, rfl⟩ := Option.ne_none_iff_exists'.1 hb
    have houtput : outcome.output = line _ := congrArg Outcome.output (runAsking_of_tells hu htells)
    rw [houtput]
    exact line_toJson _
  · intro hfailed
    refine runAsking_of_not_tells hu fun hb record htells => ?_
    obtain ⟨build, rfl⟩ := Option.ne_none_iff_exists'.1 hb
    have hsuccess : outcome.success = true := congrArg Outcome.success (runAsking_of_tells hu htells)
    cases hfailed.symm.trans hsuccess
  · rintro rfl
    exact question?_none "get"

/-- A helper is sent a record as a success, and the same record as an error of the daemon. -/
theorem helper_fails_in_one_way_on_error_with_record :
    let c : Client := { socket := "finch.sock" }
    let alice : Record := { username := "alice", password := "line\nbreak" }
    let body := Utf8.encode alice.toJson.render
    let outcome (status : Nat) :=
      runAsking (some "b") (c.fetch · (.bytes (Http.plainAnswer status body))) "get" (Utf8.encode " ghcr.io\n")
    (outcome 200).success = true ∧ outcome 500 = nothingFound := by
  intro c alice body outcome
  have hu : Text.trim " ghcr.io\n" ≠ "" := by decide
  have ok := helper_fails_in_one_way c (.bytes (Http.plainAnswer 200 body)) (some "b") hu
  have failed := helper_fails_in_one_way c (.bytes (Http.plainAnswer 500 body)) (some "b") hu
  have arrives (status : Nat) := ok.2.2.2.2.2 status body
  refine ⟨ok.1.2 ⟨nofun, alice, 200, body, ?_, by decide, alice.parse_toJson⟩, failed.2.2.1 ?_⟩
  · exact arrives 200 (by decide) (by decide) (by decide) (by decide) (by decide)
  · rw [← Bool.not_eq_true]
    intro hsuccess
    obtain ⟨-, record, status, _, hr, hs, -⟩ := failed.1.1 hsuccess
    cases (arrives 500 (by decide) (by decide) (by decide) (by decide) (by decide)).symm.trans hr
    omega

end BuildCredentials.Helper
