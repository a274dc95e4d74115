import BuildCredentials.Helper.Program
import BuildCredentials.Proofs.Json.Strings

/-!
# What the helper finds

A `get` of the helper finds credentials in one way only: the daemon that its socket leads to answers with a
record, and then it says what the record does (`finds_of_fetch`). Whatever else happens, it says that there are
none (`findsNothing_of_fetch`, `call_of_no_build`).
-/

set_option autoImplicit false

namespace BuildCredentials.Helper

open Registry (Record)

theorem readServerUrl_encode {url : String} (h : Text.trim url ≠ "") :
    readServerUrl (Utf8.encode url) = .ok (Text.trim url) := by
  rw [readServerUrl, readText, Utf8.decode?_encode]
  exact if_neg h

/-! ## One action -/

section
variable {σ : Type} {b : Backend σ} {state : σ} {action : String} {input : List UInt8} {fault : Fault}

theorem run_of_ok {after : σ} {output : String} (h : perform b state action input = .ok (after, output)) :
    run b state action input = (after, ⟨true, output⟩) := by
  rw [run, h]

theorem run_of_error (h : perform b state action input = .error fault) :
    run b state action input = (state, ⟨false, fault.message ++ "\n"⟩) := by
  rw [run, h]

variable {url : String} (hurl : readServerUrl input = .ok url)
include hurl

theorem run_get_of_ok {username secret : String} (h : b.get state url = .ok (username, secret)) :
    run b state "get" input = (state, ⟨true, line (Credentials.toJson ⟨url, username, secret⟩)⟩) := by
  apply run_of_ok
  rw [perform, if_pos rfl, hurl]
  show (b.get state url >>= _) = _
  rw [h]
  rfl

theorem run_get_of_error (h : b.get state url = .error fault) :
    run b state "get" input = (state, ⟨false, fault.message ++ "\n"⟩) := by
  apply run_of_error
  rw [perform, if_pos rfl, hurl]
  show (b.get state url >>= _) = _
  rw [h]
  rfl

end

/-! ## Lookups -/

section
variable {input : List UInt8} {url : String} {build? : Option String} {build : String} {ask : Asking}

theorem runAsking_of_found {username secret : String} (hurl : readServerUrl input = .ok url)
    (h : lookUp build? ask url = .ok (username, secret)) :
    runAsking build? ask "get" input = ⟨true, line (Credentials.toJson ⟨url, username, secret⟩)⟩ := by
  have hget : (asking build? ask).get () url = .ok (username, secret) := h
  rw [runAsking, run_get_of_ok hurl hget]

theorem runAsking_of_notFound (hurl : readServerUrl input = .ok url)
    (h : lookUp build? ask url = .error .notFound) :
    runAsking build? ask "get" input = ⟨false, "credentials not found in native keychain\n"⟩ := by
  have hget : (asking build? ask).get () url = .error .notFound := h
  rw [runAsking, run_get_of_error hurl hget]
  rfl

theorem lookUp_of_ok {record : Record} (h : ask ⟨build, url⟩ = .ok record) :
    lookUp (some build) ask url = .ok (record.username, record.password) := by
  simp only [lookUp, h]

theorem lookUp_of_forall_ne (h : ∀ build, build? = some build → ∀ record, ask ⟨build, url⟩ ≠ .ok record) :
    lookUp build? ask url = .error .notFound := by
  cases build? with
  | none => rfl
  | some build =>
    cases ha : ask ⟨build, url⟩ with
    | error e => simp only [lookUp, ha]
    | ok record => exact absurd ha (h build rfl record)

end

/-! ## Calls -/

/-- A call that finds nothing: it fails, and says so. -/
structure FindsNothing (call : Call) : Prop where
  success : call.success = false
  output : call.output = "credentials not found in native keychain\n"

/-- A call that finds credentials: it succeeds, and writes them on a line. -/
structure Finds (found : Credentials) (call : Call) : Prop where
  success : call.success = true
  output : call.output = line found.toJson

/-- What a call is told, by whether a daemon is reached and waited for. -/
def asked (files : FileTree) (vars : Variables) (reach? : String → Option Reach) : Asking := fun request =>
  match reach? (client files vars).socket with
  | none => (client files vars).fetch request .absent
  | some reach =>
    if (client files vars).waits then (reach.endpoint.fetch reach.store reach.connection request).1
    else (client files vars).fetch request .silent

section
variable {files : FileTree} {vars : Variables} {reach? : String → Option Reach} {reach : Reach}
  {input : List UInt8} {url build : String} {request : Lookup.Request} {record : Record}

theorem asked_of_reach (hreach : reach? (Environment.ofVariables vars).socket = some reach)
    (waits : (client files vars).waits) :
    asked files vars reach? request = (reach.endpoint.fetch reach.store reach.connection request).1 := by
  have hs : reach? (client files vars).socket = some reach := hreach
  simp only [asked, hs, waits, if_true]

/-- A record comes from a daemon that is reached. -/
theorem exists_reach_of_asked (h : asked files vars reach? request = .ok record) :
    ∃ reach, reach? (Environment.ofVariables vars).socket = some reach ∧
      (reach.endpoint.fetch reach.store reach.connection request).1 = .ok record := by
  unfold asked at h
  split at h
  · cases h
  · next reach hs =>
    split at h
    · exact ⟨reach, hs, h⟩
    · cases h

/-- A call comes to what its lookup does. -/
theorem outcome_call (files : FileTree) (vars : Variables) (reach? : String → Option Reach) (action : String)
    (input : List UInt8) :
    let called := call files vars reach? [action] input
    (⟨called.success, called.output⟩ : Outcome) =
      runAsking (Environment.ofVariables vars).build? (asked files vars reach?) action input := by
  unfold call asked
  cases hs : reach? (client files vars).socket with
  | none => simp only [hs]
  | some reach => cases hw : (client files vars).waits <;> simp [hs, hw, runOver]

theorem finds_of_fetch (hurl : readServerUrl input = .ok url)
    (hbuild : (Environment.ofVariables vars).build? = some build) (waits : (client files vars).waits)
    (hreach : reach? (Environment.ofVariables vars).socket = some reach)
    (h : (reach.endpoint.fetch reach.store reach.connection ⟨build, url⟩).1 = .ok record) :
    Finds ⟨url, record.username, record.password⟩ (call files vars reach? ["get"] input) := by
  have hasked : asked files vars reach? ⟨build, url⟩ = .ok record := (asked_of_reach hreach waits).trans h
  have hcall := outcome_call files vars reach? "get" input
  rw [hbuild, runAsking_of_found hurl (lookUp_of_ok hasked)] at hcall
  exact ⟨congrArg Outcome.success hcall, congrArg Outcome.output hcall⟩

/-- A call whose daemon answers with no record finds nothing, be there a daemon or not. -/
theorem findsNothing_of_fetch (hurl : readServerUrl input = .ok url)
    (h : ∀ build, (Environment.ofVariables vars).build? = some build →
      ∀ reach, reach? (Environment.ofVariables vars).socket = some reach →
        ∀ record, (reach.endpoint.fetch reach.store reach.connection ⟨build, url⟩).1 ≠ .ok record) :
    FindsNothing (call files vars reach? ["get"] input) := by
  have hnone : lookUp (Environment.ofVariables vars).build? (asked files vars reach?) url = .error .notFound := by
    refine lookUp_of_forall_ne fun build hb record hasked => ?_
    obtain ⟨reach, hreach, hfetch⟩ := exists_reach_of_asked hasked
    exact h build hb reach hreach record hfetch
  have hcall := outcome_call files vars reach? "get" input
  rw [runAsking_of_notFound hurl hnone] at hcall
  exact ⟨congrArg Outcome.success hcall, congrArg Outcome.output hcall⟩

theorem question?_none (action : String) : question? none action input = none := by
  unfold question?
  split
  · cases readServerUrl input <;> rfl
  · rfl

/-- Without a build there is nothing to find, and nobody is asked. -/
theorem call_of_no_build (hurl : readServerUrl input = .ok url)
    (hbuild : (Environment.ofVariables vars).build? = none) :
    call files vars reach? ["get"] input =
      { output := "credentials not found in native keychain\n", success := false } := by
  have hrun (ask : Asking) : runAsking none ask "get" input = ⟨false, _⟩ := runAsking_of_notFound hurl rfl
  simp only [call, hbuild, runOver, hrun, question?_none]
  cases reach? (client files vars).socket with
  | none => rfl
  | some reach => cases (client files vars).waits <;> rfl

end

end BuildCredentials.Helper
