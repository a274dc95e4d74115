import BuildCredentials.Daemon
import BuildCredentials.Proofs.Build.Scopes
import BuildCredentials.Proofs.Lookup.Trail
import BuildCredentials.Proofs.Lookup.Transparency
import Mathlib.Data.List.TakeWhile
import Mathlib.Logic.Equiv.Basic

/-!
# No secret in the log

Two runs of a daemon are alike if they take the same steps, but for the records that are stored and for the
identifiers of builds, of which each run has its own with the same fingerprints. Alike runs write the same log
(`log_keeps_secrets`): each step keeps states alike (`Alike.step`). Only the length of a request may tell one
identifier from another, since a body that is too long is not read (`log_tells_length`).
-/

set_option autoImplicit false

namespace BuildCredentials.Daemon

open Build (Scopes RegistryAuth readAuths)
open Lookup (Endpoint Asks)
open Registry

/-! ## What two runs may differ in -/

/-- Other identifiers for builds, with the same fingerprints, and distinct ones for distinct ones. -/
structure Renaming where
  rename : BuildId → BuildId
  injective : Function.Injective rename
  fingerprint : ∀ id, (rename id).fingerprint = id.fingerprint

instance : CoeFun Renaming fun _ => BuildId → BuildId := ⟨Renaming.rename⟩

/-- Credentials for the same addresses, with any records. -/
def SameAddresses (auths auths' : Auths) : Prop := ∀ address, address ∈ auths ↔ address ∈ auths'

section
variable {α : Type} (ρ : Renaming)

/-- Stores that hold credentials for the same addresses under the identifiers of either run. -/
def StoreAlike (store store' : Store) : Prop := ∀ id, Option.Rel SameAddresses store[id]? store'[ρ id]?

/-- An operation of one run and of the other. -/
inductive OperationAlike : Store.Operation α → Store.Operation α → Prop
  | put (id : BuildId) {auths auths' : Auths} (same : SameAddresses auths auths') :
      OperationAlike (.put id auths) (.put (ρ id) auths')
  | get (id : BuildId) (address : String) : OperationAlike (.get id address) (.get (ρ id) address)
  | resolve (id : BuildId) (address : String) : OperationAlike (.resolve id address) (.resolve (ρ id) address)
  | remove (id : BuildId) : OperationAlike (.remove id) (.remove (ρ id))
  | replace (id : BuildId) {auths auths' : Auths} (same : SameAddresses auths auths') :
      OperationAlike (.replace id auths) (.replace (ρ id) auths')
  | inspect (id : BuildId) (read read' : Auths → α) : OperationAlike (.inspect id read) (.inspect (ρ id) read')
  | take (id : BuildId) : OperationAlike (.take id) (.take (ρ id))

/-- A step of scopes of one run and of the other. -/
inductive ScopesAlike : Scopes.Step α → Scopes.Step α → Prop
  | acquire (id : BuildId) {auths auths' : Auths} (same : SameAddresses auths auths') :
      ScopesAlike (.acquire id auths) (.acquire (ρ id) auths')
  | drop (id : BuildId) : ScopesAlike (.drop id) (.drop (ρ id))
  | operation {o o' : Store.Operation α} (alike : OperationAlike ρ o o') :
      ScopesAlike (.operation o) (.operation o')
  | settle (position : Nat) : ScopesAlike (.settle position) (.settle position)

/-- The same build in either run: its credentials are unreadable in both, or for the same addresses. -/
structure JobAlike (job job' : Job) : Prop where
  auths : Option.Rel SameAddresses (readAuths job.auth?).toOption (readAuths job'.auth?).toOption
  fresh : Option.Rel (fun id id' => ρ id = id') job.fresh?.toOption job'.fresh?.toOption

/-- The same question in either run. -/
structure QuestionAlike (asked asked' : Lookup.Request) : Prop where
  build : ρ ⟨asked.build⟩ = ⟨asked'.build⟩
  address : asked.address = asked'.address

/-- The same request in either run. What its body says beside a question is of no account. -/
structure RequestAlike (request request' : Http.Request) : Prop where
  method : request.method = request'.method
  path : request.path = request'.path
  question : Option.Rel (QuestionAlike ρ) (Lookup.Request.read request.body).toOption
    (Lookup.Request.read request'.body).toOption

/-- A step of one run and of the other. -/
inductive StepAlike : Step α → Step α → Prop
  | scopes {x x' : Scopes.Step α} (alike : ScopesAlike ρ x x') : StepAlike (.scopes x) (.scopes x')
  | start {job job' : Job} (alike : JobAlike ρ job job') : StepAlike (.start job) (.start job')
  | finish {job job' : Job} (alike : JobAlike ρ job job') : StepAlike (.finish job) (.finish job')
  | request (connection? : Option Peer.Connection) {request request' : Http.Request}
      (alike : RequestAlike ρ request request') :
      StepAlike (.request connection? request) (.request connection? request')

/-- A request is not too long to be read. -/
def Fits (request : Http.Request) : Prop := request.body.length ≤ Lookup.bodyLimit

/-- The request of a step, if it is one, is not too long to be read. -/
def Step.Fits : Step α → Prop
  | .request _ asking => Daemon.Fits asking
  | .scopes _ | .start _ | .finish _ => True

/-- States with alike stores and with the same lines in the log. -/
structure Alike (s s' : Scopes) : Prop where
  store : StoreAlike ρ s.store s'.store
  written : s.written.map (·.entry) = s'.written.map (·.entry)
  pending : s.pending.map (·.entry) = s'.pending.map (·.entry)

end

variable {α : Type} {ρ : Renaming}

/-! ## Stores -/

theorem SameAddresses.keys_eq {auths auths' : Auths} (same : SameAddresses auths auths') :
    auths.keys = auths'.keys := by
  have names := Scopes.names_keys auths
  exact Scopes.Names.eq_keys ⟨names.sorted, fun address => (names.mem address).trans (same address)⟩

theorem SameAddresses.isEmpty_eq {auths auths' : Auths} (same : SameAddresses auths auths') :
    auths.isEmpty = auths'.isEmpty := by
  rw [← Std.ExtTreeMap.isEmpty_keys, ← Std.ExtTreeMap.isEmpty_keys, same.keys_eq]

theorem SameAddresses.eq_empty_iff {auths auths' : Auths} (same : SameAddresses auths auths') :
    auths = ∅ ↔ auths' = ∅ := by
  rw [← Std.ExtTreeMap.isEmpty_iff, ← Std.ExtTreeMap.isEmpty_iff, same.isEmpty_eq]

section
variable {store store' : Store}

theorem StoreAlike.put (h : StoreAlike ρ store store') (id : BuildId) {auths auths' : Auths}
    (same : SameAddresses auths auths') : StoreAlike ρ (store.put id auths) (store'.put (ρ id) auths') := by
  intro b
  rw [Store.getElem?_put, Store.getElem?_put]
  by_cases hb : id = b
  · rw [if_pos hb, if_pos (congrArg ρ hb)]
    exact .some same
  · rw [if_neg hb, if_neg fun he => hb (ρ.injective he)]
    exact h b

theorem StoreAlike.erase (h : StoreAlike ρ store store') (id : BuildId) :
    StoreAlike ρ (store.erase id) (store'.erase (ρ id)) := by
  intro b
  rw [Store.getElem?_erase, Store.getElem?_erase]
  by_cases hb : id = b
  · rw [if_pos hb, if_pos (congrArg ρ hb)]
    exact .none
  · rw [if_neg hb, if_neg fun he => hb (ρ.injective he)]
    exact h b

theorem StoreAlike.mem_iff (h : StoreAlike ρ store store') (id : BuildId) : id ∈ store ↔ ρ id ∈ store' := by
  have hr := h id
  rw [Std.ExtTreeMap.mem_iff_isSome_getElem?, Std.ExtTreeMap.mem_iff_isSome_getElem?]
  generalize store[id]? = auths? at hr ⊢
  generalize store'[ρ id]? = auths?' at hr ⊢
  cases hr <;> rfl

theorem StoreAlike.perform (h : StoreAlike ρ store store') {o o' : Store.Operation α}
    (alike : OperationAlike ρ o o') : StoreAlike ρ (store.perform o).1 (store'.perform o').1 := by
  cases alike with
  | put id same | replace id same => exact h.put id same
  | get | resolve | inspect => exact h
  | take id => exact h.erase id
  | remove id =>
    by_cases hm : id ∈ store
    · simpa only [Store.perform, Store.remove_of_mem hm, Store.remove_of_mem ((h.mem_iff id).1 hm)] using h.erase id
    · simpa only [Store.perform, Store.remove_of_not_mem hm,
        Store.remove_of_not_mem (mt (h.mem_iff id).2 hm)] using h

/-- How an address is found, if it is, hangs on nothing but the addresses that a build has credentials for. -/
theorem kind?_resolve (store : Store) (id : BuildId) (address : String) :
    (store.resolve id address).toOption.map (·.2) =
      store[id]?.bind fun auths => (Registry.resolve auths address).map (·.2) := by
  have found := Store.lookedUp_resolve store id address
  generalize store[id]? = auths? at found
  generalize store.resolve id address = result at found
  cases found with
  | unknown => rfl
  | unmatched hkey => simp [hkey, Except.toOption]
  | matched hkey => simp [hkey, Except.toOption]

theorem StoreAlike.kind?_resolve_eq (h : StoreAlike ρ store store') (id : BuildId) (address : String) :
    (store.resolve id address).toOption.map (·.2) = (store'.resolve (ρ id) address).toOption.map (·.2) := by
  have hr := h id
  rw [kind?_resolve, kind?_resolve]
  generalize store[id]? = auths? at hr ⊢
  generalize store'[ρ id]? = auths?' at hr ⊢
  cases hr with
  | none => rfl
  | some same => simp only [Option.bind_some, Registry.resolve, same.keys_eq]

end

/-! ## Requests -/

section
variable {request request' : Http.Request} {store store' : Store} {connection? : Option Peer.Connection}

theorem RequestAlike.not_asks (h : RequestAlike ρ request request')
    (fits : Fits request ↔ Fits request')
    (other : ∀ asked, ¬Asks request asked) (asked' : Lookup.Request) : ¬Asks request' asked' := by
  intro asks'
  have hq := h.question
  rw [asks'.body] at hq
  cases hr : Lookup.Request.read request.body with
  | error f =>
    rw [hr] at hq
    cases hq
  | ok asked =>
    refine other asked ⟨?_, ?_, fits.2 asks'.size, hr⟩
    · rw [h.path, asks'.path]
    · rw [h.method]
      exact asks'.method

theorem RequestAlike.asks (h : RequestAlike ρ request request')
    (fits : Fits request ↔ Fits request')
    {asked : Lookup.Request} (asks : Asks request asked) :
    ∃ asked', Asks request' asked' ∧ QuestionAlike ρ asked asked' := by
  have hq := h.question
  rw [asks.body] at hq
  cases hr : Lookup.Request.read request'.body with
  | error f =>
    rw [hr] at hq
    cases hq
  | ok asked' =>
    rw [hr] at hq
    cases hq with
    | some same =>
      refine ⟨asked', ⟨?_, ?_, fits.1 asks.size, hr⟩, same⟩
      · rw [← h.path, asks.path]
      · rw [← h.method]
        exact asks.method

theorem entries_answer (store : Store) (asked : Lookup.Request) :
    (Lookup.answer store asked).2.2.map (·.entry) =
      [((store.resolve ⟨asked.build⟩ asked.address).toOption.map (·.2)).elim (Lookup.deniedLine asked)
        (Lookup.servedLine asked)] := by
  cases hr : store.resolve ⟨asked.build⟩ asked.address with
  | error f => rw [Lookup.answer_of_error hr]; rfl
  | ok found => rw [Lookup.answer_of_ok hr]; rfl

theorem QuestionAlike.lines_eq {asked asked' : Lookup.Request} (h : QuestionAlike ρ asked asked') :
    Lookup.deniedLine asked = Lookup.deniedLine asked' ∧
      ∀ kind, Lookup.servedLine asked kind = Lookup.servedLine asked' kind := by
  have hf : (BuildId.mk asked.build).fingerprint = (BuildId.mk asked'.build).fingerprint := by
    rw [← h.build, ρ.fingerprint]
  exact ⟨by rw [Lookup.deniedLine, Lookup.deniedLine, hf, h.address],
    fun kind => by rw [Lookup.servedLine, Lookup.servedLine, hf, h.address]⟩

theorem StoreAlike.entries_answer_eq (h : StoreAlike ρ store store') {asked asked' : Lookup.Request}
    (alike : QuestionAlike ρ asked asked') :
    (Lookup.answer store asked).2.2.map (·.entry) = (Lookup.answer store' asked').2.2.map (·.entry) := by
  obtain ⟨denied, served⟩ := alike.lines_eq
  rw [entries_answer, entries_answer, h.kind?_resolve_eq ⟨asked.build⟩ asked.address, alike.build, alike.address,
    denied, funext served]

/-- Alike requests leave the same lines in the log. -/
theorem StoreAlike.entries_handle_eq (h : StoreAlike ρ store store') (e : Endpoint)
    (connection? : Option Peer.Connection) (alike : RequestAlike ρ request request')
    (fits : Fits request ↔ Fits request') :
    (e.handle store connection? request).2.2.map (·.entry) =
      (e.handle store' connection? request').2.2.map (·.entry) := by
  cases hv : e.verdict connection? with
  | error reason => rw [Lookup.events_of_rejected hv, Lookup.events_of_rejected hv]
  | ok peer =>
    rw [Lookup.events_of_verdict hv, Lookup.events_of_verdict hv]
    by_cases ha : ∃ asked, Asks request asked
    · obtain ⟨asked, asks⟩ := ha
      obtain ⟨asked', asks', same⟩ := alike.asks fits asks
      rw [Lookup.route_of_asks asks, Lookup.route_of_asks asks', h.entries_answer_eq same]
    · have other : ∀ asked, ¬Asks request asked := fun asked asks => ha ⟨asked, asks⟩
      rw [Lookup.events_route_of_not_asks other,
        Lookup.events_route_of_not_asks (alike.not_asks fits other)]

end

/-! ## Steps -/

section
variable {s s' : Scopes}

theorem Alike.acquire (h : Alike ρ s s') (id : BuildId) {auths auths' : Auths} (same : SameAddresses auths auths') :
    Alike ρ (s.step (.acquire id auths : Scopes.Step α)) (s'.step (.acquire (ρ id) auths' : Scopes.Step α)) where
  store := h.store.put id same
  written := by
    have he : (Audit.Event.stored id auths.keys).entry = (Audit.Event.stored (ρ id) auths'.keys).entry := by
      simp only [Audit.Event.entry, Audit.Event.name, Audit.Event.data, Audit.Event.reference, ρ.fingerprint,
        same.keys_eq]
    simp only [Scopes.step, Build.openScope, List.map_append, h.written, List.map_singleton, he]
  pending := h.pending

theorem Alike.drop (h : Alike ρ s s') (id : BuildId) :
    Alike ρ (s.step (.drop id : Scopes.Step α)) (s'.step (.drop (ρ id) : Scopes.Step α)) := by
  have he : (Audit.Event.removed id).entry = (Audit.Event.removed (ρ id)).entry := by
    simp only [Audit.Event.entry, Audit.Event.name, Audit.Event.data, Audit.Event.reference, ρ.fingerprint]
  by_cases hm : id ∈ s.store
  · have hm' := (h.store.mem_iff id).1 hm
    simp only [Scopes.step, Build.closeScope, Store.remove_of_mem hm, Store.remove_of_mem hm']
    exact ⟨h.store.erase id, h.written, by simp only [List.map_append, h.pending, List.map_singleton, he]⟩
  · have hm' := mt (h.store.mem_iff id).2 hm
    simp only [Scopes.step, Build.closeScope, Store.remove_of_not_mem hm, Store.remove_of_not_mem hm',
      List.append_nil]
    exact h

theorem Alike.settle (h : Alike ρ s s') (position : Nat) :
    Alike ρ (s.step (.settle position : Scopes.Step α)) (s'.step (.settle position : Scopes.Step α)) := by
  have hp : s.pending[position]?.map (·.entry) = s'.pending[position]?.map (·.entry) := by
    rw [← List.getElem?_map, ← List.getElem?_map, h.pending]
  cases he : s.pending[position]? with
  | none =>
    rw [he, Option.map_none, eq_comm, Option.map_eq_none_iff] at hp
    simpa only [Scopes.step, he, hp] using h
  | some event =>
    rw [he, Option.map_some, eq_comm, Option.map_eq_some_iff] at hp
    obtain ⟨event', he', hentry⟩ := hp
    simp only [Scopes.step, he, he']
    refine ⟨h.store, by simp only [List.map_append, h.written, List.map_singleton, hentry], ?_⟩
    rw [← List.eraseIdx_map, ← List.eraseIdx_map, h.pending]

theorem Alike.scopes (h : Alike ρ s s') {x x' : Scopes.Step α} (alike : ScopesAlike ρ x x') :
    Alike ρ (s.step x) (s'.step x') := by
  cases alike with
  | acquire id same => exact h.acquire id same
  | drop id => exact h.drop id
  | operation alike => exact ⟨h.store.perform alike, h.written, h.pending⟩
  | settle position => exact h.settle position

/-- Of two alike builds either none opens a scope, or both do, for the same addresses. -/
theorem JobAlike.scope?_cases {job job' : Job} (h : JobAlike ρ job job') :
    job.scope? = none ∧ job'.scope? = none ∨
      ∃ id auths auths', SameAddresses auths auths' ∧ job.scope? = some (id, auths) ∧
        job'.scope? = some (ρ id, auths') := by
  obtain ⟨hauths, hfresh⟩ := h
  simp only [Job.scope?]
  cases hr : readAuths job.auth? <;> cases hr' : readAuths job'.auth? <;> rw [hr, hr'] at hauths
  · exact .inl ⟨rfl, rfl⟩
  · cases hauths
  · cases hauths
  · cases hf : job.fresh? <;> cases hf' : job'.fresh? <;> rw [hf, hf'] at hfresh
    · exact .inl ⟨rfl, rfl⟩
    · cases hfresh
    · cases hfresh
    · rename_i auths auths' id id'
      have same : SameAddresses auths auths' := Option.rel_some_some.1 hauths
      obtain rfl : ρ id = id' := by simpa [Except.toOption] using hfresh
      simp only [same.isEmpty_eq]
      split
      · exact .inl ⟨rfl, rfl⟩
      · exact .inr ⟨id, auths, auths', same, rfl, rfl⟩

/-- A step that both runs take keeps their states alike. -/
theorem Alike.step (h : Alike ρ s s') (e : Endpoint) {x x' : Step α} (alike : StepAlike ρ x x')
    (fits : x.Fits ↔ x'.Fits) : Alike ρ (step e s x) (step e s' x') := by
  cases alike with
  | scopes alike => exact h.scopes alike
  | start alike =>
    rcases alike.scope?_cases with ⟨hn, hn'⟩ | ⟨id, auths, auths', same, hs, hs'⟩
    · simpa only [Daemon.step, hn, hn'] using h
    · simpa only [Daemon.step, hs, hs'] using h.acquire id same
  | finish alike =>
    rcases alike.scope?_cases with ⟨hn, hn'⟩ | ⟨id, auths, auths', same, hs, hs'⟩
    · simpa only [Daemon.step, hn, hn'] using h
    · simpa only [Daemon.step, hs, hs'] using h.drop id
  | request connection? alike =>
    refine ⟨?_, ?_, h.pending⟩
    · simp only [Daemon.step, Lookup.store_handle]
      exact h.store
    · simp only [Daemon.step, List.map_append, h.written, h.store.entries_handle_eq e connection? alike fits]

theorem Alike.after (h : Alike ρ s s') (e : Endpoint) {steps steps' : List (Step α)}
    (alike : List.Forall₂ (StepAlike ρ) steps steps')
    (fits : List.Forall₂ (fun x x' => x.Fits ↔ x'.Fits) steps steps') :
    Alike ρ (after e s steps) (after e s' steps') := by
  induction alike generalizing s s' with
  | nil => exact h
  | cons hx _ ih =>
    cases fits with
    | cons hf fits => exact ih (h.step e hx hf) fits

end

/-! ## Builds -/

/-- Lines that stand in the log already stay where they are. -/
theorem step_written (e : Endpoint) (s : Scopes) (lines : List Audit.Event) (x : Step α) :
    step e { s with written := lines ++ s.written } x =
      { step e s x with written := lines ++ (step e s x).written } := by
  have scopes (y : Scopes.Step α) : ({ s with written := lines ++ s.written } : Scopes).step y =
      { s.step y with written := lines ++ (s.step y).written } := by
    cases y with
    | acquire | drop | operation => simp [Scopes.step, Build.openScope]
    | settle position => cases hp : s.pending[position]? <;> simp [Scopes.step, hp]
  cases x with
  | scopes y => exact scopes y
  | start job | finish job =>
    simp only [step]
    cases job.scope? with
    | none => rfl
    | some opened => exact scopes _
  | request => simp [step]

theorem after_written (e : Endpoint) (s : Scopes) (lines : List Audit.Event) (steps : List (Step α)) :
    after e { s with written := lines ++ s.written } steps =
      { after e s steps with written := lines ++ (after e s steps).written } := by
  induction steps generalizing s with
  | nil => rfl
  | cons x rest ih =>
    simp only [after, List.foldl_cons] at ih ⊢
    rw [step_written, ih]

theorem after_append (e : Endpoint) (s : Scopes) (steps rest : List (Step α)) :
    after e s (steps ++ rest) = after e (after e s steps) rest := List.foldl_append

/-- A build gets as far as its engine. -/
def Job.Starts (job : Job) : Prop :=
  ∃ auths, readAuths job.auth? = .ok auths ∧ (auths = ∅ ∨ ∃ id, job.fresh? = .ok id)

theorem Job.starts_iff (job : Job) : job.Starts ↔
    ∃ auths, (readAuths job.auth?).toOption = some auths ∧ (auths = ∅ ∨ job.fresh?.toOption.isSome) := by
  unfold Job.Starts
  cases readAuths job.auth? <;> cases job.fresh? <;> simp [Except.toOption]

theorem JobAlike.starts_iff {job job' : Job} (h : JobAlike ρ job job') : job.Starts ↔ job'.Starts := by
  obtain ⟨hauths, hfresh⟩ := h
  rw [job.starts_iff, job'.starts_iff]
  generalize (readAuths job.auth?).toOption = auths? at hauths
  generalize (readAuths job'.auth?).toOption = auths?' at hauths
  generalize job.fresh?.toOption = id? at hfresh
  generalize job'.fresh?.toOption = id?' at hfresh
  cases hauths with
  | none => simp
  | some same => cases hfresh <;> simp [same.eq_empty_iff]

section
variable {e : Endpoint} {during : List (Step α)} {outcome : Except Error Int} {socket : String} {store : Store}
  {request : Build.Request} {job : Job}

theorem events_run_of_not_starts (engine : Build.Engine) (h : ¬job.Starts) :
    (Build.run engine socket job.fresh? store job.auth? request).events = [] := by
  cases hr : readAuths job.auth? with
  | error f => rw [Build.run_of_unreadable hr]
  | ok auths =>
    have hne : auths ≠ ∅ := fun hempty => h ⟨auths, hr, .inl hempty⟩
    cases hf : job.fresh? with
    | error f => rw [Build.run_of_no_identifier hr hne]
    | ok id => exact absurd ⟨auths, hr, .inr ⟨id, hf⟩⟩ h

/-- A build consists of its start, of what happens meanwhile, and of its end. -/
theorem run_engine (starts : job.Starts) :
    let report := Build.run (engine e during outcome) socket job.fresh? store job.auth? request
    let s := after e { store } ([.start job] ++ during ++ [.finish job])
    report.store = s.store ∧ report.events = s.written ++ s.pending := by
  intro report s
  obtain ⟨auths, hr, hid⟩ := starts
  by_cases hempty : auths = ∅
  · subst hempty
    have hn : job.scope? = none := by
      unfold Job.scope?
      rw [hr]
      cases job.fresh? <;> simp
    have he : s = after e { store } during := by
      simp only [s, after_append]
      simp only [after, List.foldl_cons, List.foldl_nil, step, hn]
    simp only [report, Build.run_of_empty hr, he]
    exact ⟨rfl, List.nil_append _⟩
  · obtain ⟨id, hf⟩ := hid.resolve_left hempty
    have hs : job.scope? = some (id, auths) := by
      unfold Job.scope?
      rw [hr, hf]
      simp [Std.ExtTreeMap.isEmpty_iff, hempty]
    let ended := after e { store := store.put id auths } during
    let told : Scopes := { ended with written := [.stored id auths.keys] ++ ended.written }
    have hended : after e { store } ([.start job] ++ during) = told := by
      have h := after_written e { store := store.put id auths } [.stored id auths.keys] during
      rw [after_append]
      simp only [after, List.foldl_cons, List.foldl_nil, step, hs] at h ⊢
      exact h
    have he : s = told.step (.drop id : Scopes.Step α) := by
      simp only [s]
      rw [after_append, hended]
      simp only [after, List.foldl_cons, List.foldl_nil, step, hs]
    simp only [report, hf, Build.run_of_auths hr hempty, he]
    refine ⟨rfl, ?_⟩
    simp [Build.Progress.leave, Build.Progress.launch, Build.Progress.enter, Build.openScope, Scopes.step, engine,
      told, ended]

end

/-- Alike builds, with engines that do alike things, leave the same lines. -/
theorem StoreAlike.entries_run_eq {store store' : Store} (h : StoreAlike ρ store store') (e : Endpoint)
    {job job' : Job} (alike : JobAlike ρ job job') {during during' : List (Step α)}
    (same : List.Forall₂ (StepAlike ρ) during during')
    (fits : List.Forall₂ (fun x x' => x.Fits ↔ x'.Fits) during during')
    (outcome outcome' : Except Error Int) (socket socket' : String) (request request' : Build.Request) :
    (Build.run (engine e during outcome) socket job.fresh? store job.auth? request).events.map (·.entry) =
      (Build.run (engine e during' outcome') socket' job'.fresh? store' job'.auth? request').events.map
        (·.entry) := by
  by_cases starts : job.Starts
  · have begun : Alike ρ { store } { store := store' } := ⟨h, rfl, rfl⟩
    have start : StepAlike ρ (.start job : Step α) (.start job') := .start alike
    have finish : StepAlike ρ (.finish job : Step α) (.finish job') := .finish alike
    have ended := ((begun.step e start .rfl).after e same fits).step e finish .rfl
    rw [(run_engine starts).2, (run_engine (alike.starts_iff.1 starts)).2]
    simp only [after_append, List.map_append]
    exact congrArg₂ (· ++ ·) ended.written ended.pending
  · rw [events_run_of_not_starts _ starts, events_run_of_not_starts _ (mt alike.starts_iff.2 starts)]

/-! ## Logs -/

theorem mem_log_step {s : Scopes} {x : Scopes.Step α} {line : Audit.Entry} (h : line ∈ log s) :
    line ∈ log (s.step x) := by
  have grows : ∃ lines, (s.step x).written = s.written ++ lines := by
    cases x with
    | acquire id auths => exact ⟨_, rfl⟩
    | drop | operation => exact ⟨[], (List.append_nil _).symm⟩
    | settle position =>
      cases hp : s.pending[position]? with
      | none => exact ⟨[], by simp [Scopes.step, hp]⟩
      | some event => exact ⟨[event], by simp [Scopes.step, hp]⟩
  obtain ⟨lines, hl⟩ := grows
  rw [log, hl, List.map_append]
  exact List.mem_append_left _ h

theorem storeAlike_empty : StoreAlike ρ ∅ ∅ := by
  intro id
  rw [Std.ExtTreeMap.getElem?_empty, Std.ExtTreeMap.getElem?_empty]
  exact .none

/-- Two runs that take the same steps over other records, and under other identifiers with the same fingerprints,
write the same lines and have the same left to write, as long as no request is too long to be read in one of them
alone. So do two builds while whose engines run they take these steps. -/
theorem log_keeps_secrets (ρ : Renaming) (e : Endpoint) {steps steps' : List (Step α)}
    (alike : List.Forall₂ (StepAlike ρ) steps steps')
    (fits : List.Forall₂ (fun x x' => x.Fits ↔ x'.Fits) steps steps') :
    log (after e {} steps) = log (after e {} steps') ∧
    (after e {} steps).pending.map (·.entry) = (after e {} steps').pending.map (·.entry) ∧
    ∀ job job', JobAlike ρ job job' → ∀ store store', StoreAlike ρ store store' →
      ∀ outcome outcome' socket socket' request request',
        (Build.run (engine e steps outcome) socket job.fresh? store job.auth? request).events.map (·.entry) =
          (Build.run (engine e steps' outcome') socket' job'.fresh? store' job'.auth? request').events.map
            (·.entry) := by
  have h : Alike ρ {} {} := ⟨storeAlike_empty, rfl, rfl⟩
  have ended := h.after e alike fits
  refine ⟨ended.written, ended.pending, fun job job' same store store' stored => ?_⟩
  exact stored.entries_run_eq e same alike fits

/-! ## Two identifiers with one fingerprint -/

/-- Two builds that take the place of each other. -/
def Renaming.swap {a b : BuildId} (h : a.fingerprint = b.fingerprint) : Renaming where
  rename := Equiv.swap a b
  injective := (Equiv.swap a b).injective
  fingerprint id := by
    rw [Equiv.swap_apply_def]
    split
    · next ha => rw [ha, h]
    · split
      · next hb => rw [hb, h]
      · rfl

theorem Renaming.swap_left {a b : BuildId} (h : a.fingerprint = b.fingerprint) : swap h a = b :=
  Equiv.swap_apply_left a b

/-- Two identifiers of different length whose fingerprints are the same. -/
theorem fingerprint_eq : (BuildId.mk "build-2680415").fingerprint = (BuildId.mk "build-27766591").fingerprint := by
  decide +kernel

/-- A lookup of the address `a`, with spaces behind the question. -/
def spaced (id : BuildId) (spaces : Nat) : Http.Request where
  path := Lookup.path
  body := Utf8.encode (Lookup.Client.body ⟨id.text, "a"⟩) ++ List.replicate spaces 32

theorem skipBlanks_spaces (spaces : Nat) : Json.skipBlanks (List.replicate spaces 32) = [] :=
  List.dropWhile_eq_nil_iff.2 fun b hb => by rw [List.eq_of_mem_replicate hb]; rfl

theorem read_spaced {id : BuildId} (hid : id.text ≠ "") (spaces : Nat) :
    Lookup.Request.read (spaced id spaces).body = .ok ⟨id.text, "a"⟩ := by
  have h : Lookup.Request.shape.parse (Utf8.encode (Lookup.Request.shape.toJson [id.text, "a"]).render ++
      List.replicate spaces 32) = .ok [id.text, "a"] := by
    have hb := skipBlanks_spaces spaces
    generalize List.replicate spaces 32 = blanks at hb ⊢
    apply Json.Shape.parse_toJson_append
    · decide
    · rfl
    · exact hb
  have hparse : Lookup.Request.parse (spaced id spaces).body = .ok ⟨id.text, "a"⟩ := by
    rw [Lookup.Request.parse, spaced, Lookup.Client.body, Lookup.Request.toJson, Lookup.Request.values, h]
    rfl
  rw [Lookup.Request.read, hparse]
  simp only [hid, if_false]
  rfl

/-- The endpoint of a daemon. -/
def localEndpoint : Endpoint := ⟨⟨1000, 1000, 10⟩, .ofParents [(30, 20), (20, 10)]⟩

/-- The connection of a grandchild of that daemon. -/
def grandchild : Peer.Connection := .unix (.ok ⟨1000, 1000, some 30⟩)

theorem asks_spaced {id : BuildId} (hid : id.text ≠ "") {spaces : Nat} (fits : Fits (spaced id spaces)) :
    Asks (spaced id spaces) ⟨id.text, "a"⟩ := ⟨rfl, .head _, fits, read_spaced hid spaces⟩

theorem entries_spaced {id : BuildId} (hid : id.text ≠ "") {spaces : Nat} (fits : Fits (spaced id spaces))
    (store : Store) :
    (localEndpoint.handle store (some grandchild) (spaced id spaces)).2.2.map (·.entry) =
      [((store.resolve id "a").toOption.map (·.2)).elim (Lookup.deniedLine ⟨id.text, "a"⟩)
        (Lookup.servedLine ⟨id.text, "a"⟩)] := by
  rw [Lookup.events_of_verdict (rfl : localEndpoint.verdict (some grandchild) = .ok ⟨1000, 1000, 30⟩),
    Lookup.route_of_asks (asks_spaced hid fits), entries_answer]

theorem requestAlike_spaced {ρ : Renaming} {id : BuildId} (hid : id.text ≠ "") (hid' : (ρ id).text ≠ "")
    (spaces : Nat) : RequestAlike ρ (spaced id spaces) (spaced (ρ id) spaces) := by
  refine ⟨rfl, rfl, ?_⟩
  rw [read_spaced hid, read_spaced hid']
  exact .some ⟨rfl, rfl⟩

/-- One build's record is replaced by another and its identifier by one with the same fingerprint: the log tells
of the credentials, of the lookup and of the end in the same words. -/
theorem log_keeps_secrets_of_swapped_build :
    let ρ := Renaming.swap fingerprint_eq
    let build : BuildId := ⟨"build-2680415"⟩
    let run (id : BuildId) (record : Record) : List (Step Unit) := [
      .scopes (.acquire id (Auths.ofRecords [("a", record)])), .request (some grandchild) (spaced id 0),
      .scopes (.drop id), .scopes (.settle 0)]
    let first := run build (.basic "a" "alice" "secret")
    let second := run (ρ build) (.basic "a" "bob" "hidden")
    List.Forall₂ (StepAlike ρ) first second ∧ List.Forall₂ (fun x x' => x.Fits ↔ x'.Fits) first second ∧
      log (after localEndpoint {} first) = log (after localEndpoint {} second) ∧
      Lookup.servedLine ⟨build.text, "a"⟩ .verbatim ∈ log (after localEndpoint {} second) := by
  intro ρ build run first second
  have hρ : ρ build = ⟨"build-27766591"⟩ := Renaming.swap_left fingerprint_eq
  have hid' : (ρ build).text ≠ "" := by rw [hρ]; decide
  have fits : Fits (spaced build 0) := by
    show (Utf8.encode (Lookup.Client.body ⟨"build-2680415", "a"⟩) ++ []).length ≤ _
    decide +kernel
  have fits' : Fits (spaced (ρ build) 0) := by
    rw [hρ]
    show (Utf8.encode (Lookup.Client.body ⟨"build-27766591", "a"⟩) ++ []).length ≤ _
    decide +kernel
  have same (r r' : Record) : SameAddresses (Auths.ofRecords [("a", r)]) (Auths.ofRecords [("a", r')]) := by
    intro address
    simp [Auths.ofRecords]
  have alike : List.Forall₂ (StepAlike ρ) first second :=
    .cons (.scopes (.acquire build (same _ _)))
      (.cons (.request _ (requestAlike_spaced (by decide) hid' 0))
        (.cons (.scopes (.drop build)) (.cons (.scopes (.settle 0)) .nil)))
  have bothFit : List.Forall₂ (fun x x' : Step Unit => x.Fits ↔ x'.Fits) first second :=
    .cons .rfl (.cons (iff_of_true fits fits') (.cons .rfl (.cons .rfl .nil)))
  have hlog := (log_keeps_secrets ρ localEndpoint alike bothFit).1
  refine ⟨alike, bothFit, hlog, ?_⟩
  rw [← hlog]
  let alice : Record := .basic "a" "alice" "secret"
  have hfound : (Store.put ∅ build (Auths.ofRecords [("a", alice)])).resolve build "a" = .ok (alice, .verbatim) :=
    Store.resolve_eq_ok_iff.2 ⟨_, "a", by rw [Store.getElem?_put, if_pos rfl], rfl, rfl⟩
  simp only [after, first, run, List.foldl_cons, List.foldl_nil, step]
  refine mem_log_step (mem_log_step ?_)
  rw [log, List.map_append, entries_spaced (by decide) fits]
  refine List.mem_append_right _ (List.mem_singleton.2 ?_)
  show _ = Option.elim (((Store.put ∅ build (Auths.ofRecords [("a", alice)])).resolve build "a").toOption.map _) _ _
  rw [hfound]
  rfl

/-- A lookup when nothing is stored. -/
theorem log_spaced {id : BuildId} (hid : id.text ≠ "") {spaces : Nat} (fits : Fits (spaced id spaces)) :
    log (after localEndpoint {} [(.request (some grandchild) (spaced id spaces) : Step Unit)]) =
      [Lookup.deniedLine ⟨id.text, "a"⟩] := by
  simp only [log, after, List.foldl_cons, List.foldl_nil, step, List.nil_append]
  rw [entries_spaced hid fits]
  rfl

theorem log_spaced_of_not_fits {id : BuildId} {spaces : Nat} (long : ¬Fits (spaced id spaces)) :
    log (after localEndpoint {} [(.request (some grandchild) (spaced id spaces) : Step Unit)]) = [] := by
  simp only [log, after, List.foldl_cons, List.foldl_nil, step, List.nil_append]
  rw [Lookup.events_of_verdict (rfl : localEndpoint.verdict (some grandchild) = .ok ⟨1000, 1000, 30⟩),
    Lookup.events_route_of_not_asks fun _ asks => long asks.size, List.map_nil]

theorem fits_spaced_iff (id : BuildId) (spaces : Nat) : Fits (spaced id spaces) ↔
    (Utf8.encode (Lookup.Client.body ⟨id.text, "a"⟩)).length + spaces ≤ Lookup.bodyLimit := by
  rw [Fits, spaced, List.length_append, List.length_replicate]

/-- Of two requests that differ in the identifier alone, one is a lookup and the other is too long to be read. -/
theorem log_tells_length :
    let ρ := Renaming.swap fingerprint_eq
    let build : BuildId := ⟨"build-2680415"⟩
    let run (id : BuildId) : List (Step Unit) := [.request (some grandchild) (spaced id 2097108)]
    List.Forall₂ (StepAlike ρ) (run build) (run (ρ build)) ∧
      log (after localEndpoint {} (run build)) = [Lookup.deniedLine ⟨build.text, "a"⟩] ∧
      log (after localEndpoint {} (run (ρ build))) = [] := by
  intro ρ build run
  have hρ : ρ build = ⟨"build-27766591"⟩ := Renaming.swap_left fingerprint_eq
  have hid' : (ρ build).text ≠ "" := by rw [hρ]; decide
  have hlength : (Utf8.encode (Lookup.Client.body ⟨"build-2680415", "a"⟩)).length = 44 := by decide +kernel
  have hlength' : (Utf8.encode (Lookup.Client.body ⟨"build-27766591", "a"⟩)).length = 45 := by decide +kernel
  have fits : Fits (spaced build 2097108) := by
    rw [fits_spaced_iff, hlength]
    decide
  have long : ¬Fits (spaced (ρ build) 2097108) := by
    rw [fits_spaced_iff, hρ, hlength']
    decide
  exact ⟨.cons (.request _ (requestAlike_spaced (by decide) hid' _)) .nil, log_spaced (by decide) fits,
    log_spaced_of_not_fits long⟩

end BuildCredentials.Daemon
