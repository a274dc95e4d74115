import BuildCredentials.Build.Run

/-!
# How long credentials live

A build's credentials are stored just while its engine runs (`credentials_live_while_engine_runs`): the engine
finds them under its identifier, and whatever it does to them and however it ends, they are gone afterwards. What
others keep is as the engine left it, so that an engine that leaves it alone leaves the store as it was before
the build. Credentials that cannot be read start nothing.
-/

set_option autoImplicit false

namespace BuildCredentials.Build

open Registry

/-! ## Scopes -/

theorem getElem?_enter (p : Progress) (id b : BuildId) (auths : Auths) :
    (p.enter id auths).store[b]? = if id = b then some auths else p.store[b]? :=
  Store.getElem?_put p.store id b auths

/-- Leaving a scope removes what is stored under its identifier, be it there still or not. -/
theorem getElem?_leave (p : Progress) (id b : BuildId) :
    (p.leave id).store[b]? = if id = b then none else p.store[b]? := by
  by_cases hm : id ∈ p.store
  · simp [Progress.leave, closeScope, Store.remove_of_mem hm, Store.getElem?_erase]
  · simpa [Progress.leave, closeScope, Store.remove_of_not_mem hm] using Store.getElem?_of_not_mem hm b

/-! ## The result -/

theorem judge_eq_ok_iff {outcome : Except Error Int} : judge outcome = .ok () ↔ outcome = .ok 0 := by
  cases outcome with
  | error e => simp [judge]
  | ok code => by_cases h : code = 0 <;> simp [judge, h]

theorem judge_eq_buildFailed_iff {outcome : Except Error Int} {code : Int} :
    judge outcome = .error (.buildFailed code) ↔
      (outcome = .ok code ∧ code ≠ 0) ∨ outcome = .error (.buildFailed code) := by
  cases outcome with
  | error e => simp [judge]
  | ok ended =>
    by_cases h : ended = 0
    · simp only [judge, h, if_true, reduceCtorEq, Except.ok.injEq, or_false, false_iff, not_and]
      exact fun he hne => hne he.symm
    · simp only [judge, h, if_false, Except.error.injEq, Error.buildFailed.injEq, Except.ok.injEq,
        reduceCtorEq, or_false]
      exact ⟨fun he => ⟨he, he ▸ h⟩, And.left⟩

/-- What a build results in, by how its engine ended. An engine may fail by itself with the very error that
tells of an exit code, and it is passed on like any other. -/
structure Settles (outcome : Except Error Int) (result : Except Error Unit) : Prop where
  ok : result = .ok () ↔ outcome = .ok 0
  failed : ∀ code, result = .error (.buildFailed code) ↔
    (outcome = .ok code ∧ code ≠ 0) ∨ outcome = .error (.buildFailed code)
  error : ∀ e, outcome = .error e → result = .error e

theorem settles_judge (outcome : Except Error Int) : Settles outcome (judge outcome) :=
  ⟨judge_eq_ok_iff, fun _ => judge_eq_buildFailed_iff, fun e h => by rw [h]; rfl⟩

/-- A build fails with the very code that its engine ended with just if that is another code than 0. -/
theorem Settles.failed_with_code_iff {outcome : Except Error Int} {result : Except Error Unit}
    (h : Settles outcome result) (code : Int) :
    outcome = .ok code ∧ result = .error (.buildFailed code) ↔ outcome = .ok code ∧ code ≠ 0 := by
  refine and_congr_right fun hcode => ?_
  rw [h.failed code, hcode]
  simp only [reduceCtorEq, true_and, or_false]

/-! ## Runs -/

section
variable {engine : Engine} {socket : String} {fresh? : Except Error BuildId} {id : BuildId} {store : Store}
  {auth? : Option RegistryAuth} {request : Request} {auths : Auths}

theorem run_of_unreadable {e : Error} (h : readAuths auth? = .error e) :
    run engine socket fresh? store auth? request = { store, result := .error e } := by
  rw [run, h]

/-- Credentials that no identifier can be made for start nothing. -/
theorem run_of_no_identifier {e : Error} (h : readAuths auth? = .ok auths) (hne : auths ≠ ∅) :
    run engine socket (.error e) store auth? request = { store, result := .error e } := by
  have hf : auths.isEmpty = false := by simpa [Std.ExtTreeMap.isEmpty_iff] using hne
  simp [run, h, hf]

theorem run_of_empty (h : readAuths auth? = .ok ∅) :
    run engine socket fresh? store auth? request =
      let invocation : Invocation := { request with build? := none, socket }
      { (Progress.launch { store } engine invocation).1 with
        result := judge (engine invocation store).outcome } := by
  simp [run, h, Progress.launch]

theorem run_of_auths (h : readAuths auth? = .ok auths) (hne : auths ≠ ∅) :
    run engine socket (.ok id) store auth? request =
      let invocation : Invocation := { request with build? := some id, socket }
      let opened := Progress.enter { store } id auths
      { (opened.launch engine invocation).1.leave id with
        result := judge (engine invocation opened.store).outcome } := by
  have hf : auths.isEmpty = false := by simpa [Std.ExtTreeMap.isEmpty_iff] using hne
  simp [run, h, hf, Progress.launch]

end

/-- Over a store, an engine changes nothing in it but what is kept under the identifier it was given, if any.
That it may do as it likes: remove it, too. -/
def Engine.KeepsOthers (engine : Engine) (invocation : Invocation) (store : Store) : Prop :=
  ∀ b, invocation.build? ≠ some b → (engine invocation store).store[b]? = store[b]?

section
variable {engine : Engine} {invocation : Invocation} {id : BuildId}

/-- An engine without an identifier leaves the store alone. -/
theorem Engine.KeepsOthers.store_eq {store : Store} (keeps : engine.KeepsOthers invocation store)
    (h : invocation.build? = none) : (engine invocation store).store = store := by
  refine Std.ExtTreeMap.ext_getElem? fun b => keeps b ?_
  rw [h]
  exact fun hb => nomatch hb

/-- Leaving a scope after an engine has run: the store is as the engine left it, less the identifier. -/
theorem getElem?_launch_leave (p : Progress) (b : BuildId) :
    ((p.launch engine invocation).1.leave id).store[b]? =
      if id = b then none else (engine invocation p.store).store[b]? := getElem?_leave _ id b

/-- Keeping credentials under a fresh identifier while an engine runs leaves the store as it was. -/
theorem Engine.KeepsOthers.store_leave {p : Progress} {auths : Auths}
    (keeps : engine.KeepsOthers invocation (p.enter id auths).store) (h : invocation.build? = some id)
    (fresh : id ∉ p.store) :
    (((p.enter id auths).launch engine invocation).1.leave id).store = p.store := by
  refine Std.ExtTreeMap.ext_getElem? fun b => ?_
  rw [getElem?_launch_leave, Store.getElem?_of_not_mem fresh b]
  by_cases hb : id = b
  · rw [if_pos hb, if_pos hb]
  · rw [if_neg hb, if_neg hb]
    have hne : invocation.build? ≠ some b := by
      rw [h]
      exact fun hs => hb (Option.some.inj hs)
    calc (engine invocation (p.enter id auths).store).store[b]?
        = (p.enter id auths).store[b]? := keeps b hne
      _ = p.store[b]? := by rw [getElem?_enter, if_neg hb]

end

/-- What becomes of a build, by its credentials. If they are unreadable that is its error, and nothing is
started or stored or logged. Else its engine is started once, with an identifier just if there are credentials,
over the store with these under the identifier. In the end these are gone, the rest of the store is as the
engine left it, all of it is as before the build unless the engine changed what others keep there, and the
result says how the engine ended. -/
theorem credentials_live_while_engine_runs {id : BuildId} {store : Store} (fresh : id ∉ store) (engine : Engine)
    (socket : String) (auth? : Option RegistryAuth) (request : Request) :
    let report := run engine socket (.ok id) store auth? request
    (∀ e, readAuths auth? = .error e →
      report.result = .error e ∧ report.started = [] ∧ report.store = store ∧ report.events = []) ∧
    ∀ auths, readAuths auth? = .ok auths →
      ∃ invocation opened, report.started = [(invocation, opened)] ∧
        invocation = { request with build? := if auths = ∅ then none else some id, socket } ∧
        (∀ b, opened[b]? = if b = id ∧ auths ≠ ∅ then some auths else store[b]?) ∧
        (∀ b, report.store[b]? =
          if b = id ∧ auths ≠ ∅ then none else (engine invocation opened).store[b]?) ∧
        (engine.KeepsOthers invocation opened → report.store = store) ∧
        Settles (engine invocation opened).outcome report.result := by
  intro report
  refine ⟨fun e h => ?_, fun auths h => ?_⟩
  · simp only [report, run_of_unreadable h, and_self]
  · by_cases hempty : auths = ∅
    · subst hempty
      let invocation : Invocation := { request with build? := none, socket }
      have hb : invocation.build? = none := rfl
      simp only [report, run_of_empty h]
      refine ⟨invocation, store, rfl, by simp [invocation], by simp, fun b => ?_, ?_, settles_judge _⟩
      · simp only [ne_eq, not_true_eq_false, and_false, if_false]
        rfl
      · exact fun keeps => keeps.store_eq hb
    · let invocation : Invocation := { request with build? := some id, socket }
      let opened := Progress.enter { store } id auths
      have hb : invocation.build? = some id := rfl
      simp only [report, run_of_auths h hempty]
      refine ⟨invocation, opened.store, rfl, by simp [invocation, hempty], fun b => ?_, fun b => ?_, ?_,
        settles_judge _⟩
      · rw [getElem?_enter]
        simp [hempty, eq_comm]
      · rw [getElem?_launch_leave]
        simp only [hempty, eq_comm, ne_eq, not_false_eq_true, and_true]
        rfl
      · exact fun keeps => keeps.store_leave hb fresh

/-- An engine that removes the credentials it finds, and exits with `code`. -/
def Engine.taking (code : Int) : Engine := fun invocation store =>
  { store := (invocation.build?.map fun id => store.erase id).getD store, outcome := .ok code }

theorem Engine.keepsOthers_taking (code : Int) (invocation : Invocation) (store : Store) :
    (taking code).KeepsOthers invocation store := by
  intro b hb
  simp only [taking]
  cases hi : invocation.build? with
  | none => rfl
  | some id =>
    have hne : id ≠ b := fun he => hb (hi.trans (congrArg some he))
    rw [Option.map_some, Option.getD_some, Store.getElem?_erase, if_neg hne]

theorem readAuths_one :
    readAuths (some (.json [123, 34, 97, 34, 58, 91, 93, 125])) = .ok (Auths.ofRecords [("a", {})]) := by
  have hname : Json.nextName false [34, 97, 34, 58, 91, 93, 125] = .ok (some "a", [58, 91, 93, 125]) := by
    show (Json.readString [97, 34, 58, 91, 93, 125]).map _ = _
    rw [Json.readString, Json.readStringBytes, Json.readStringBytes]
    rfl
  have hrows : Json.readRows Record.shape [] false [34, 97, 34, 58, 91, 93, 125] =
      .ok ([("a", ["", "", "", "", "", "", ""])], []) := by
    rw [Json.readRows_eq, hname]
    show Json.readRows Record.shape [("a", ["", "", "", "", "", "", ""])] true [125] = _
    rw [Json.readRows_eq]
    rfl
  have htable : Json.parseTable Record.shape [123, 34, 97, 34, 58, 91, 93, 125] =
      .ok [("a", ["", "", "", "", "", "", ""])] := by
    show Json.finish (Json.readRows Record.shape [] false [34, 97, 34, 58, 91, 93, 125]) = _
    rw [hrows]
    rfl
  simp only [readAuths, RegistryAuth.read, Auths.ofJson, htable]
  rfl

/-- The engine of a build with credentials for `a`, beside another build, takes them away and fails. -/
theorem credentials_live_while_taking_engine_runs :
    let store : Store := Store.put ∅ ⟨"other"⟩ ∅
    let auth : RegistryAuth := .json [123, 34, 97, 34, 58, 91, 93, 125]
    let report := run (.taking 3) "socket" (.ok ⟨"own"⟩) store (some auth) { context := "." }
    (⟨"own"⟩ : BuildId) ∉ store ∧
      (∃ invocation opened, report.started = [(invocation, opened)] ∧ invocation.build? = some ⟨"own"⟩ ∧
        opened[(⟨"own"⟩ : BuildId)]? = some (Auths.ofRecords [("a", {})])) ∧
      report.store = store ∧ report.result = .error (.buildFailed 3) := by
  intro store auth report
  have hne : Auths.ofRecords [("a", {})] ≠ ∅ := by simp [Auths.ofRecords]
  have fresh : (⟨"own"⟩ : BuildId) ∉ store := by simp [store, Store.put]
  obtain ⟨invocation, opened, hs, hi, ho, -, hstore, hsettles⟩ :=
    (credentials_live_while_engine_runs fresh (.taking 3) "socket" (some auth) { context := "." }).2 _
      readAuths_one
  refine ⟨fresh, ⟨invocation, opened, hs, ?_, ?_⟩, hstore (Engine.keepsOthers_taking 3 _ _), ?_⟩
  · rw [hi, if_neg hne]
  · rw [ho, if_pos ⟨rfl, hne⟩]
  · exact (hsettles.failed 3).2 (.inl ⟨rfl, by decide⟩)

end BuildCredentials.Build
