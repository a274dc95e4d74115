import BuildCredentials.Proofs.Registry.Matching
import BuildCredentials.Store.Operation
import Mathlib.Data.Finset.Card
import Mathlib.Data.List.Induction

/-!
# The store as its history has left it

`held? b history` is what the last operation on a build that stores or removes its credentials has left it
with. The store holds just that (`getElem?_run`), and what an operation answers is decided by what its build
is left with (`answers_perform`): `Answers` says how, case by case.
-/

set_option autoImplicit false

namespace BuildCredentials.Store

open Registry

section
variable {α : Type}

/-! ## What a history leaves -/

/-- An operation stores or removes credentials of `b`. -/
def Operation.mutates (b : BuildId) : Operation α → Bool
  | .put id _ | .replace id _ | .remove id | .take id => id = b
  | .get _ _ | .resolve _ _ | .inspect _ _ => false

/-- The credentials that an operation stores. -/
def Operation.stored? : Operation α → Option Auths
  | .put _ auths | .replace _ auths => some auths
  | _ => none

/-- What `b` is left with: what the last operation that mutates it has stored, if it has stored something. -/
def held? (b : BuildId) (history : List (Operation α)) : Option Auths :=
  (history.filter (·.mutates b)).getLast?.bind Operation.stored?

theorem held?_concat (b : BuildId) (history : List (Operation α)) (o : Operation α) :
    held? b (history ++ [o]) = if o.mutates b then o.stored? else held? b history := by
  unfold held?
  rw [List.filter_append]
  by_cases h : o.mutates b <;> simp [h]

theorem Operation.build_of_mutates {b : BuildId} {o : Operation α} (h : o.mutates b) : o.build = b := by
  cases o <;> simp_all [mutates, build]

/-! ## The store after a history -/

/-- One operation: it leaves every build as it was, but the one that it mutates. -/
theorem getElem?_perform (store : Store) (o : Operation α) (b : BuildId) :
    (store.perform o).1[b]? = if o.mutates b then o.stored? else store[b]? := by
  cases o with
  | put id auths | replace id auths =>
    simp [perform, Operation.mutates, Operation.stored?, getElem?_put]
  | get | resolve | inspect => simp [perform, Operation.mutates]
  | take id => simp [perform, Operation.mutates, Operation.stored?, getElem?_erase]
  | remove id =>
    by_cases hm : id ∈ store
    · simp [perform, Operation.mutates, Operation.stored?, remove_of_mem hm, getElem?_erase]
    · simpa [perform, Operation.mutates, Operation.stored?, remove_of_not_mem hm] using
        getElem?_of_not_mem hm b

theorem run_concat (store : Store) (history : List (Operation α)) (o : Operation α) :
    store.run (history ++ [o]) = ((store.run history).perform o).1 := by
  simp [run, List.foldl_append]

/-- The store holds what its history leaves. -/
theorem getElem?_run (history : List (Operation α)) (b : BuildId) :
    (run ∅ history)[b]? = held? b history := by
  induction history using List.reverseRecOn with
  | nil => simp [run, held?]
  | append_singleton history o ih => rw [run_concat, getElem?_perform, held?_concat, ih]

theorem mem_run_iff (history : List (Operation α)) (b : BuildId) :
    b ∈ run ∅ history ↔ (held? b history).isSome := by
  rw [← getElem?_run]
  exact Std.ExtTreeMap.mem_iff_isSome_getElem?

/-- The builds with credentials, each counted once. -/
theorem exists_card_eq_size (store : Store) :
    ∃ active : Finset BuildId, (∀ b, b ∈ active ↔ b ∈ store) ∧ store.size = active.card := by
  refine ⟨store.keys.toFinset, fun b => ?_, ?_⟩
  · rw [List.mem_toFinset, Std.ExtTreeMap.mem_keys]
  · rw [List.toFinset_card_of_nodup Std.ExtTreeMap.nodup_keys, Std.ExtTreeMap.length_keys]

/-! ## What is answered -/

/-- What looking up `address` comes to, given what its build `b` is left with. -/
inductive LookedUp (b : BuildId) (address : String) :
    Option Auths → Except Error (Record × MatchKind) → Prop
  | unknown : LookedUp b address none (.error (.buildNotFound b.fingerprint))
  | unmatched {auths : Auths} : Registry.resolve auths address = none →
      LookedUp b address (some auths) (.error (.credentialNotFound b.fingerprint address))
  | matched {auths : Auths} {key : String} {kind : MatchKind} {record : Record} :
      Registry.resolve auths address = some (key, kind) → auths[key]? = some record →
      LookedUp b address (some auths) (.ok (record, kind))

/-- What an operation answers, given what its build is left with before it. -/
inductive Answers (auths? : Option Auths) : Operation α → Answer α → Prop
  | put {b : BuildId} {auths : Auths} : Answers auths? (.put b auths) (.done (.ok ()))
  | get {b : BuildId} {address : String} {result : Except Error (Record × MatchKind)} :
      LookedUp b address auths? result → Answers auths? (.get b address) (.record (result.map (·.1)))
  | resolve {b : BuildId} {address : String} {result : Except Error (Record × MatchKind)} :
      LookedUp b address auths? result → Answers auths? (.resolve b address) (.found result)
  | remove {b : BuildId} : auths?.isSome → Answers auths? (.remove b) (.done (.ok ()))
  | removeNothing {b : BuildId} : auths? = none →
      Answers auths? (.remove b) (.done (.error (.buildNotFound b.fingerprint)))
  | replace {b : BuildId} {auths : Auths} : Answers auths? (.replace b auths) (.previous auths?)
  | inspect {b : BuildId} {read : Auths → α} : Answers auths? (.inspect b read) (.value (auths?.map read))
  | take {b : BuildId} : Answers auths? (.take b) (.previous auths?)

theorem lookedUp_resolve (store : Store) (b : BuildId) (address : String) :
    LookedUp b address store[b]? (store.resolve b address) := by
  unfold resolve
  cases store[b]? with
  | none => exact .unknown
  | some auths =>
    simp only [find?]
    cases hr : Registry.resolve auths address with
    | none => exact .unmatched hr
    | some answer =>
      obtain ⟨key, kind⟩ := answer
      obtain ⟨record, hk⟩ := exists_getElem?_of_resolve hr
      simpa [hk] using LookedUp.matched hr hk

/-- That nothing was resolved is all that a failure tells of its class. -/
theorem kind_of_resolve_error {store : Store} {b : BuildId} {address : String} {f : Error}
    (h : store.resolve b address = .error f) : f.kind = .notFound := by
  have hl := lookedUp_resolve store b address
  rw [h] at hl
  generalize store[b]? = auths? at hl
  cases hl with
  | unknown => rfl
  | unmatched _ => rfl

theorem answers_perform (store : Store) (o : Operation α) :
    Answers store[o.build]? o (store.perform o).2 := by
  cases o with
  | put b auths => exact .put
  | get b address => exact .get (lookedUp_resolve store b address)
  | resolve b address => exact .resolve (lookedUp_resolve store b address)
  | replace b auths => exact .replace
  | inspect b read => exact .inspect
  | take b => exact .take
  | remove b =>
    by_cases hm : b ∈ store
    · simp only [perform, remove_of_mem hm]
      exact .remove (Std.ExtTreeMap.mem_iff_isSome_getElem?.1 hm)
    · simp only [perform, remove_of_not_mem hm]
      exact .removeNothing (Std.ExtTreeMap.getElem?_eq_none hm)

theorem LookedUp.unique {b : BuildId} {address : String} {auths? : Option Auths}
    {result result' : Except Error (Record × MatchKind)} (h : LookedUp b address auths? result)
    (h' : LookedUp b address auths? result') : result = result' := by
  cases h <;> cases h' <;> simp_all

/-- A lookup finds the record at the key that answers the address. -/
theorem resolve_eq_ok_iff {store : Store} {b : BuildId} {address : String} {record : Record}
    {kind : MatchKind} : store.resolve b address = .ok (record, kind) ↔
      ∃ auths key, store[b]? = some auths ∧ Registry.resolve auths address = some (key, kind) ∧
        auths[key]? = some record := by
  have hl := lookedUp_resolve store b address
  constructor
  · intro h
    rw [h] at hl
    generalize store[b]? = auths? at hl
    cases hl with
    | matched hr hk => exact ⟨_, _, rfl, hr, hk⟩
  · rintro ⟨auths, key, ha, hr, hk⟩
    rw [ha] at hl
    exact hl.unique (.matched hr hk)

/-- The answer to an operation hangs on nothing but what its build is left with. -/
theorem Answers.unique {auths? : Option Auths} {o : Operation α} {a a' : Answer α}
    (h : Answers auths? o a) (h' : Answers auths? o a') : a = a' := by
  cases h with
  | get hl => cases h' with | get hl' => rw [hl.unique hl']
  | resolve hl => cases h' with | resolve hl' => rw [hl.unique hl']
  | remove hs => cases h' <;> simp_all
  | removeNothing hn => cases h' <;> simp_all
  | put | replace | inspect | take => cases h'; rfl

theorem perform_congr {store store' : Store} {o : Operation α} (h : store[o.build]? = store'[o.build]?) :
    (store.perform o).2 = (store'.perform o).2 :=
  (h ▸ answers_perform store o : Answers store'[o.build]? o _).unique (answers_perform store' o)

theorem getElem?_answers (store : Store) (operations : List (Operation α)) (i : Nat) :
    (store.answers operations)[i]? =
      operations[i]?.map fun o => ((store.run (operations.take i)).perform o).2 := by
  induction operations generalizing store i with
  | nil => simp [answers]
  | cons o rest ih =>
    cases i with
    | zero => simp [answers, run]
    | succ i => simpa [answers, run] using ih (store.perform o).1 i

end

end BuildCredentials.Store
