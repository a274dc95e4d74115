import BuildCredentials.Proofs.Store.History

/-!
# Clients that share the store

A schedule interleaves the operations of any number of clients. Clients that work on builds of their own get
the answers that each would get alone, whatever the schedule (`answersTo_eq_answers`). With the theory of
histories this says all that there is to say of what the store answers (`answers_determined_by_builds`).
-/

set_option autoImplicit false

namespace BuildCredentials.Store

open Registry

section
variable {α κ : Type} [DecidableEq κ]

/-- The operations of one client, in their order. -/
def ofClient (c : κ) (schedule : List (κ × Operation α)) : List (Operation α) :=
  (schedule.filter (·.1 = c)).map (·.2)

/-- What the operations of one client are answered with when all those of a schedule are performed. -/
def answersTo (c : κ) (store : Store) : List (κ × Operation α) → List (Answer α)
  | [] => []
  | (d, o) :: rest =>
    let (after, answer) := store.perform o
    if d = c then answer :: answersTo c after rest else answersTo c after rest

theorem ofClient_cons_self (c : κ) (o : Operation α) (rest : List (κ × Operation α)) :
    ofClient c ((c, o) :: rest) = o :: ofClient c rest := by simp [ofClient]

theorem ofClient_cons_ne {c d : κ} (h : d ≠ c) (o : Operation α) (rest : List (κ × Operation α)) :
    ofClient c ((d, o) :: rest) = ofClient c rest := by simp [ofClient, h]

theorem mem_ofClient {c : κ} {o : Operation α} {schedule : List (κ × Operation α)} :
    o ∈ ofClient c schedule ↔ (c, o) ∈ schedule := by simp [ofClient]

theorem getElem?_perform_of_ne {store : Store} {o : Operation α} {b : BuildId} (h : o.build ≠ b) :
    (store.perform o).1[b]? = store[b]? := by
  rw [getElem?_perform, if_neg fun hm => h (Operation.build_of_mutates hm)]

theorem getElem?_perform_congr {store store' : Store} {b : BuildId} (h : store[b]? = store'[b]?)
    (o : Operation α) : (store.perform o).1[b]? = (store'.perform o).1[b]? := by
  rw [getElem?_perform, getElem?_perform, h]

/-- Two stores that agree on the builds of a client answer it alike, if nobody else touches these builds. -/
theorem answersTo_eq_answers {c : κ} {schedule : List (κ × Operation α)} {store store' : Store}
    (agree : ∀ o ∈ ofClient c schedule, store[o.build]? = store'[o.build]?)
    (apart : ∀ d p, (d, p) ∈ schedule → d ≠ c → ∀ o ∈ ofClient c schedule, p.build ≠ o.build) :
    store.answersTo c schedule = store'.answers (ofClient c schedule) := by
  induction schedule generalizing store store' with
  | nil => rfl
  | cons step rest ih =>
    obtain ⟨d, p⟩ := step
    by_cases hd : d = c
    · subst hd
      rw [ofClient_cons_self] at agree apart ⊢
      simp only [answersTo, answers, if_true]
      rw [perform_congr (agree p (.head _))]
      congr 1
      refine ih (fun o ho => ?_) fun d' p' hm hne o ho => ?_
      · exact getElem?_perform_congr (agree o (.tail _ ho)) p
      · exact apart d' p' (.tail _ hm) hne o (.tail _ ho)
    · rw [ofClient_cons_ne hd] at agree apart ⊢
      simp only [answersTo, if_neg hd]
      refine ih (fun o ho => ?_) fun d' p' hm hne o ho => apart d' p' (.tail _ hm) hne o ho
      rw [getElem?_perform_of_ne (apart d p (.head _) hd o ho)]
      exact agree o ho

end

/-- The store is determined by what happened to each build. Over any history: an operation is answered as
`Answers` says from what its build is left with; the builds that are left with credentials are counted; the
answer is the same after every history that did the same to its build; and clients with builds of their own
are answered, under every interleaving of what they do, as if each were alone. -/
theorem answers_determined_by_builds {α : Type} (history : List (Operation α)) :
    (∀ i o, history[i]? = some o →
      ∃ a, (answers ∅ history)[i]? = some a ∧ Answers (held? o.build (history.take i)) o a) ∧
    (∃ active : Finset BuildId, (∀ b, b ∈ active ↔ (held? b history).isSome) ∧
      (run ∅ history).size = active.card) ∧
    (∀ (history' : List (Operation α)) (o : Operation α),
      history.filter (·.mutates o.build) = history'.filter (·.mutates o.build) →
      ((run ∅ history).perform o).2 = ((run ∅ history').perform o).2) ∧
    ∀ (κ : Type) [DecidableEq κ] (programs : κ → List (Operation α)) (schedule : List (κ × Operation α)),
      (∀ c, ofClient c schedule = programs c) →
      (∀ c d, c ≠ d → ∀ o ∈ programs c, ∀ p ∈ programs d, o.build ≠ p.build) →
      ∀ c, answersTo c ∅ schedule = answers ∅ (programs c) := by
  refine ⟨fun i o ho => ?_, ?_, fun history' o hf => ?_, fun κ _ programs schedule hp apart c => ?_⟩
  · refine ⟨((run ∅ (history.take i)).perform o).2, by rw [getElem?_answers, ho]; rfl, ?_⟩
    rw [← getElem?_run]
    exact answers_perform _ o
  · obtain ⟨active, hmem, hcard⟩ := exists_card_eq_size (run ∅ history)
    exact ⟨active, fun b => (hmem b).trans (mem_run_iff history b), hcard⟩
  · apply perform_congr
    rw [getElem?_run, getElem?_run, held?, held?, hf]
  · rw [← hp c]
    refine answersTo_eq_answers (fun _ _ => rfl) fun d p hm hne o ho => ?_
    exact apart d c hne p (hp d ▸ mem_ofClient.2 hm) o (hp c ▸ ho)

end BuildCredentials.Store
