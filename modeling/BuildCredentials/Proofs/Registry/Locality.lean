import BuildCredentials.Proofs.Registry.Resolution
import BuildCredentials.Registry.Config

/-!
# What further stored addresses change

Where addresses are added, an answer stays unless one of them is the answer (`Answers.of_larger`), and what was
answered before is answered by no later pass (`Answers.pass_le`). So a single stored address, when it is added or
removed, has no effect on the answers of the others (`resolve_insert_local`).
-/

set_option autoImplicit false

namespace BuildCredentials.Registry

/-- The passes of a search, in the order that they are made in. -/
def MatchKind.pass : MatchKind → Nat
  | .exact => 0
  | .approximate => 1
  | .verbatim => 2

/-! ## Sets of stored addresses -/

section

variable {stored stored' : String → Prop} {requested : String} {answer : Option (String × MatchKind)}

theorem Fits.mono {condition : Url → Prop} {key : String} (sub : ∀ k, stored k → stored' k)
    (h : Fits stored condition key) : Fits stored' condition key :=
  ⟨sub key h.1, h.2⟩

/-- What comes first among more texts came first before, unless it is new. -/
theorem First.of_larger {condition : Url → Prop} {text : String} (sub : ∀ k, stored k → stored' k)
    (old : stored text) (h : First (Fits stored' condition) text) : First (Fits stored condition) text :=
  ⟨⟨old, h.holds.2⟩, fun other hother => h.le other (hother.mono sub)⟩

/-- Among more addresses an answer is the old one, or one of those that are new. -/
theorem Answers.of_larger (sub : ∀ k, stored k → stored' k) (h : Answers stored' requested answer) :
    Answers stored requested answer ∨ ∃ key kind, answer = some (key, kind) ∧ stored' key ∧ ¬stored key := by
  -- What was found is new, or it is old and was found already; nothing is found of less where nothing is of more.
  cases h with
  | verbatim unread kept =>
    by_cases old : stored requested
    · exact .inl (.verbatim unread old)
    · exact .inr ⟨_, _, rfl, kept, old⟩
  | unknown unread missing => exact .inl (.unknown unread (mt (sub _) missing))
  | @exact _ key read first =>
    by_cases old : stored key
    · exact .inl (.exact read (first.of_larger sub old))
    · exact .inr ⟨_, _, rfl, first.holds.1, old⟩
  | @approximate _ key read inexact first =>
    by_cases old : stored key
    · exact .inl (.approximate read (fun other => mt (Fits.mono sub) (inexact other)) (first.of_larger sub old))
    · exact .inr ⟨_, _, rfl, first.holds.1, old⟩
  | nothing read inexact unlike =>
    exact .inl (.nothing read (fun other => mt (Fits.mono sub) (inexact other))
      (fun other => mt (Fits.mono sub) (unlike other)))

/-- Among more addresses the pass that found an answer still finds one, if none before it does. -/
theorem Answers.pass_le {old : String} {kind : MatchKind} (sub : ∀ k, stored k → stored' k)
    (before : Answers stored requested (some (old, kind))) (h : Answers stored' requested answer) :
    ∃ new kind', answer = some (new, kind') ∧ kind'.pass ≤ kind.pass := by
  cases before with
  | verbatim unread kept =>
    cases h with
    | verbatim _ _ => exact ⟨_, _, rfl, Nat.le_refl _⟩
    | unknown _ missing => exact absurd (sub _ kept) missing
    | exact read _ | approximate read _ _ | nothing read _ _ => exact absurd read (Address.parse?_ne_some unread)
  | exact read first =>
    cases h with
    | verbatim unread _ | unknown unread _ => exact absurd read (Address.parse?_ne_some unread)
    | exact _ _ => exact ⟨_, _, rfl, Nat.le_refl _⟩
    | approximate read' inexact _ | nothing read' inexact _ =>
      cases read.symm.trans read'
      exact absurd (first.holds.mono sub) (inexact _)
  | approximate read _ first =>
    cases h with
    | verbatim unread _ | unknown unread _ => exact absurd read (Address.parse?_ne_some unread)
    | exact _ _ => exact ⟨_, _, rfl, Nat.zero_le _⟩
    | approximate _ _ _ => exact ⟨_, _, rfl, Nat.le_refl _⟩
    | nothing read' _ unlike =>
      cases read.symm.trans read'
      exact absurd (first.holds.mono sub) (unlike _)

end

/-! ## One more address, one less -/

section

variable {α : Type} (entries : Std.ExtTreeMap String α) (key : String) (value : α) (requested : String)

theorem mem_insert_of_mem (k : String) (h : k ∈ entries) : k ∈ entries.insert key value :=
  Std.ExtTreeMap.mem_insert.2 (.inr h)

theorem resolve_insert :
    resolve (entries.insert key value) requested = resolve entries requested ∨
      ∃ kind, resolve (entries.insert key value) requested = some (key, kind) := by
  obtain h | ⟨new, kind, hanswer, added, missing⟩ :=
    Answers.of_larger (mem_insert_of_mem entries key value)
      (resolve_eq_iff.1 (Eq.refl (resolve (entries.insert key value) requested)))
  · exact .inl (resolve_eq_iff.2 h).symm
  · obtain hnew | old := Std.ExtTreeMap.mem_insert.1 added
    · obtain rfl := Std.LawfulEqOrd.eq_of_compare hnew
      exact .inr ⟨kind, hanswer⟩
    · exact absurd old missing

/-- What is removed was the answer, or the answer stays. -/
theorem resolve_erase :
    resolve (entries.erase key) requested = resolve entries requested ∨
      ∃ kind, resolve entries requested = some (key, kind) := by
  have sub (k : String) (h : k ∈ entries.erase key) : k ∈ entries := Std.ExtTreeMap.mem_of_mem_erase h
  obtain h | ⟨old, kind, hanswer, stored, removed⟩ :=
    Answers.of_larger sub (resolve_eq_iff.1 (Eq.refl (resolve entries requested)))
  · exact .inl (resolve_eq_iff.2 h)
  · by_cases hold : compare key old = .eq
    · obtain rfl := Std.LawfulEqOrd.eq_of_compare hold
      exact .inr ⟨kind, hanswer⟩
    · exact absurd (Std.ExtTreeMap.mem_erase.2 ⟨hold, stored⟩) removed

/-- A stored address that is added leaves every answer as it was, or is itself the answer. So it never takes an
answer away or moves one to a later pass or to another of the old addresses. One that is removed changes no answer
but its own. -/
theorem resolve_insert_local :
    (resolve (entries.insert key value) requested = resolve entries requested ∨
        ∃ kind, resolve (entries.insert key value) requested = some (key, kind)) ∧
      (∀ old kind, resolve entries requested = some (old, kind) →
        ∃ new kind', resolve (entries.insert key value) requested = some (new, kind') ∧ kind'.pass ≤ kind.pass ∧
          (new = key ∨ new = old ∧ kind' = kind)) ∧
      ∀ other, (∀ kind, resolve entries requested ≠ some (other, kind)) →
        resolve (entries.erase other) requested = resolve entries requested := by
  refine ⟨resolve_insert entries key value requested, fun old kind before => ?_, fun other unanswered => ?_⟩
  · obtain ⟨new, kind', after, hpass⟩ :=
      Answers.pass_le (mem_insert_of_mem entries key value) (resolve_eq_iff.1 before) (resolve_eq_iff.1 rfl)
    refine ⟨new, kind', after, hpass, ?_⟩
    obtain same | ⟨_, named⟩ := resolve_insert entries key value requested
    · rw [after, before] at same
      cases same
      exact .inr ⟨rfl, rfl⟩
    · rw [after] at named
      cases named
      exact .inl rfl
  · obtain same | ⟨kind, answered⟩ := resolve_erase entries other requested
    · exact same
    · exact absurd answered (unanswered kind)

end

/-- Once its own spelling is stored, a request goes by that, and the address that answered it may be removed. -/
theorem resolve_insert_local_of_own_spelling :
    (∃ new kind', resolve ((Auths.ofRecords [("https://[::1]:6000/v1/", {})]).insert "https://[::1]" {})
        "https://[::1]" = some (new, kind') ∧ kind'.pass ≤ MatchKind.approximate.pass ∧
        (new = "https://[::1]" ∨ new = "https://[::1]:6000/v1/" ∧ kind' = .approximate)) ∧
      resolve ((Auths.ofRecords [("https://[::1]:6000/v1/", {}), ("https://[::1]", {})]).erase
        "https://[::1]:6000/v1/") "https://[::1]" = some ("https://[::1]", .exact) := by
  have before : resolve (Auths.ofRecords [("https://[::1]:6000/v1/", {})]) "https://[::1]" =
      some ("https://[::1]:6000/v1/", .approximate) := by decide +kernel
  have after : resolve (Auths.ofRecords [("https://[::1]:6000/v1/", {}), ("https://[::1]", {})]) "https://[::1]" =
      some ("https://[::1]", .exact) := by decide +kernel
  refine ⟨(resolve_insert_local _ _ _ _).2.1 _ _ before, ?_⟩
  rw [(resolve_insert_local _ "" {} _).2.2 "https://[::1]:6000/v1/" (by simp [after]), after]

end BuildCredentials.Registry
