import Mathlib.Data.List.TakeWhile

/-!
# Where a text is cut

Readers take characters of a kind from the front of a text and leave the rest. Where a part of the text ends in
which nothing stops, they stop there too (`cut_append`).
-/

set_option autoImplicit false

namespace BuildCredentials.Text

variable {α : Type} {p : α → Bool} {a : α}

theorem dropWhile_append_stop (stop : p a = false) (xs ys : List α) :
    (xs ++ a :: ys).dropWhile p = xs.dropWhile p ++ a :: ys := by
  induction xs with
  | nil => exact List.dropWhile_cons_of_neg (by simp [stop])
  | cons x xs ih =>
    rw [List.cons_append, List.dropWhile_cons, List.dropWhile_cons]
    split
    · exact ih
    · rfl

theorem takeWhile_append_stop {xs : List α} (pass : ∀ x ∈ xs, p x) (stop : p a = false) (ys : List α) :
    (xs ++ a :: ys).takeWhile p = xs := by
  rw [List.takeWhile_append_of_pos pass, List.takeWhile_cons_of_neg (by simp [stop]), List.append_nil]

theorem head?_dropWhile_stop (xs : List α) : ∀ x ∈ (xs.dropWhile p).head?, p x = false := fun x hx => by
  have hstop := List.head?_dropWhile_not p xs
  rwa [Option.mem_def.1 hx] at hstop

/-- A text is cut where a part of it ends in which nothing stops. -/
theorem cut_append {s t : List α} (pass : ∀ x ∈ s, p x) (stop : ∀ y ∈ t.head?, p y = false) :
    (s ++ t).takeWhile p = s ∧ (s ++ t).dropWhile p = t := by
  cases t with
  | nil =>
    rw [List.append_nil]
    exact ⟨List.takeWhile_eq_self_iff.2 pass, List.dropWhile_eq_nil_iff.2 pass⟩
  | cons y t =>
    have hy := stop y rfl
    refine ⟨takeWhile_append_stop pass hy t, ?_⟩
    rw [dropWhile_append_stop hy, List.dropWhile_eq_nil_iff.2 pass, List.nil_append]

/-- In a part that a text is split into nothing splits it. -/
theorem of_mem_splitOnP {s part : List α} (h : part ∈ s.splitOnP p) : ∀ x ∈ part, p x = false := by
  induction s generalizing part with
  | nil =>
    obtain rfl : part = [] := by simpa using h
    simp
  | cons y s ih =>
    rw [List.splitOnP_cons_eq_if_modifyHead] at h
    split at h
    · rcases List.mem_cons.1 h with rfl | h
      · simp
      · exact ih h
    · rename_i hy
      cases hsplit : s.splitOnP p with
      | nil => exact absurd hsplit (List.splitOnP_ne_nil _ _)
      | cons first others =>
        rw [hsplit] at h ih
        rcases List.mem_cons.1 h with rfl | h
        · exact List.forall_mem_cons.2 ⟨by simpa using hy, ih (.head _)⟩
        · exact ih (.tail _ h)

/-! ## Digits -/

theorem head?_toDigits {n : Nat} (h : n ≠ 0) : (Nat.toDigits 10 n).head? ≠ some '0' := by
  induction n using Nat.strongRecOn with
  | ind n ih =>
    by_cases hn : n < 10
    · simp [Nat.toDigits_of_lt_base hn, h]
    · have ih := ih (n / 10) (by omega) (by omega)
      rw [Nat.toDigits_of_base_le (by decide) (by omega), List.head?_append]
      cases hd : Nat.toDigits 10 (n / 10) with
      | nil => exact absurd hd Nat.toDigits_ne_nil
      | cons c cs => rwa [hd] at ih

end BuildCredentials.Text
