import BuildCredentials.Proofs.Text.Cutting
import BuildCredentials.Toml.Scalar
import Mathlib.Algebra.Ring.Int.Defs

/-!
# Words and numbers are read as they were written

A word is read up to its end (`read_word`), and the digits of a whole number that 64 bits hold are read as that
number (`ofWord?_digits`).
-/

set_option autoImplicit false

namespace BuildCredentials.Toml.Scalar

variable {word rest digits : List Char} {v : Value} {c : Char} {n : Nat}

theorem read_word (hword : ∀ c ∈ word, isWordChar c) (hr : ∀ c ∈ rest.head?, isWordChar c = false ∧ c ≠ ' ')
    (hv : ofWord? word = some v) : read (word ++ rest) = some (v, rest) := by
  obtain ⟨htake, hdrop⟩ := Text.cut_append hword fun c hc => (hr c hc).1
  unfold read
  simp only [htake, hdrop]
  split
  · exact absurd rfl (hr ' ' rfl).2
  · rw [hv]
    rfl

theorem read_of_not_isWordChar (hc : isWordChar c = false) : read (c :: rest) = none := by
  unfold read
  simp only [hc, List.takeWhile_cons, List.dropWhile_cons, Bool.false_eq_true, if_false]
  split
  · rfl
  · rfl

/-! ## Whole numbers -/

theorem digitValue_of_isDigit (h : c.isDigit) : digitValue c = c.toNat - 48 := if_pos h

theorem isDigitOf_of_isDigit (h : c.isDigit) : isDigitOf 10 c := by
  have hle : c.toNat ≤ 57 := (Char.isDigit_iff_toNat.1 h).2
  simp only [isDigitOf, Char.isAlphanum, digitValue_of_isDigit h, h, Bool.or_true, Bool.true_and, decide_eq_true_eq]
  omega

theorem ne_of_isDigit {d : Char} (h : c.isDigit) (hd : d.isDigit = false) : c ≠ d := by
  rintro rfl
  rw [h] at hd
  cases hd

theorem ungroup?_digits (hd : ∀ c ∈ digits, c.isDigit) (hne : digits ≠ []) : ungroup? 10 digits = some digits := by
  induction digits with
  | nil => exact absurd rfl hne
  | cons c rest ih =>
    obtain ⟨hc, hrest⟩ := List.forall_mem_cons.1 hd
    cases rest with
    | nil => simp [ungroup?, isDigitOf_of_isDigit hc]
    | cons d after =>
      have hunder : d ≠ '_' := ne_of_isDigit (hrest d (.head _)) rfl
      simp [ungroup?, isDigitOf_of_isDigit hc, hunder, ih hrest]

theorem valueOf_digits (hd : ∀ c ∈ digits, c.isDigit) (n : Nat) :
    digits.foldl (fun n c => 10 * n + digitValue c) n = Nat.ofDigitChars 10 digits n := by
  induction digits generalizing n with
  | nil => rfl
  | cons c rest ih =>
    obtain ⟨hc, hrest⟩ := List.forall_mem_cons.1 hd
    rw [List.foldl_cons, ih hrest, Nat.ofDigitChars_cons, digitValue_of_isDigit hc]
    rfl

theorem isDigit_of_mem_toDigits (h : c ∈ Nat.toDigits 10 n) : c.isDigit :=
  Nat.isDigit_of_mem_toDigits (by decide) (by decide) h

theorem inRange?_of_le (h : n ≤ Int64.maxValue.toInt) : inRange? n = some (n : Int) := by
  have hmin : Int64.minValue.toInt ≤ 0 := by decide
  rw [inRange?, if_pos ⟨by omega, h⟩]

theorem wholeDigits?_toDigits (n : Nat) : wholeDigits? (Nat.toDigits 10 n) = some (Nat.toDigits 10 n) := by
  have hdigits := ungroup?_digits (fun c => isDigit_of_mem_toDigits (n := n)) Nat.toDigits_ne_nil
  rw [wholeDigits?, hdigits, Option.bind_eq_bind, Option.bind_some, if_neg]
  rintro ⟨hlength, hzero⟩
  by_cases h0 : n = 0
  · subst h0
    exact hlength rfl
  · exact Text.head?_toDigits h0 hzero

theorem takeSign_toDigits (n : Nat) : takeSign (Nat.toDigits 10 n) = (false, Nat.toDigits 10 n) := by
  unfold takeSign
  split
  · rename_i rest h
    exact absurd rfl (ne_of_isDigit (d := '-') (isDigit_of_mem_toDigits (h ▸ List.mem_cons_self)) rfl)
  · rename_i rest h
    exact absurd rfl (ne_of_isDigit (d := '+') (isDigit_of_mem_toDigits (h ▸ List.mem_cons_self)) rfl)
  · rfl

/-- Digits alone name no other base. -/
theorem integer?_toDigits (h : n ≤ Int64.maxValue.toInt) : integer? (Nat.toDigits 10 n) = some (n : Int) := by
  have hletter {x : Char} {rest : List Char} (hx : x.isDigit = false) : Nat.toDigits 10 n ≠ '0' :: x :: rest := by
    intro he
    have hmem : x ∈ Nat.toDigits 10 n := by simp [he]
    exact ne_of_isDigit (isDigit_of_mem_toDigits hmem) hx rfl
  have hvalue : valueOf 10 (Nat.toDigits 10 n) = n := by
    rw [valueOf, valueOf_digits fun c => isDigit_of_mem_toDigits, Nat.ofDigitChars_ten_toDigits]
  unfold integer?
  split
  · rename_i he
    exact absurd he (hletter rfl)
  · rename_i he
    exact absurd he (hletter rfl)
  · rename_i he
    exact absurd he (hletter rfl)
  · simp [takeSign_toDigits, wholeDigits?_toDigits, hvalue, inRange?_of_le h]

theorem ofWord?_digits (h : n ≤ Int64.maxValue.toInt) : ofWord? (Nat.toDigits 10 n) = some (.integer n) := by
  have hword {w : Char} {rest : List Char} (hw : w.isDigit = false) : Nat.toDigits 10 n ≠ w :: rest := by
    intro he
    exact ne_of_isDigit (isDigit_of_mem_toDigits (n := n) (he ▸ List.mem_cons_self)) hw rfl
  rw [ofWord?, if_neg (hword rfl), if_neg (hword rfl), integer?_toDigits h]

end BuildCredentials.Toml.Scalar
