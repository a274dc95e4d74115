import BuildCredentials.Json.Lexeme

/-!
# Passing over a value

`skip` passes over one value of any kind without keeping it. Values inside arrays and objects may nest to any
depth: the open arrays and objects stand on a list, so nothing but the text bounds them. Numbers of any size
and strings with unpaired surrogates are passed over as well.
-/

set_option autoImplicit false

namespace BuildCredentials.Json

/-- An array or an object that is open. -/
inductive Frame where
  | array
  | object
  deriving DecidableEq, Repr

theorem length_of_readWord {w s r : List UInt8} (h : readWord w s = .ok r) : r.length ≤ s.length := by
  induction w generalizing s with
  | nil => simp only [readWord, Except.ok.injEq] at h; simp [h]
  | cons e es ih =>
    cases s with
    | nil => simp [readWord, failHere] at h
    | cons b rest =>
      simp only [readWord] at h
      split at h
      · have := ih h; simp only [List.length_cons]; omega
      · simp [failHere] at h

theorem length_of_skipString {s r : List UInt8} (h : skipString s = .ok r) : r.length < s.length := by
  induction hn : s.length using Nat.strongRecOn generalizing s with
  | ind n ih =>
    subst hn
    cases s with
    | nil => simp [skipString, failHere] at h
    | cons b rest =>
      rw [skipString] at h
      split at h
      · simp only [Except.ok.injEq] at h; simp [h]
      · split at h
        · split at h
          · simp at h
          · next heq =>
            have hle := length_of_skipEscape heq
            have := ih _ (by simp only [List.length_cons]; omega) h rfl
            simp only [List.length_cons]; omega
        · split at h
          · simp [failHere] at h
          · have := ih _ (by simp) h rfl
            simp only [List.length_cons]; omega

theorem length_dropDigits (s : List UInt8) : (s.dropWhile isDigit).length ≤ s.length :=
  (List.dropWhile_sublist _).length_le

theorem length_skipSign (s : List UInt8) : (skipSign s).length ≤ s.length := by
  unfold skipSign
  split
  · simp
  · split <;> simp

theorem length_of_skipDigits {s r : List UInt8} (h : skipDigits s = .ok r) : r.length ≤ s.length := by
  unfold skipDigits at h
  split at h
  · simp [failHere] at h
  · next b rest =>
    split at h
    · simp only [Except.ok.injEq] at h
      have := length_dropDigits rest
      simp only [← h, List.length_cons]; omega
    · simp [failHere] at h

theorem length_of_skipExponent {s r : List UInt8} (h : skipExponent s = .ok r) : r.length ≤ s.length :=
  Nat.le_trans (length_of_skipDigits h) (length_skipSign s)

theorem length_of_skipOptionalExponent {s r : List UInt8} (h : skipOptionalExponent s = .ok r) :
    r.length ≤ s.length := by
  unfold skipOptionalExponent at h
  split at h
  · split at h
    · have := length_of_skipExponent h; simp only [List.length_cons]; omega
    · simp only [Except.ok.injEq] at h; simp [h]
  · simp only [Except.ok.injEq] at h; simp [← h]

theorem length_of_skipFraction {s r : List UInt8} (h : skipFraction s = .ok r) : r.length ≤ s.length := by
  unfold skipFraction at h
  split at h
  · next b rest =>
    split at h
    · have := length_of_skipOptionalExponent h
      have := length_dropDigits (b :: rest)
      omega
    · simp [failNext] at h
  · simp [failNext] at h

theorem length_of_skipAfterWhole {s r : List UInt8} (h : skipAfterWhole s = .ok r) : r.length ≤ s.length := by
  unfold skipAfterWhole at h
  split at h
  · split at h
    · have := length_of_skipFraction h; simp only [List.length_cons]; omega
    · exact length_of_skipOptionalExponent h
  · simp only [Except.ok.injEq] at h; simp [← h]

theorem length_of_skipNumber {s r : List UInt8} (h : skipNumber s = .ok r) : r.length < s.length := by
  unfold skipNumber at h
  split at h
  · simp [failHere] at h
  · next b rest =>
    split at h
    · split at h
      · split at h
        · simp [failNext] at h
        · have := length_of_skipAfterWhole h; simp only [List.length_cons] at *; omega
      · simp only [Except.ok.injEq] at h; simp [← h]
    · split at h
      · have := length_of_skipAfterWhole h
        have := length_dropDigits rest
        simp only [List.length_cons]; omega
      · simp [failHere] at h

/-- Passes over a value that is no array and no object, given its first byte. -/
def skipScalar (b : UInt8) (rest : List UInt8) : Except Failure (List UInt8) :=
  if b = 110 then readWord wordNull rest
  else if b = 116 then readWord wordTrue rest
  else if b = 102 then readWord wordFalse rest
  else if b = 45 then skipNumber rest
  else if isDigit b then skipNumber (b :: rest)
  else if b = 34 then skipString rest
  else failNext .expectedValue (b :: rest)

theorem length_of_skipScalar {b : UInt8} {s r : List UInt8} (h : skipScalar b s = .ok r) :
    r.length ≤ s.length := by
  unfold skipScalar at h
  split at h
  · exact length_of_readWord h
  · split at h
    · exact length_of_readWord h
    · split at h
      · exact length_of_readWord h
      · split at h
        · exact Nat.le_of_lt (length_of_skipNumber h)
        · split at h
          · have := length_of_skipNumber h; simp only [List.length_cons] at this; omega
          · split at h
            · exact Nat.le_of_lt (length_of_skipString h)
            · simp [failNext] at h

/-- Passes over the colon after the name of a member. -/
def readColon (bytes : List UInt8) : Except Failure (List UInt8) :=
  match skipBlanks bytes with
  | [] => failNext .endInObject []
  | b :: rest => if b = 58 then .ok rest else failNext .expectedColon (b :: rest)

theorem length_of_readColon {s r : List UInt8} (h : readColon s = .ok r) : r.length ≤ s.length := by
  unfold readColon at h
  split at h
  · simp [failNext] at h
  · next heq =>
    have := length_skipBlanks s
    rw [heq] at this
    split at h
    · simp only [Except.ok.injEq] at h
      simp only [List.length_cons] at this
      rw [← h]; omega
    · simp [failNext] at h

/-- Passes over the name of a member and its colon. -/
def skipName (bytes : List UInt8) : Except Failure (List UInt8) :=
  match skipBlanks bytes with
  | [] => failNext .endInObject []
  | b :: rest =>
    if b = 34 then
      match skipString rest with
      | .error f => .error f
      | .ok after => readColon after
    else failNext .keyNotString (b :: rest)

theorem length_of_skipName_lt {s r : List UInt8} (h : skipName s = .ok r) : r.length < s.length := by
  unfold skipName at h
  split at h
  · simp [failNext] at h
  · next heq =>
    have := length_skipBlanks s
    rw [heq] at this
    simp only [List.length_cons] at this
    split at h
    · split at h
      · simp at h
      · next heq' =>
        have := length_of_skipString heq'
        have := length_of_readColon h
        omega
    · simp [failNext] at h

theorem length_of_skipName {s r : List UInt8} (h : skipName s = .ok r) : r.length ≤ s.length :=
  Nat.le_of_lt (length_of_skipName_lt h)

/-- What is wrong with a byte that neither goes on with nor ends what is open. -/
def Frame.expectedComma : Frame → Cause
  | .array => .expectedArrayComma
  | .object => .expectedObjectComma

/-- What is wrong with a text that ends inside what is open. -/
def Frame.endInside : Frame → Cause
  | .array => .endInArray
  | .object => .endInObject

/-- The byte that ends what is open. -/
def Frame.closing : Frame → UInt8
  | .array => 93
  | .object => 125

/-- The array or object that a byte opens. -/
def Frame.opened? (b : UInt8) : Option Frame :=
  if b = 91 then some .array else if b = 123 then some .object else none

mutual

/-- Passes over a value and what is left of the arrays and objects in `stack`. -/
def skipValue (stack : List Frame) (bytes : List UInt8) : Except Failure (List UInt8) :=
  match _h : skipBlanks bytes with
  | [] => failNext .endInValue []
  | b :: rest =>
    match Frame.opened? b with
    | some frame => skipRest (frame :: stack) false rest
    | none =>
      match _hs : skipScalar b rest with
      | .error f => .error f
      | .ok after => skipRest stack true after
termination_by (bytes.length, 0)
decreasing_by
  · have := length_skipBlanks bytes
    rw [_h] at this
    simp only [List.length_cons] at this
    simp only [Prod.lex_def]; omega
  · have := length_skipBlanks bytes
    rw [_h] at this
    simp only [List.length_cons] at this
    have := length_of_skipScalar _hs
    simp only [Prod.lex_def]; omega

/-- Passes over a member or an item of what is innermost in the stack. -/
def skipElement (frame : Frame) (stack : List Frame) (bytes : List UInt8) : Except Failure (List UInt8) :=
  match frame with
  | .array => skipValue (.array :: stack) bytes
  | .object =>
    match _hn : skipName bytes with
    | .error f => .error f
    | .ok after => skipValue (.object :: stack) after
termination_by (bytes.length, 1)
decreasing_by
  · exact Prod.Lex.right _ Nat.zero_lt_one
  · have := length_of_skipName _hn
    simp only [Prod.lex_def]; omega

/-- Passes over what is left of the arrays and objects in `stack`; `begun` says whether the innermost one has
an item or member already. -/
def skipRest (stack : List Frame) (begun : Bool) (bytes : List UInt8) : Except Failure (List UInt8) :=
  match stack with
  | [] => .ok bytes
  | frame :: outer =>
    match _h : skipBlanks bytes with
    | [] => failNext frame.endInside []
    | b :: rest =>
      if b = 44 ∧ begun then skipElement frame outer rest
      else if b = frame.closing then skipRest outer true rest
      else if begun then failNext frame.expectedComma (b :: rest)
      else skipElement frame outer (b :: rest)
termination_by (bytes.length, 2)
decreasing_by
  all_goals
    have := length_skipBlanks bytes
    rw [_h] at this
    simp only [List.length_cons] at this
    simp only [Prod.lex_def, List.length_cons]
    omega

end

theorem length_of_skipping (bytes : List UInt8) :
    (∀ stack r, skipValue stack bytes = .ok r → r.length ≤ bytes.length) ∧
    (∀ frame stack r, skipElement frame stack bytes = .ok r → r.length ≤ bytes.length) ∧
    (∀ stack begun r, skipRest stack begun bytes = .ok r → r.length ≤ bytes.length) := by
  induction hn : bytes.length using Nat.strongRecOn generalizing bytes with
  | ind n ih =>
    subst hn
    have hblank := length_skipBlanks bytes
    have hvalue : ∀ stack r, skipValue stack bytes = .ok r → r.length ≤ bytes.length := by
      intro stack r h
      rw [skipValue] at h
      split at h
      · simp [failNext] at h
      · next b rest heq =>
        rw [heq] at hblank
        simp only [List.length_cons] at hblank
        split at h
        · have := (ih _ (by omega) rest rfl).2.2 _ _ _ h; omega
        · split at h
          · simp at h
          · next after hs =>
            have := length_of_skipScalar hs
            have := (ih _ (by omega) after rfl).2.2 _ _ _ h; omega
    have helement : ∀ frame stack r, skipElement frame stack bytes = .ok r → r.length ≤ bytes.length := by
      intro frame stack r h
      rw [skipElement.eq_def] at h
      split at h
      · exact hvalue _ _ h
      · split at h
        · simp at h
        · next after hs =>
          have hle := length_of_skipName hs
          rcases Nat.lt_or_eq_of_le hle with hlt | heq
          · have := (ih _ hlt after rfl).1 _ _ h; omega
          · have hlt := length_of_skipName_lt hs; omega
    refine ⟨hvalue, helement, ?_⟩
    intro stack begun r h
    rw [skipRest.eq_def] at h
    split at h
    · simp only [Except.ok.injEq] at h; simp [h]
    · split at h
      · simp [failNext] at h
      · next b rest heq =>
        rw [heq] at hblank
        simp only [List.length_cons] at hblank
        split at h
        · have := (ih _ (by omega) rest rfl).2.1 _ _ _ h; omega
        · split at h
          · have := (ih _ (by omega) rest rfl).2.2 _ _ _ h; omega
          · split at h
            · simp [failNext] at h
            · rcases Nat.lt_or_eq_of_le hblank with hlt | heq'
              · have := (ih _ hlt (b :: rest) (by simp)).2.1 _ _ _ h
                omega
              · have hsame : bytes = b :: rest := by
                  have hs : (b :: rest).Sublist bytes := heq ▸ List.dropWhile_sublist _
                  exact (hs.eq_of_length (by simp [heq'])).symm
                rw [← hsame] at h
                exact helement _ _ _ h

/-- Passes over one value. -/
def skip (bytes : List UInt8) : Except Failure (List UInt8) := skipValue [] bytes

theorem length_of_skip {s r : List UInt8} (h : skip s = .ok r) : r.length ≤ s.length :=
  (length_of_skipping s).1 _ _ h

end BuildCredentials.Json
