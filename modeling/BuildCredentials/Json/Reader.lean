import BuildCredentials.Json.Skip

/-!
# Reading a value

`parse` reads one value that is alone in a text. What is open stands on a list of `Hole`s, each an array or
an object that still waits for its next item or member. No more than `depthLimit` of them may be open.
-/

set_option autoImplicit false

namespace BuildCredentials.Json

theorem length_of_readStringBytes {acc s r t : List UInt8} (h : readStringBytes acc s = .ok (t, r)) :
    r.length < s.length := by
  induction hn : s.length using Nat.strongRecOn generalizing s acc with
  | ind n ih =>
    subst hn
    cases s with
    | nil => simp [readStringBytes, failHere] at h
    | cons b rest =>
      rw [readStringBytes] at h
      split at h
      · simp only [Except.ok.injEq, Prod.mk.injEq] at h; simp [h.2]
      · split at h
        · split at h
          · simp at h
          · next heq =>
            have hle := length_of_readEscape heq
            have := ih _ (by simp only [List.length_cons]; omega) h rfl
            simp only [List.length_cons]; omega
        · split at h
          · simp [failHere] at h
          · have := ih _ (by simp) h rfl
            simp only [List.length_cons]; omega

theorem length_of_readString {s r : List UInt8} {t : String} (h : readString s = .ok (t, r)) :
    r.length < s.length := by
  unfold readString at h
  split at h
  · simp at h
  · next heq =>
    split at h
    · simp only [Except.ok.injEq, Prod.mk.injEq] at h
      rw [← h.2]; exact length_of_readStringBytes heq
    · simp at h

theorem length_of_finishDouble {neg : Bool} {n : Nat} {e : Int} {s r : List UInt8} {x : Number}
    (h : finishDouble neg n e s = .ok (x, r)) : r = s := by
  unfold finishDouble at h
  split at h
  · simp only [Except.ok.injEq, Prod.mk.injEq] at h; exact h.2.symm
  · simp [failHere] at h

theorem length_readExponentDigits (e : Nat) (s : List UInt8) : (readExponentDigits e s).2.length ≤ s.length := by
  induction s generalizing e with
  | nil => simp [readExponentDigits]
  | cons b rest ih =>
    simp only [readExponentDigits]
    split
    · split
      · have := ih (10 * e + (b.toNat - 48)); simp only [List.length_cons]; omega
      · simp
    · simp

theorem length_of_readExponent {neg : Bool} {n : Nat} {e : Int} {s r : List UInt8} {x : Number}
    (h : readExponent neg n e s = .ok (x, r)) : r.length ≤ s.length := by
  unfold readExponent at h
  split at h
  next down digits heq =>
  have hle : digits.length ≤ s.length := by
    split at heq
    · split at heq
      · simp only [Prod.mk.injEq] at heq; simp [← heq.2]
      · split at heq <;> (simp only [Prod.mk.injEq] at heq; simp [← heq.2])
    · simp only [Prod.mk.injEq] at heq; simp [← heq.2]
  split at h
  · simp [failHere] at h
  · next b rest =>
    split at h
    · have hd := length_readExponentDigits 0 (b :: rest)
      split at h
      · next heq' =>
        rw [heq'] at hd
        rw [length_of_finishDouble h]; exact Nat.le_trans hd hle
      · next heq' =>
        rw [heq'] at hd
        split at h
        · simp [failHere] at h
        · rw [length_of_finishDouble h]
          exact Nat.le_trans (length_dropDigits _) (Nat.le_trans hd hle)
    · simp [failHere] at h

theorem length_of_afterDigits {neg : Bool} {n : Nat} {e : Int} {s r : List UInt8} {x : Number}
    (h : afterDigits neg n e s = .ok (x, r)) : r.length ≤ s.length := by
  unfold afterDigits at h
  split at h
  · split at h
    · have := length_of_readExponent h; simp only [List.length_cons]; omega
    · exact Nat.le_of_eq (congrArg _ (length_of_finishDouble h))
  · exact Nat.le_of_eq (congrArg _ (length_of_finishDouble h))

theorem length_of_readFraction {neg : Bool} {n e : Nat} {s r : List UInt8} {x : Number}
    (h : readFraction neg n e s = .ok (x, r)) : r.length ≤ s.length := by
  unfold readFraction at h
  split at h
  · simp [failHere] at h
  · simp [failNext] at h
  · next heq =>
    have hd := length_dropDigits s
    simp only [takeDigits, Prod.mk.injEq] at heq
    rw [heq.2] at hd
    exact Nat.le_trans (length_of_afterDigits h) hd

theorem length_of_afterWhole {neg : Bool} {n e : Nat} {s r : List UInt8} {x : Number}
    (h : afterWhole neg n e s = .ok (x, r)) : r.length ≤ s.length := by
  unfold afterWhole at h
  split at h
  · split at h
    · have := length_of_readFraction h; simp only [List.length_cons]; omega
    · split at h
      · have := length_of_readExponent h; simp only [List.length_cons]; omega
      · split at h
        · simp only [Except.ok.injEq, Prod.mk.injEq] at h; simp [← h.2]
        · exact Nat.le_of_eq (congrArg _ (length_of_finishDouble h))
  · split at h
    · simp only [Except.ok.injEq, Prod.mk.injEq] at h; simp [← h.2]
    · exact Nat.le_of_eq (congrArg _ (length_of_finishDouble h))

theorem length_of_readNumber {neg : Bool} {s r : List UInt8} {x : Number}
    (h : readNumber neg s = .ok (x, r)) : r.length < s.length := by
  unfold readNumber at h
  split at h
  · simp [failHere] at h
  · next b rest =>
    split at h
    · split at h
      · split at h
        · simp [failNext] at h
        · have := length_of_afterWhole h; simp only [List.length_cons] at *; omega
      · have := length_of_afterWhole h; simp only [List.length_cons] at *; omega
    · split at h
      · next hb =>
        simp only [takeDigits, List.dropWhile_cons, hb, if_true] at h
        have := length_of_afterWhole h
        have := length_dropDigits rest
        simp only [List.length_cons]; omega
      · simp [failHere] at h

/-- Keeps a value beside the bytes after a word. -/
def Reading.constant (v : Json) (bytes : Except Failure (List UInt8)) : Reading Json := bytes.map (v, ·)

/-- The value of a number. -/
def ofNumber : Number → Json
  | .integer n => .integer n
  | .float bits => .float bits

/-- Reads a value that is no array and no object, given its first byte. -/
def readScalar (b : UInt8) (rest : List UInt8) : Reading Json :=
  if b = 110 then Reading.constant .null (readWord wordNull rest)
  else if b = 116 then Reading.constant (.bool true) (readWord wordTrue rest)
  else if b = 102 then Reading.constant (.bool false) (readWord wordFalse rest)
  else if b = 45 then (readNumber true rest).map fun (n, after) => (ofNumber n, after)
  else if isDigit b then (readNumber false (b :: rest)).map fun (n, after) => (ofNumber n, after)
  else if b = 34 then (readString rest).map fun (s, after) => (.text s, after)
  else failNext .expectedValue (b :: rest)

theorem length_of_constant {v w : Json} {s r : List UInt8} {word : List UInt8}
    (h : Reading.constant v (readWord word s) = .ok (w, r)) : r.length ≤ s.length := by
  cases hw : readWord word s with
  | error f => simp [Reading.constant, hw, Except.map] at h
  | ok after =>
    simp only [Reading.constant, hw, Except.map, Except.ok.injEq, Prod.mk.injEq] at h
    rw [← h.2]; exact length_of_readWord hw

theorem length_of_readScalar {b : UInt8} {s r : List UInt8} {v : Json} (h : readScalar b s = .ok (v, r)) :
    r.length ≤ s.length := by
  have hnum (neg : Bool) (t : List UInt8) (ht : t.length ≤ s.length + 1)
      (h : (readNumber neg t).map (fun (n, after) => (ofNumber n, after)) = .ok (v, r)) :
      r.length ≤ s.length := by
    cases hr : readNumber neg t with
    | error f => simp [hr, Except.map] at h
    | ok p =>
      simp only [hr, Except.map, Except.ok.injEq, Prod.mk.injEq] at h
      have := length_of_readNumber (x := p.1) (r := p.2) hr
      rw [← h.2]; omega
  unfold readScalar at h
  split at h
  · exact length_of_constant h
  · split at h
    · exact length_of_constant h
    · split at h
      · exact length_of_constant h
      · split at h
        · exact hnum true s (by omega) h
        · split at h
          · exact hnum false (b :: s) (by simp) h
          · split at h
            · cases hr : readString s with
              | error f => simp [hr, Except.map] at h
              | ok p =>
                simp only [hr, Except.map, Except.ok.injEq, Prod.mk.injEq] at h
                have := length_of_readString (t := p.1) (r := p.2) hr
                rw [← h.2]; omega
            · simp [failNext] at h

/-- Reads the name of a member and its colon. -/
def readName (bytes : List UInt8) : Reading String :=
  match skipBlanks bytes with
  | [] => failNext .endInObject []
  | b :: rest =>
    if b = 34 then
      match readString rest with
      | .error f => .error f
      | .ok (name, after) => (readColon after).map (name, ·)
    else failNext .keyNotString (b :: rest)

theorem length_of_readName {s r : List UInt8} {name : String} (h : readName s = .ok (name, r)) :
    r.length ≤ s.length := by
  unfold readName at h
  split at h
  · simp [failNext] at h
  · next heq =>
    have := length_skipBlanks s
    rw [heq] at this
    simp only [List.length_cons] at this
    split at h
    · split at h
      · simp at h
      · next after heq' =>
        have := length_of_readString heq'
        cases hc : readColon after with
        | error f => simp [hc, Except.map] at h
        | ok t =>
          simp only [hc, Except.map, Except.ok.injEq, Prod.mk.injEq] at h
          have := length_of_readColon hc
          rw [← h.2]; omega
    · simp [failNext] at h

/-- An array or an object that waits for its next item, with what it holds so far in reverse. -/
inductive Hole where
  | array (items : List Json)
  | object (members : List (String × Json)) (name : String)
  deriving Repr

/-- How many arrays and objects may be open, plus one. -/
def depthLimit : Nat := 128

/-- Goes on after the comma of an array or an object. -/
def afterComma (closing : UInt8) (bytes : List UInt8) : Except Failure (List UInt8) :=
  match skipBlanks bytes with
  | [] => failNext .endInValue []
  | b :: rest => if b = closing then failNext .trailingComma (b :: rest) else .ok (b :: rest)

theorem length_of_afterComma {c : UInt8} {s r : List UInt8} (h : afterComma c s = .ok r) :
    r.length ≤ s.length := by
  unfold afterComma at h
  split at h
  · simp [failNext] at h
  · next heq =>
    have := length_skipBlanks s
    rw [heq] at this
    split at h
    · simp [failNext] at h
    · simp only [Except.ok.injEq] at h; rw [← h]; exact this

mutual

/-- Reads a value and puts it into the innermost hole; at most `limit` holes may be open. -/
def readValue (limit : Nat) (holes : List Hole) (bytes : List UInt8) : Reading Json :=
  match _h : skipBlanks bytes with
  | [] => failNext .endInValue []
  | b :: rest =>
    match Frame.opened? b with
    | some frame =>
      if limit ≤ holes.length + 1 then failNext .tooDeep (b :: rest)
      else readFirst limit frame holes rest
    | none =>
      match _hs : readScalar b rest with
      | .error f => .error f
      | .ok (v, after) => fill limit v holes after
termination_by (bytes.length, 0)
decreasing_by
  all_goals
    have := length_skipBlanks bytes
    rw [_h] at this
    simp only [List.length_cons] at this
  · exact Prod.Lex.left _ _ (by omega)
  · have := length_of_readScalar _hs
    exact Prod.Lex.left _ _ (by omega)

/-- Reads the first item or member of what was just opened, or its end. -/
def readFirst (limit : Nat) (frame : Frame) (holes : List Hole) (bytes : List UInt8) : Reading Json :=
  match _h : skipBlanks bytes with
  | [] => failNext frame.endInside []
  | b :: rest =>
    match frame with
    | .array => if b = 93 then fill limit (.array []) holes rest else readValue limit (.array [] :: holes) (b :: rest)
    | .object =>
      if b = 125 then fill limit (.object []) holes rest else readMember limit [] holes (b :: rest)
termination_by (bytes.length, 2)
decreasing_by
  all_goals
    have := length_skipBlanks bytes
    rw [_h] at this
    simp only [List.length_cons] at this
  · exact Prod.Lex.left _ _ (by omega)
  · simp only [Prod.lex_def, List.length_cons]; omega
  · exact Prod.Lex.left _ _ (by omega)
  · simp only [Prod.lex_def, List.length_cons]; omega

/-- Reads a member of an object that has `members` already. -/
def readMember (limit : Nat) (members : List (String × Json)) (holes : List Hole) (bytes : List UInt8) :
    Reading Json :=
  match _hn : readName bytes with
  | .error f => .error f
  | .ok (name, after) => readValue limit (.object members name :: holes) after
termination_by (bytes.length, 1)
decreasing_by
  have := length_of_readName _hn
  simp only [Prod.lex_def]; omega

/-- Puts a value into the innermost hole, and goes on with what follows it. -/
def fill (limit : Nat) (v : Json) (holes : List Hole) (bytes : List UInt8) : Reading Json :=
  match holes with
  | [] => .ok (v, bytes)
  | .array items :: outer =>
    match _h : skipBlanks bytes with
    | [] => failNext .endInArray []
    | b :: rest =>
      if b = 93 then fill limit (.array (v :: items).reverse) outer rest
      else if b = 44 then
        match _hc : afterComma 93 rest with
        | .error f => .error f
        | .ok after => readValue limit (.array (v :: items) :: outer) after
      else failNext .expectedArrayComma (b :: rest)
  | .object members name :: outer =>
    match _h : skipBlanks bytes with
    | [] => failNext .endInObject []
    | b :: rest =>
      if b = 125 then fill limit (.object ((name, v) :: members).reverse) outer rest
      else if b = 44 then
        match _hc : afterComma 125 rest with
        | .error f => .error f
        | .ok after => readMember limit ((name, v) :: members) outer after
      else failNext .expectedObjectComma (b :: rest)
termination_by (bytes.length, 3)
decreasing_by
  all_goals
    have := length_skipBlanks bytes
    rw [_h] at this
    simp only [List.length_cons] at this
  · exact Prod.Lex.left _ _ (by omega)
  · have := length_of_afterComma _hc
    exact Prod.Lex.left _ _ (by omega)
  · exact Prod.Lex.left _ _ (by omega)
  · have := length_of_afterComma _hc
    exact Prod.Lex.left _ _ (by omega)

end

/-- Refuses anything but blanks after a value. -/
def finish {α : Type} : Reading α → Except Failure α
  | .error f => .error f
  | .ok (v, rest) =>
    match skipBlanks rest with
    | [] => .ok v
    | b :: after => failNext .trailingCharacters (b :: after)

/-- Reads a text that holds one value. -/
def parse (bytes : List UInt8) : Except Failure Json := finish (readValue depthLimit [] bytes)

end BuildCredentials.Json
