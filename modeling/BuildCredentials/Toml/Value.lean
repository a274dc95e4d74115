/-!
# Values of a settings language

The values that a text in TOML gives to its keys. Settings are words, numbers, texts and lists, so of
floating-point numbers and of dates only the kind is kept.
-/

set_option autoImplicit false

namespace BuildCredentials.Toml

/-- A value. The entries of a table have distinct names. -/
inductive Value where
  | boolean (b : Bool)
  | integer (n : Int)
  | float
  | datetime
  | text (s : String)
  | array (items : List Value)
  | table (entries : List (String × Value))
  deriving Repr

/-- What a reader read and the characters that follow it. -/
abbrev Reading (α : Type) := Option (α × List Char)

/-- A blank within a line. -/
def isSpace (c : Char) : Bool := c = ' ' || c = '\t'

/-- A character that is no control; a tab counts as none. -/
def isPlain (c : Char) : Bool := c = '\t' || (0x20 ≤ c.toNat && c.toNat ≠ 0x7f)

/-- What follows the end of a line that stands here. -/
def lineEnd? : List Char → Option (List Char)
  | [] => none
  | c :: rest =>
    if c = '\n' then some rest
    else if c = '\r' then match rest with
      | d :: after => if d = '\n' then some after else none
      | [] => none
    else none

theorem length_of_lineEnd? {s r : List Char} (h : lineEnd? s = some r) : r.length < s.length := by
  unfold lineEnd? at h
  split at h
  · simp at h
  · split at h
    · simp only [Option.some.injEq] at h; simp [h]
    · split at h
      · split at h
        · split at h
          · simp only [Option.some.injEq] at h; simp only [← h, List.length_cons]; omega
          · simp at h
        · simp at h
      · simp at h

/-- Drops blanks and ends of lines. -/
def skipBlankLines (s : List Char) : List Char :=
  match _h : lineEnd? s with
  | some rest => skipBlankLines rest
  | none =>
    match s with
    | [] => []
    | c :: rest => if isSpace c then skipBlankLines rest else c :: rest
termination_by s.length
decreasing_by
  · exact length_of_lineEnd? _h
  · simp

theorem length_skipBlankLines (s : List Char) : (skipBlankLines s).length ≤ s.length := by
  fun_induction skipBlankLines s with
  | case1 s rest h ih => exact Nat.le_of_lt (Nat.lt_of_le_of_lt ih (length_of_lineEnd? h))
  | case2 => exact Nat.le_refl _
  | case3 c rest _ _ ih => exact Nat.le_trans ih (Nat.le_succ _)
  | case4 => exact Nat.le_refl _

end BuildCredentials.Toml
