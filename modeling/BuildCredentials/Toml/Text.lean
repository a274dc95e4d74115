import BuildCredentials.Toml.Value

/-!
# Texts in quotes

A text stands between double quotes, where a backslash begins an escape, or between single quotes, where every
character means itself. Three quotes on either side let a text run over several lines. `Text.write` takes the
first of the four forms that shows the text as it is, and `Text.read` reads all of them.
-/

set_option autoImplicit false

namespace BuildCredentials.Toml.Text

/-! ## Escapes -/

/-- The value of a hexadecimal digit. -/
def hexValue? (c : Char) : Option Nat :=
  if '0' ≤ c ∧ c ≤ '9' then some (c.toNat - 48)
  else if 'a' ≤ c ∧ c ≤ 'f' then some (c.toNat - 87)
  else if 'A' ≤ c ∧ c ≤ 'F' then some (c.toNat - 55)
  else none

/-- The number that hexadecimal digits write, after the number before them. -/
def hexNumber? : Nat → List Char → Option Nat
  | n, [] => some n
  | n, c :: rest =>
    match hexValue? c with
    | some d => hexNumber? (16 * n + d) rest
    | none => none

/-- Reads the number of a character, which has so many digits. -/
def readNumber (digits : Nat) (s : List Char) : Reading Char :=
  if s.length < digits then none
  else match hexNumber? 0 (s.take digits) with
    | some n => if n.isValidChar then some (Char.ofNat n, s.drop digits) else none
    | none => none

/-- The character that an escape of one letter stands for. -/
def simpleEscape? (c : Char) : Option Char :=
  if c = '"' ∨ c = '\\' then some c
  else if c = 'b' then some '\x08'
  else if c = 't' then some '\t'
  else if c = 'n' then some '\n'
  else if c = 'f' then some '\x0c'
  else if c = 'r' then some '\r'
  else none

/-- Reads what follows a backslash. -/
def readEscape : List Char → Reading Char
  | [] => none
  | c :: rest =>
    match simpleEscape? c with
    | some e => some (e, rest)
    | none => if c = 'u' then readNumber 4 rest else if c = 'U' then readNumber 8 rest else none

theorem length_of_readNumber {n : Nat} {s r : List Char} {c : Char} (h : readNumber n s = some (c, r)) :
    r.length ≤ s.length := by
  unfold readNumber at h
  split at h
  · simp at h
  · split at h
    · split at h
      · simp only [Option.some.injEq, Prod.mk.injEq] at h
        simp [← h.2]
      · simp at h
    · simp at h

theorem length_of_readEscape {s r : List Char} {c : Char} (h : readEscape s = some (c, r)) :
    r.length ≤ s.length := by
  unfold readEscape at h
  split at h
  · simp at h
  · split at h
    · simp only [Option.some.injEq, Prod.mk.injEq] at h
      simp [← h.2]
    · split at h
      · exact Nat.le_trans (length_of_readNumber h) (Nat.le_succ _)
      · split at h
        · exact Nat.le_trans (length_of_readNumber h) (Nat.le_succ _)
        · simp at h

/-! ## Reading -/

/-- Puts a character in front of what is read. -/
def push (c : Char) : Reading (List Char) → Reading (List Char)
  | some (cs, rest) => some (c :: cs, rest)
  | none => none

/-- Reads up to the closing double quote. -/
def readBasic : List Char → Reading (List Char)
  | [] => none
  | c :: rest =>
    if c = '"' then some ([], rest)
    else if c = '\\' then
      match _h : readEscape rest with
      | some (e, after) => push e (readBasic after)
      | none => none
    else if isPlain c then push c (readBasic rest)
    else none
termination_by s => s.length
decreasing_by
  · exact Nat.lt_succ_of_le (length_of_readEscape _h)
  · simp

/-- Reads up to the closing single quote. -/
def readLiteral : List Char → Reading (List Char)
  | [] => none
  | c :: rest =>
    if c = '\'' then some ([], rest)
    else if isPlain c then push c (readLiteral rest)
    else none

/-- What three closing quotes end: of more than three, up to two belong to the text. -/
def closing? (quote : Char) (s : List Char) : Reading (List Char) :=
  let run := (s.takeWhile (· = quote)).length
  if run < 3 then none
  else
    let extra := min 2 (run - 3)
    some (List.replicate extra quote, s.drop (extra + 3))

/-- What follows a backslash at the end of a line: blanks and empty lines after it mean nothing. -/
def continuation? (s : List Char) : Option (List Char) := (lineEnd? (s.dropWhile isSpace)).map skipBlankLines

theorem length_of_continuation? {s r : List Char} (h : continuation? s = some r) : r.length < s.length := by
  obtain ⟨t, ht, rfl⟩ := Option.map_eq_some_iff.1 h
  exact Nat.lt_of_le_of_lt (length_skipBlankLines t)
    (Nat.lt_of_lt_of_le (length_of_lineEnd? ht) (List.dropWhile_sublist _).length_le)

/-- Reads up to three closing double quotes. -/
def readBasicLines : List Char → Reading (List Char)
  | [] => none
  | c :: rest =>
    if c = '"' then
      match closing? '"' (c :: rest) with
      | some last => some last
      | none => push c (readBasicLines rest)
    else if c = '\\' then
      match _hc : continuation? rest with
      | some after => readBasicLines after
      | none =>
        match _he : readEscape rest with
        | some (e, after) => push e (readBasicLines after)
        | none => none
    else
      match _hl : lineEnd? (c :: rest) with
      | some after => push '\n' (readBasicLines after)
      | none => if isPlain c then push c (readBasicLines rest) else none
termination_by s => s.length
decreasing_by
  · simp
  · exact Nat.lt_trans (length_of_continuation? _hc) (Nat.lt_succ_self _)
  · exact Nat.lt_succ_of_le (length_of_readEscape _he)
  · exact length_of_lineEnd? _hl
  · simp

/-- Reads up to three closing single quotes. -/
def readLiteralLines : List Char → Reading (List Char)
  | [] => none
  | c :: rest =>
    if c = '\'' then
      match closing? '\'' (c :: rest) with
      | some last => some last
      | none => push c (readLiteralLines rest)
    else
      match _hl : lineEnd? (c :: rest) with
      | some after => push '\n' (readLiteralLines after)
      | none => if isPlain c then push c (readLiteralLines rest) else none
termination_by s => s.length
decreasing_by
  · simp
  · exact length_of_lineEnd? _hl
  · simp

/-- Drops the end of a line that stands here. -/
def dropLineEnd (s : List Char) : List Char := (lineEnd? s).getD s

/-- What follows three quotes that stand here. -/
def afterTriple? (quote : Char) (s : List Char) : Option (List Char) :=
  if [quote, quote, quote].isPrefixOf s then some (s.drop 3) else none

/-- Reads a text in one of its four forms. -/
def read (s : List Char) : Reading (List Char) :=
  match afterTriple? '"' s, afterTriple? '\'' s with
  | some rest, _ => readBasicLines (dropLineEnd rest)
  | _, some rest => readLiteralLines (dropLineEnd rest)
  | none, none =>
    match s with
    | [] => none
    | c :: rest => if c = '"' then readBasic rest else if c = '\'' then readLiteral rest else none

/-! ## Writing -/

/-- The forms in which a text is written. -/
inductive Form where
  | basic
  | literal
  | basicLines
  | literalLines
  deriving DecidableEq, Repr

/-- A control that only an escape can write. -/
def needsEscape (c : Char) : Bool := !isPlain c && c ≠ '\n'

/-- The length of the longest run of a character, after `seen` of them. -/
def longestRun (quote : Char) (seen : Nat) : List Char → Nat
  | [] => 0
  | c :: rest => if c = quote then max (seen + 1) (longestRun quote (seen + 1) rest) else longestRun quote 0 rest

/-- The form of a text: the first in which nothing has to be escaped, or else the first that holds its lines. -/
def form (cs : List Char) : Form :=
  let controls := cs.any needsEscape
  let lines := cs.contains '\n'
  let slashes := cs.contains '\\'
  if !controls && !lines && !slashes && longestRun '"' 0 cs = 0 then .basic
  else if !controls && !lines && longestRun '\'' 0 cs = 0 then .literal
  else if !controls && !slashes && longestRun '"' 0 cs ≤ 2 then .basicLines
  else if !controls && longestRun '\'' 0 cs ≤ 2 then .literalLines
  else if lines then .basicLines
  else .basic

/-- Four hexadecimal digits of a number. -/
def fourDigits (n : Nat) : List Char :=
  let digits := (Nat.toDigits 16 n).map Char.toUpper
  List.replicate (4 - digits.length) '0' ++ digits

/-- How a character other than a double quote or the end of a line stands between double quotes. -/
def escapeChar (c : Char) : List Char :=
  if c = '\\' then ['\\', '\\']
  else if c.toNat = 8 then ['\\', 'b']
  else if c = '\t' then ['\\', 't']
  else if c.toNat = 12 then ['\\', 'f']
  else if c = '\r' then ['\\', 'r']
  else if isPlain c then [c]
  else ['\\', 'u'] ++ fourDigits c.toNat

/-- The inside of a text on one line. -/
def writeBasic (cs : List Char) : List Char :=
  cs.flatMap fun c => if c = '"' then ['\\', '"'] else if c = '\n' then ['\\', 'n'] else escapeChar c

/-- The inside of a text on several lines, after `seen` double quotes: the third in a row is escaped. -/
def writeLines : Nat → List Char → List Char
  | _, [] => []
  | seen, c :: rest =>
    if c = '"' then
      if seen = 2 then '\\' :: '"' :: writeLines 0 rest else '"' :: writeLines (seen + 1) rest
    else if c = '\n' then '\n' :: writeLines 0 rest
    else escapeChar c ++ writeLines 0 rest

/-- A text on several lines begins on a new one. -/
def opening (cs : List Char) : List Char := if cs.contains '\n' then ['\n'] else []

/-- A text in its quotes. -/
def write (cs : List Char) : List Char :=
  match form cs with
  | .basic => '"' :: (writeBasic cs ++ ['"'])
  | .literal => '\'' :: (cs ++ ['\''])
  | .basicLines => ['"', '"', '"'] ++ opening cs ++ writeLines 0 cs ++ ['"', '"', '"']
  | .literalLines => ['\'', '\'', '\''] ++ opening cs ++ cs ++ ['\'', '\'', '\'']

end BuildCredentials.Toml.Text
