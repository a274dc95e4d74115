/-!
# Punycode

Code points beyond ASCII written in ASCII: the ASCII ones first, then, for each of the others in rising order,
the distance to it in a variable-length base-36 number. `bias` sets the thresholds that end a number and is
adapted after each one.
-/

set_option autoImplicit false

namespace BuildCredentials.Url.Punycode

/-- The bias before the first number. -/
def initialBias : Nat := 72

/-- The digit at weight `k` ends a number when it is below this threshold. -/
def threshold (k bias : Nat) : Nat := if k ≤ bias + 1 then 1 else if bias + 26 ≤ k then 26 else k - bias

theorem one_le_threshold (k bias : Nat) : 1 ≤ threshold k bias := by
  unfold threshold; split
  · exact Nat.le_refl 1
  · split <;> omega

theorem threshold_le (k bias : Nat) : threshold k bias ≤ 26 := by
  unfold threshold; split
  · omega
  · split <;> omega

/-- Shrinks a distance to the range of one digit, and counts how often by 36. -/
def scaleDown (k delta : Nat) : Nat × Nat :=
  if _h : 455 < delta then scaleDown (k + 36) (delta / 35) else (k, delta)
termination_by delta
decreasing_by omega

/-- The bias after a number `delta` was written among `count` code points. -/
def adapt (delta count : Nat) (first : Bool) : Nat :=
  let d := if first then delta / 700 else delta / 2
  let (k, e) := scaleDown 0 (d + d / count)
  k + 36 * e / (e + 38)

/-- The digit of a value below 36. -/
def digit (n : Nat) : Char := if n < 26 then Char.ofNat (97 + n) else Char.ofNat (22 + n)

/-- The value of a digit. -/
def value? (c : Char) : Option Nat :=
  if 'a' ≤ c ∧ c ≤ 'z' then some (c.toNat - 97)
  else if 'A' ≤ c ∧ c ≤ 'Z' then some (c.toNat - 65)
  else if '0' ≤ c ∧ c ≤ '9' then some (c.toNat - 22)
  else none

/-! ## Writing -/

/-- The digits of a number, from weight `k` up. -/
def encodeNumber (bias k q : Nat) : List Char :=
  let t := threshold k bias
  if h : q < t then [digit q]
  else digit (t + (q - t) % (36 - t)) :: encodeNumber bias (k + 36) ((q - t) / (36 - t))
termination_by q
decreasing_by
  have ht := one_le_threshold k bias
  have hm := threshold_le k bias
  have hdiv : (q - threshold k bias) / (36 - threshold k bias) ≤ q - threshold k bias := Nat.div_le_self _ _
  omega

/-- What is written so far. -/
structure Writing where
  /-- The digits in reverse. -/
  digits : List Char := []
  delta : Nat := 0
  bias : Nat := initialBias
  /-- How many code points are written. -/
  handled : Nat

/-- Passes a code point of the text while the code points equal to `n` are written. -/
def Writing.pass (basic n : Nat) (w : Writing) (c : Nat) : Writing :=
  if c < n then { w with delta := w.delta + 1 }
  else if c = n then
    { digits := (encodeNumber w.bias 36 w.delta).reverse ++ w.digits
      delta := 0
      bias := adapt w.delta (w.handled + 1) (w.handled = basic)
      handled := w.handled + 1 }
  else w

/-- Writes the code points in `rising`, after those below `n`. -/
def writeAll (text : List Nat) (basic : Nat) : List Nat → Nat → Writing → Writing
  | [], _, w => w
  | m :: rest, n, w =>
    let w := text.foldl (Writing.pass basic m) { w with delta := w.delta + (m - n) * (w.handled + 1) }
    writeAll text basic rest (m + 1) { w with delta := w.delta + 1 }

/-- A text in ASCII. -/
def encode (text : List Nat) : List Char :=
  let basic := text.filter (· < 128)
  let rising := ((text.filter (128 ≤ ·)).mergeSort).eraseReps
  let w := writeAll text basic.length rising 128 { handled := basic.length }
  basic.map Char.ofNat ++ (if basic = [] then [] else ['-']) ++ w.digits.reverse

/-! ## Reading -/

/-- A number that is being read. -/
structure Reading where
  text : List Nat
  codePoint : Nat := 128
  bias : Nat := initialBias
  /-- The place after the last code point that was put in. -/
  place : Nat := 0
  /-- The distance so far. -/
  delta : Nat := 0
  weight : Nat := 1
  k : Nat := 36

/-- Puts in the code point at the distance that was read. -/
def Reading.putIn? (r : Reading) : Option Reading :=
  let count := r.text.length + 1
  let i := r.place + r.delta
  let n := r.codePoint + i / count
  if n.isValidChar then
    some { text := r.text.insertIdx (i % count) n
           codePoint := n
           bias := adapt r.delta count (r.place = 0)
           place := i % count + 1 }
  else none

/-- Reads one digit. -/
def Reading.feed? (r : Reading) (c : Char) : Option Reading := do
  let d ← value? c
  let t := threshold r.k r.bias
  let r := { r with delta := r.delta + d * r.weight }
  if d < t then r.putIn? else some { r with weight := r.weight * (36 - t), k := r.k + 36 }

/-- Reads the code points that an ASCII text stands for; a number that does not end is refused. -/
def decode? (text : List Char) : Option (List Nat) := do
  let tail := (text.reverse.takeWhile (· ≠ '-')).reverse
  let basic := (text.take (text.length - tail.length)).dropLast
  let r ← (if basic = [] then text else tail).foldlM Reading.feed? { text := basic.map Char.toNat }
  if r.weight = 1 then some r.text else none

end BuildCredentials.Url.Punycode
