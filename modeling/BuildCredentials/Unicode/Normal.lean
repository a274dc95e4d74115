import BuildCredentials.Unicode.Composition

/-!
# Canonical composition

`compose` brings code points to Normalization Form C: each is decomposed, marks are put in the order of their
combining classes, and what can be composed is composed again. Hangul syllables are computed, the rest is
looked up.
-/

set_option autoImplicit false

namespace BuildCredentials.Unicode.Normal

/-- The combining class of a code point; starters have class zero. -/
def combiningClass (n : Nat) : Nat :=
  if n < 128 then 0 else ((combiningClasses.value? n).bind List.head?).getD 0

/-! ## Hangul syllables -/

def syllableBase : Nat := 0xAC00
def leadBase : Nat := 0x1100
def vowelBase : Nat := 0x1161
def tailBase : Nat := 0x11A7
def leadCount : Nat := 19
def vowelCount : Nat := 21
def tailCount : Nat := 28
def syllableCount : Nat := leadCount * vowelCount * tailCount

/-- Whether a code point is a Hangul syllable. -/
def isSyllable (n : Nat) : Bool := syllableBase ≤ n && n < syllableBase + syllableCount

/-- The letters of a Hangul syllable. -/
def syllableLetters (n : Nat) : List Nat :=
  let s := n - syllableBase
  let tail := s % tailCount
  (leadBase + s / (vowelCount * tailCount)) :: (vowelBase + s % (vowelCount * tailCount) / tailCount)
    :: (if tail = 0 then [] else [tailBase + tail])

/-- The syllable of two letters, or of a syllable without a tail and a tail. -/
def syllableOf? (a b : Nat) : Option Nat :=
  if leadBase ≤ a ∧ a < leadBase + leadCount ∧ vowelBase ≤ b ∧ b < vowelBase + vowelCount then
    some (syllableBase + ((a - leadBase) * vowelCount + (b - vowelBase)) * tailCount)
  else if isSyllable a ∧ (a - syllableBase) % tailCount = 0 ∧ tailBase < b ∧ b < tailBase + tailCount then
    some (a + (b - tailBase))
  else none

/-! ## Decomposition -/

/-- The full decomposition of a code point, of which no step is deeper than `depth`. -/
def decomposeOne : Nat → Nat → List Nat
  | 0, n => [n]
  | depth + 1, n =>
    if n < 128 then [n]
    else if isSyllable n then syllableLetters n
    else match decompositions.value? n with
      | some parts => parts.flatMap (decomposeOne depth)
      | none => [n]

/-- Decompositions are nested no deeper than this. -/
def decompositionDepth : Nat := 5

/-- Puts a code point before those in `rest`, behind the marks of lower classes. -/
def insertOrdered (c : Nat) : List Nat → List Nat
  | [] => [c]
  | d :: rest =>
    if combiningClass d ≠ 0 ∧ combiningClass d < combiningClass c then d :: insertOrdered c rest
    else c :: d :: rest

/-- The canonical decomposition of a text. -/
def decompose (text : List Nat) : List Nat :=
  (text.flatMap (decomposeOne decompositionDepth)).foldr insertOrdered []

/-! ## Composition -/

/-- The code point that two are composed into. -/
def pair? (a b : Nat) : Option Nat :=
  match syllableOf? a b with
  | some n => some n
  | none =>
    (decompositions.find? fun e => e.value = [a, b] && !uncomposed.contains e.first).map (·.first)

/-- A text that is being composed. -/
structure Composing where
  /-- What is finished, in reverse. -/
  done : List Nat := []
  starter? : Option Nat := none
  /-- The marks since the starter that were not composed with it, in reverse. -/
  marks : List Nat := []

/-- All that was composed, in reverse. -/
def Composing.text (s : Composing) : List Nat :=
  s.marks ++ (match s.starter? with | some c => c :: s.done | none => s.done)

/-- Whether the marks since the starter keep a code point away from it. -/
def Composing.blocks (s : Composing) (c : Nat) : Bool :=
  match s.marks with
  | [] => false
  | m :: _ => combiningClass c ≤ combiningClass m

/-- Takes the next code point. -/
def Composing.feed (s : Composing) (c : Nat) : Composing :=
  let next : Composing :=
    if combiningClass c = 0 then { done := s.text, starter? := some c } else { s with marks := c :: s.marks }
  match s.starter? with
  | none => next
  | some a =>
    if s.blocks c then next
    else match pair? a c with
      | some n => { s with starter? := some n }
      | none => next

/-- A text in Normalization Form C. -/
def compose (text : List Nat) : List Nat :=
  if text.all (· < 128) then text else ((decompose text).foldl Composing.feed {}).text.reverse

end BuildCredentials.Unicode.Normal
