import BuildCredentials.Bytes.Hex

/-!
# Sets of code points

A property of code points is written as a text of hexadecimal ranges in rising order, such as
"80-A0 AD 300-36F". `Ranges.ofText` reads such a text and `Ranges.contains` searches it by halving. All tables of
code points here are those of Unicode 17.0.
-/

set_option autoImplicit false

namespace BuildCredentials.Unicode

/-- Closed ranges of code points in rising order. -/
abbrev Ranges := Array (Nat × Nat)

namespace Ranges

/-- What is read so far of a text of ranges. -/
structure Scan where
  ranges : Ranges := #[]
  first? : Option Nat := none
  value? : Option Nat := none

/-- Ends the range that is being read, if one is. -/
def Scan.close (s : Scan) : Scan :=
  match s.first?, s.value? with
  | some a, some b => ⟨s.ranges.push (a, b), none, none⟩
  | none, some a => ⟨s.ranges.push (a, a), none, none⟩
  | _, none => ⟨s.ranges, none, none⟩

/-- Reads one character of a text of ranges. -/
def Scan.feed (s : Scan) (c : Char) : Scan :=
  match Hex.value? c with
  | some d => { s with value? := some (16 * s.value?.getD 0 + d) }
  | none => if c = '-' then { s with first? := s.value?, value? := none } else s.close

/-- The ranges that a text lists. -/
def ofText (text : String) : Ranges := (text.toList.foldl Scan.feed {}).close.ranges

/-- Searches the ranges from index `low` up to, not including, `high`. -/
def search (r : Ranges) (n : Nat) (low high : Nat) : Bool :=
  if low < high then
    let middle := (low + high) / 2
    let (a, b) := r.getD middle (0, 0)
    if n < a then search r n low middle
    else if b < n then search r n (middle + 1) high
    else true
  else false
termination_by high - low

/-- Whether a code point lies in one of the ranges. -/
def contains (r : Ranges) (n : Nat) : Bool := search r n 0 r.size

end Ranges

end BuildCredentials.Unicode
