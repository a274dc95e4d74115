import BuildCredentials.Unicode.Ranges

/-!
# Tables over code points

A table gives some code points a list of numbers. It is written as a text such as "41-5A:61 BC:31.2044.34",
where a range is followed by what its first code point is given. `Table.value?` is that list, and
`Table.shifted?` is the list moved by the distance from the first code point, so that one entry can stand for
a run of letters and their lower case.
-/

set_option autoImplicit false

namespace BuildCredentials.Unicode

/-- What the code points of a range are given. -/
structure Entry where
  first : Nat
  last : Nat
  value : List Nat
  deriving DecidableEq, Repr, Inhabited

/-- Entries in rising order of their ranges. -/
abbrev Table := Array Entry

namespace Table


/-- What is read so far of a text of entries: the numbers of the entry that is being read, in reverse. -/
structure Scan where
  entries : Table := #[]
  first : Nat := 0
  last? : Option Nat := none
  value : List Nat := []
  /-- The number that is being read. -/
  digits : Option Nat := none
  /-- Whether the entry's value is being read. -/
  inValue : Bool := false

/-- Ends the number that is being read. -/
def Scan.endNumber (s : Scan) : Scan :=
  match s.digits with
  | none => s
  | some n => if s.inValue then { s with value := n :: s.value, digits := none } else { s with last? := some n, digits := none }

/-- Ends the entry that is being read, if one is. -/
def Scan.endEntry (s : Scan) : Scan :=
  let s := s.endNumber
  match s.last? with
  | none => { entries := s.entries }
  | some last => { entries := s.entries.push ⟨s.first, last, s.value.reverse⟩ }

/-- Reads one character of a text of entries. -/
def Scan.feed (s : Scan) (c : Char) : Scan :=
  match Hex.value? c with
  | some d => { s with digits := some (16 * s.digits.getD 0 + d) }
  | none =>
    if c = '-' then
      { s with first := s.digits.getD 0, digits := none, last? := some (s.digits.getD 0) }
    else if c = ':' then
      let first := if s.last?.isSome then s.first else s.digits.getD 0
      { s.endNumber with first := first, inValue := true }
    else if c = '.' then s.endNumber
    else s.endEntry

/-- The table that a text lists. -/
def ofText (text : String) : Table := (text.toList.foldl Scan.feed {}).endEntry.entries

/-- Searches the entries from index `low` up to, not including, `high`. -/
def search (t : Table) (n : Nat) (low high : Nat) : Option Entry :=
  if low < high then
    let middle := (low + high) / 2
    let e := t.getD middle default
    if n < e.first then search t n low middle
    else if e.last < n then search t n (middle + 1) high
    else some e
  else none
termination_by high - low

/-- What a code point is given. -/
def value? (t : Table) (n : Nat) : Option (List Nat) := (t.search n 0 t.size).map (·.value)

/-- What a code point is given, moved by its distance from the first one of its range. -/
def shifted? (t : Table) (n : Nat) : Option (List Nat) :=
  (t.search n 0 t.size).map fun e => e.value.map (· + (n - e.first))

end Table

end BuildCredentials.Unicode
