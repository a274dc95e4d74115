import BuildCredentials.Bytes.Utf8

/-!
# Percent encoding

Each part of an address has a set of characters that are written as percent signs and hexadecimal digits of
their UTF-8 bytes. Controls and characters beyond ASCII are in every set. Percent signs themselves are kept.
-/

set_option autoImplicit false

namespace BuildCredentials.Url.Percent

/-- Controls and characters beyond ASCII. -/
def isControl (c : Char) : Bool := c.toNat < 0x20 || 0x7F ≤ c.toNat

/-- What is encoded in a fragment. -/
def inFragment (c : Char) : Bool := isControl c || c ∈ [' ', '"', '<', '>', '\x60']

/-- What is encoded in a query. -/
def inQuery (c : Char) : Bool := isControl c || c ∈ [' ', '"', '#', '<', '>']

/-- What is encoded in the query of a special scheme. -/
def inSpecialQuery (c : Char) : Bool := inQuery c || c = '\''

/-- What is encoded in a path. -/
def inPath (c : Char) : Bool := inFragment c || c ∈ ['#', '?', '\x7b', '\x7d']

/-- What is encoded in a user name or a password. -/
def inUserinfo (c : Char) : Bool :=
  inPath c || c ∈ ['/', ':', ';', '=', '@', '[', '\\', ']', '^', '|']

/-- An upper-case hexadecimal digit. -/
def digit (n : Nat) : Char := if n < 10 then Char.ofNat (48 + n) else Char.ofNat (55 + n)

/-- A byte behind a percent sign. -/
def encodeByte (b : UInt8) : List Char := ['%', digit (b.toNat / 16), digit (b.toNat % 16)]

/-- Encodes the characters of a set. -/
def encode (set : Char → Bool) (text : List Char) : List Char :=
  text.flatMap fun c => if set c then (String.utf8EncodeChar c).flatMap encodeByte else [c]

/-- The value of a hexadecimal digit given as a byte. -/
def value? (b : UInt8) : Option UInt8 :=
  if 48 ≤ b ∧ b ≤ 57 then some (b - 48)
  else if 97 ≤ b ∧ b ≤ 102 then some (b - 87)
  else if 65 ≤ b ∧ b ≤ 70 then some (b - 55)
  else none

/-- Puts a byte for each percent sign with two digits; other percent signs stay. -/
def decode : List UInt8 → List UInt8
  | b :: h :: l :: rest =>
    match (if b = 37 then value? h else none), value? l with
    | some x, some y => (16 * x + y) :: decode rest
    | _, _ => b :: decode (h :: l :: rest)
  | b :: rest => b :: decode rest
  | [] => []

end BuildCredentials.Url.Percent
