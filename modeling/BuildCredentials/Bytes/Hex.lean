/-!
# Lower-case hexadecimal text of bytes

`encode` writes each byte as two digits, the high one first; `decode?` reads digits of either case back.
-/

set_option autoImplicit false

namespace BuildCredentials.Hex

/-- The digit of a value below sixteen. -/
def digit (n : Nat) : Char :=
  if n < 10 then Char.ofNat (48 + n) else Char.ofNat (87 + n)

/-- Reads one hexadecimal digit. -/
def value? (c : Char) : Option Nat :=
  if '0' ≤ c ∧ c ≤ '9' then some (c.toNat - 48)
  else if 'a' ≤ c ∧ c ≤ 'f' then some (c.toNat - 87)
  else if 'A' ≤ c ∧ c ≤ 'F' then some (c.toNat - 55)
  else none

/-- The two digits of a byte. -/
def ofByte (b : UInt8) : List Char := [digit (b.toNat / 16), digit (b.toNat % 16)]

/-- Two digits a byte, in the order of the bytes. -/
def encode (bytes : List UInt8) : String := String.ofList (bytes.flatMap ofByte)

/-- Reads pairs of digits; an odd digit or a character that is none is refused. -/
def decodeChars? : List Char → Option (List UInt8)
  | [] => some []
  | [_] => none
  | h :: l :: rest => do
    let high ← value? h
    let low ← value? l
    let tail ← decodeChars? rest
    return UInt8.ofNat (16 * high + low) :: tail

/-- Reads the bytes that a hexadecimal text stands for. -/
def decode? (text : String) : Option (List UInt8) := decodeChars? text.toList

end BuildCredentials.Hex
