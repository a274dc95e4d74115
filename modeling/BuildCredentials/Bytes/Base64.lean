/-!
# Base64

Both alphabets, each with and without padding. `encode` and `decode?` work on groups: three bytes are four
digits, and a last group of one or two bytes is two or three digits. Reading is strict: padding stands
exactly where the form asks for it, and the unused bits of a last digit are zero.
-/

set_option autoImplicit false

namespace BuildCredentials.Base64

/-- The digits for 62 and 63 differ between the alphabets. -/
inductive Alphabet where
  | standard
  | urlSafe
  deriving DecidableEq, Repr

/-- The digit for 62. -/
def Alphabet.digit62 : Alphabet → Char
  | .standard => '+'
  | .urlSafe => '-'

/-- The digit for 63. -/
def Alphabet.digit63 : Alphabet → Char
  | .standard => '/'
  | .urlSafe => '_'

/-- The digit of a value below 64. -/
def Alphabet.digit (a : Alphabet) (n : Nat) : Char :=
  if n < 26 then Char.ofNat (65 + n)
  else if n < 52 then Char.ofNat (71 + n)
  else if n < 62 then Char.ofNat (n - 4)
  else if n = 62 then a.digit62
  else a.digit63

/-- The value of a digit. -/
def Alphabet.value? (a : Alphabet) (c : Char) : Option Nat :=
  if 'A' ≤ c ∧ c ≤ 'Z' then some (c.toNat - 65)
  else if 'a' ≤ c ∧ c ≤ 'z' then some (c.toNat - 71)
  else if '0' ≤ c ∧ c ≤ '9' then some (c.toNat + 4)
  else if c = a.digit62 then some 62
  else if c = a.digit63 then some 63
  else none

/-- A way to write bytes in base64. -/
structure Form where
  alphabet : Alphabet
  padded : Bool
  deriving DecidableEq, Repr

/-- The values of the digits, without padding. -/
def sextets : List UInt8 → List Nat
  | [] => []
  | [x] => [x.toNat / 4, x.toNat % 4 * 16]
  | [x, y] => [x.toNat / 4, x.toNat % 4 * 16 + y.toNat / 16, y.toNat % 16 * 4]
  | x :: y :: z :: rest =>
    x.toNat / 4 :: (x.toNat % 4 * 16 + y.toNat / 16) :: (y.toNat % 16 * 4 + z.toNat / 64)
      :: z.toNat % 64 :: sextets rest

/-- The bytes that digit values stand for; a lone last digit or a nonzero unused bit is refused. -/
def ofSextets? : List Nat → Option (List UInt8)
  | [] => some []
  | [_] => none
  | [a, b] => if b % 16 = 0 then some [UInt8.ofNat (a * 4 + b / 16)] else none
  | [a, b, c] =>
    if c % 4 = 0 then some [UInt8.ofNat (a * 4 + b / 16), UInt8.ofNat (b % 16 * 16 + c / 4)] else none
  | a :: b :: c :: d :: rest => do
    let tail ← ofSextets? rest
    return UInt8.ofNat (a * 4 + b / 16) :: UInt8.ofNat (b % 16 * 16 + c / 4)
      :: UInt8.ofNat (c % 4 * 64 + d) :: tail

/-- The padding after `n` digits. -/
def padding (n : Nat) : List Char := List.replicate ((4 - n % 4) % 4) '='

/-- Writes bytes in a form. -/
def Form.encode (f : Form) (bytes : List UInt8) : List Char :=
  let digits := (sextets bytes).map f.alphabet.digit
  if f.padded then digits ++ padding digits.length else digits

/-- Splits off the padding that ends a text; a padded form asks for exactly what its digits need. -/
def Form.digits? (f : Form) (text : List Char) : Option (List Char) :=
  let digits := text.takeWhile (· ≠ '=')
  if text = (if f.padded then digits ++ padding digits.length else digits) then some digits else none

/-- Reads bytes from a text in a form. -/
def Form.decode? (f : Form) (text : List Char) : Option (List UInt8) := do
  let digits ← f.digits? text
  let values ← digits.mapM f.alphabet.value?
  ofSextets? values

/-- The four forms, in the order in which a reader that is not told the form tries them. -/
def forms : List Form :=
  [⟨.urlSafe, true⟩, ⟨.urlSafe, false⟩, ⟨.standard, true⟩, ⟨.standard, false⟩]

/-- Reads a text in the first form that accepts it. -/
def decodeAny? (text : List Char) : Option (List UInt8) := forms.findSome? (·.decode? text)

end BuildCredentials.Base64
