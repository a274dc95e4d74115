/-!
# IPv4 addresses

An address has up to four parts between dots, each in decimal, octal after a zero, or hexadecimal after "0x".
The last part fills all the bytes that the others leave.
-/

set_option autoImplicit false

namespace BuildCredentials.Url.Ipv4

/-- The value of a digit in a base up to sixteen. -/
def digit? (base : Nat) (c : Char) : Option Nat :=
  let n :=
    if '0' ≤ c ∧ c ≤ '9' then c.toNat - 48
    else if 'a' ≤ c ∧ c ≤ 'f' then c.toNat - 87
    else if 'A' ≤ c ∧ c ≤ 'F' then c.toNat - 55
    else 16
  if n < base then some n else none

/-- The number that digits of a base stand for. -/
def digits? (base : Nat) (cs : List Char) : Option Nat :=
  cs.foldlM (fun n c => (digit? base c).map (base * n + ·)) 0

/-- The number that a part stands for; a part of no digits is none, unless a zero or "0x" goes before. -/
def number? : List Char → Option Nat
  | [] => none
  | '0' :: 'x' :: rest | '0' :: 'X' :: rest => digits? 16 rest
  | '0' :: c :: rest => digits? 8 (c :: rest)
  | cs => digits? 10 cs

/-- The parts between dots; one dot at the end is passed over. -/
def parts (name : List Char) : List (List Char) :=
  let all := name.splitOn '.'
  if all.length > 1 ∧ all.getLast? = some [] then all.dropLast else all

/-- Whether a name has to be an address: its last part is a number or all digits. -/
def endsInNumber (name : List Char) : Bool :=
  match (parts name).getLast? with
  | none => false
  | some last => (last ≠ [] && last.all fun c => '0' ≤ c && c ≤ '9') || (number? last).isSome

/-- The address whose leading parts are in `leading`, each one byte, and whose last part is `last`. -/
def assemble? (leading : List Nat) (last : Nat) : Option Nat :=
  if leading.length ≤ 3 ∧ leading.all (· < 256) ∧ last < Nat.pow 256 (4 - leading.length) then
    some (leading.foldl (fun n b => 256 * n + b) 0 * Nat.pow 256 (4 - leading.length) + last)
  else none

/-- The address that a name stands for. -/
def parse? (name : List Char) : Option Nat := do
  let numbers ← (parts name).mapM number?
  let last ← numbers.getLast?
  assemble? numbers.dropLast last

end BuildCredentials.Url.Ipv4
