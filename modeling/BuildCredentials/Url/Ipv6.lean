import BuildCredentials.Url.Ipv4

/-!
# IPv6 addresses

Eight groups of up to four hexadecimal digits between colons. Two colons stand once for one group of zeros or
more, and the last two groups may be written as an IPv4 address.
-/

set_option autoImplicit false

namespace BuildCredentials.Url.Ipv6

/-- The value of one group. -/
def group? (cs : List Char) : Option Nat :=
  if cs = [] ∨ 4 < cs.length then none else Ipv4.digits? 16 cs

/-- A decimal byte without leading zeros. -/
def byte? (cs : List Char) : Option Nat :=
  match cs with
  | [] => none
  | ['0'] => some 0
  | '0' :: _ => none
  | cs => (Ipv4.digits? 10 cs).filter (· < 256)

/-- The two groups that an IPv4 address stands for. -/
def ipv4Groups? (cs : List Char) : Option (List Nat) := do
  match ← (cs.splitOn '.').mapM byte? with
  | [a, b, c, d] => return [256 * a + b, 256 * c + d]
  | _ => none

/-- The groups between colons; the last one may be an IPv4 address if `last` says so. -/
def groups? (last : Bool) : List (List Char) → Option (List Nat)
  | [] => some []
  | [g] => if last && '.' ∈ g then ipv4Groups? g else (group? g).map ([·])
  | g :: h :: rest => do return (← group? g) :: (← groups? last (h :: rest))

/-- The groups of a side of the two colons; an empty side has none. -/
def side? (last : Bool) (cs : List Char) : Option (List Nat) :=
  if cs = [] then some [] else groups? last (cs.splitOn ':')

/-- The text before the first two colons and the text after them. -/
def splitAtGap : List Char → Option (List Char × List Char)
  | ':' :: ':' :: rest => some ([], rest)
  | c :: rest => (splitAtGap rest).map fun (before, after) => (c :: before, after)
  | [] => none

/-- The eight groups of an address. -/
def parse? (cs : List Char) : Option (List Nat) :=
  match splitAtGap cs with
  | none => (groups? true (cs.splitOn ':')).filter (·.length = 8)
  | some (before, after) => do
    let left ← side? false before
    let right ← side? true after
    if left.length + right.length ≤ 7 then
      some (left ++ List.replicate (8 - left.length - right.length) 0 ++ right)
    else none

end BuildCredentials.Url.Ipv6
