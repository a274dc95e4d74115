/-!
# The shortest decimal of a binary floating-point number

Of all decimals that read back as a given finite number, `digits` takes one with the fewest digits, and of
those the one nearest to it. The number is `mantissa * 2 ^ exponent`, and a decimal reads back as it exactly
when it lies between the midpoints to the two neighbouring numbers, ends included for an even mantissa.
All arithmetic is on naturals: magnitudes are compared after both are scaled to a common denominator.
-/

set_option autoImplicit false

namespace BuildCredentials.Decimal

/-- A decimal `digits * 10 ^ exponent`. -/
structure Scientific where
  digits : Nat
  exponent : Int
  deriving DecidableEq, Repr

/-- A positive fraction `num / den`. -/
structure Fraction where
  num : Nat
  den : Nat

/-- `n * b ^ e` as a fraction, for any sign of `e`. -/
def Fraction.scaled (n b : Nat) (e : Int) : Fraction :=
  if 0 ≤ e then ⟨n * b.pow e.toNat, 1⟩ else ⟨n, b.pow (-e).toNat⟩

/-- Compares two fractions. -/
def Fraction.compare (x y : Fraction) : Ordering := Ord.compare (x.num * y.den) (y.num * x.den)

/-- The distance of two fractions. -/
def Fraction.distance (x y : Fraction) : Fraction :=
  let a := x.num * y.den
  let b := y.num * x.den
  ⟨(a - b) + (b - a), x.den * y.den⟩

/-- A positive finite binary number, with the bounds between which a decimal reads back as it. -/
structure Binary where
  value : Fraction
  low : Fraction
  high : Fraction
  /-- Whether the bounds themselves read back as the number. -/
  closed : Bool

/-- The number with a fraction field and an exponent field, of 52 and 11 bits. -/
def Binary.ofFields (fraction field : Nat) : Binary :=
  let normal := field ≠ 0
  let m := if normal then fraction + 0x10000000000000 else fraction
  let q : Int := (if normal then (field : Int) else 1) - 1075
  let narrow := fraction = 0 ∧ field > 1
  { value := Fraction.scaled m 2 q
    low := if narrow then Fraction.scaled (4 * m - 1) 2 (q - 2) else Fraction.scaled (2 * m - 1) 2 (q - 1)
    high := Fraction.scaled (2 * m + 1) 2 (q - 1)
    closed := m % 2 = 0 }

/-- Whether a decimal reads back as the number. -/
def Binary.accepts (b : Binary) (d : Scientific) : Bool :=
  let x := Fraction.scaled d.digits 10 d.exponent
  match b.low.compare x, x.compare b.high with
  | .lt, .lt => true
  | .eq, .lt | .lt, .eq => b.closed
  | _, _ => false

/-- The decimal exponent of a positive fraction: `10 ^ k ≤ x < 10 ^ (k + 1)`, searched upwards from `k`. -/
def Fraction.magnitude (x : Fraction) : Nat → Int → Int
  | 0, k => k
  | fuel + 1, k =>
    if x.compare (Fraction.scaled 1 10 (k + 1)) = .lt then k else Fraction.magnitude x fuel (k + 1)

/-- The better of the two neighbours of a number on the grid of the multiples of `10 ^ k`. -/
def Binary.onGrid (b : Binary) (k : Int) : Option Scientific :=
  let n := (Fraction.scaled 1 10 k)
  let below := (b.value.num * n.den) / (b.value.den * n.num)
  let down : Scientific := ⟨below, k⟩
  let up : Scientific := ⟨below + 1, k⟩
  let toDown := b.value.distance (Fraction.scaled below 10 k)
  let toUp := b.value.distance (Fraction.scaled (below + 1) 10 k)
  match b.accepts down, b.accepts up with
  | true, true => if toUp.compare toDown = .lt ∨ (toUp.compare toDown = .eq ∧ below % 2 = 1) then some up else some down
  | true, false => some down
  | false, true => some up
  | false, false => none

/-- The shortest decimal of a positive number: the coarsest grid that holds one. -/
def Binary.shortest (b : Binary) : Scientific :=
  let k := b.value.magnitude 700 (-330)
  ((List.range 17).findSome? fun (n : Nat) => b.onGrid (k - (n : Int))).getD ⟨0, 0⟩

/-- Drops the zeros at the end of the digits. -/
def Scientific.reduce : Nat → Scientific → Scientific
  | 0, d => d
  | fuel + 1, d =>
    if d.digits ≠ 0 ∧ d.digits % 10 = 0 then Scientific.reduce fuel ⟨d.digits / 10, d.exponent + 1⟩ else d

/-- How a decimal is laid out. -/
structure Layout where
  /-- The least exponent of the first digit that is written positionally. -/
  leastPositional : Int
  /-- The greatest exponent of the first digit that is written positionally. -/
  greatestPositional : Int
  /-- The least number of digits of a written exponent. -/
  exponentWidth : Nat

/-- Digits of an exponent, with its sign. -/
def Layout.exponentText (l : Layout) (e : Int) : String :=
  let digits := toString e.natAbs
  (if e < 0 then "e-" else "e+") ++ String.ofList (List.replicate (l.exponentWidth - digits.length) '0') ++ digits

/-- Writes a positive decimal, always with a point or an exponent. -/
def Layout.write (l : Layout) (d : Scientific) : String :=
  let digits := (toString d.digits).toList
  let first : Int := d.exponent + digits.length - 1
  if l.leastPositional ≤ first ∧ first ≤ l.greatestPositional then
    if 0 ≤ d.exponent then
      String.ofList (digits ++ List.replicate d.exponent.toNat '0') ++ ".0"
    else if 0 ≤ first then
      String.ofList (digits.take (first.toNat + 1)) ++ "." ++ String.ofList (digits.drop (first.toNat + 1))
    else
      "0." ++ String.ofList (List.replicate (-first - 1).toNat '0' ++ digits)
  else
    let tail := digits.drop 1
    String.ofList (digits.take 1) ++ (if tail = [] then "" else "." ++ String.ofList tail) ++ l.exponentText first

/-- Writes the finite number with the given bits. -/
def Layout.writeBits (l : Layout) (bits : UInt64) : String :=
  let fraction := bits.toNat % 0x10000000000000
  let field := bits.toNat / 0x10000000000000 % 2048
  let sign := if bits.toNat / 0x8000000000000000 = 1 then "-" else ""
  if fraction = 0 ∧ field = 0 then sign ++ "0.0"
  else sign ++ l.write ((Binary.ofFields fraction field).shortest.reduce 20)

end BuildCredentials.Decimal
