/-!
# Decimals too large for a double

A decimal overflows when the double nearest to it would lie past the greatest finite one: from the midpoint
between that number and the next power of two on.
-/

set_option autoImplicit false

namespace BuildCredentials.Decimal

/-- The least number whose nearest double is infinite. -/
def overflowBound : Nat := Nat.pow 2 1024 - Nat.pow 2 970

/-- The decimal exponents of the leading digit between which digits have to be compared. -/
def leadingBounds : Int × Int := (300, 320)

/-- Whether `digits * 10 ^ exponent` is too large for a double. -/
def overflows (digits : Nat) (exponent : Int) : Bool :=
  let leading : Int := (Nat.toDigits 10 digits).length + exponent
  if digits = 0 ∨ leading < leadingBounds.1 then false
  else if leadingBounds.2 < leading then true
  else if exponent < 0 then overflowBound * Nat.pow 10 exponent.natAbs ≤ digits
  else overflowBound ≤ digits * Nat.pow 10 exponent.natAbs

end BuildCredentials.Decimal
