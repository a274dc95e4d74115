import BuildCredentials.Bytes.Hex
import BuildCredentials.Bytes.Sha256
import Std.Data.ExtTreeMap

/-!
# Build identifiers

A build identifier is the secret under which a build's credentials are kept. It is shown, in logs and in
error texts, only through its fingerprint: the first six bytes of its SHA-256 hash.
-/

set_option autoImplicit false

namespace BuildCredentials

/-- The secret name of one build. -/
structure BuildId where
  text : String
  deriving DecidableEq, Repr, Hashable

namespace BuildId

/-- Bytes of the hash that a fingerprint shows. -/
def fingerprintBytes : Nat := 6

/-- The public reference to a build: twelve hexadecimal digits of its hash. -/
def fingerprint (id : BuildId) : String :=
  Hex.encode ((Sha256.digest id.text.toUTF8.data.toList).take fingerprintBytes)

/-- The text that a log may show of an identifier. -/
def describe (id : BuildId) : String := "BuildId(" ++ id.fingerprint ++ ")"

/-! ## Order by the text -/

instance : Ord BuildId where
  compare a b := compare a.text b.text

instance : Std.TransOrd BuildId where
  eq_swap {a b} := (Std.OrientedCmp.eq_swap : compare a.text b.text = (compare b.text a.text).swap)
  isLE_trans {a b c} (h : (compare a.text b.text).isLE) (h' : (compare b.text c.text).isLE) :=
    (Std.TransCmp.isLE_trans h h' : (compare a.text c.text).isLE)

instance : Std.LawfulEqOrd BuildId where
  compare_self {a} := (Std.ReflCmp.compare_self : compare a.text a.text = .eq)
  eq_of_compare {a b} (h : compare a.text b.text = .eq) := by
    cases a; cases b
    simpa using Std.LawfulEqCmp.eq_of_compare h

end BuildId

end BuildCredentials
