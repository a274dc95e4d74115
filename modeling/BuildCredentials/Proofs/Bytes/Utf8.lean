import BuildCredentials.Proofs.Json.Strings
import Mathlib.Data.String.Basic
import Mathlib.Data.UInt

/-!
# The order of texts

Texts are compared by their characters. Since the bytes of a character go before those of a later one, whatever
follows them (`encodeChar_append_lt`), that is the order of their bytes (`encode_lt_encode`).
-/

set_option autoImplicit false

namespace BuildCredentials.Utf8

theorem cons_ofNat_lt {m n : Nat} (hm : m < 256) (hn : n < 256) {xs ys : List UInt8} :
    UInt8.ofNat m :: xs < UInt8.ofNat n :: ys ↔ m < n ∨ m = n ∧ xs < ys := by
  rw [List.cons_lt_cons_iff, UInt8.lt_iff_toNat_lt, ← UInt8.toNat_inj, UInt8.toNat_ofNat_of_lt' hm,
    UInt8.toNat_ofNat_of_lt' hn]

theorem encodeChar_append_lt {c d : Char} (h : c < d) (xs ys : List UInt8) :
    String.utf8EncodeChar c ++ xs < String.utf8EncodeChar d ++ ys := by
  have hlt : c.val.toNat < d.val.toNat := h
  have hd : d.val.toNat < 0x110000 := by
    have hvalid := d.valid
    simp only [UInt32.isValidChar, Nat.isValidChar] at hvalid
    omega
  generalize hm : c.val.toNat = m at *
  generalize hn : d.val.toNat = n at *
  -- Each byte takes six bits off the code point, so that the quotients are those of one another.
  have sixth (k : Nat) : k / 4096 = k / 64 / 64 := by omega
  have ninth (k : Nat) : k / 262144 = k / 64 / 64 / 64 := by omega
  simp only [String.utf8EncodeChar, hm, hn, sixth, ninth]
  split_ifs <;> simp (disch := omega) only [List.cons_append, List.nil_append, cons_ofNat_lt] <;> omega

theorem bytesOf_lt_bytesOf {cs ds : List Char} (h : cs < ds) : bytesOf cs < bytesOf ds := by
  induction h with
  | @nil d ds =>
    obtain ⟨b, bs, hb⟩ := List.exists_cons_of_ne_nil (String.utf8EncodeChar_ne_nil (c := d))
    rw [bytesOf, bytesOf, List.flatMap_cons, hb]
    exact List.nil_lt_cons b _
  | rel h => exact encodeChar_append_lt h _ _
  | cons _ ih => exact List.append_left_lt ih

/-- Texts are in the order of their bytes. -/
theorem encode_lt_encode {s t : String} : encode s < encode t ↔ s < t := by
  have mono {a b : String} (h : a < b) : encode a < encode b := by
    rw [encode_eq_bytesOf, encode_eq_bytesOf]
    exact bytesOf_lt_bytesOf h
  refine ⟨fun h => ?_, mono⟩
  rcases lt_trichotomy s t with hlt | rfl | hgt
  · exact hlt
  · exact absurd h (List.lt_irrefl _)
  · exact absurd h (List.lt_asymm (mono hgt))

theorem encode_injective : Function.Injective encode := fun s t h => by
  rw [← Option.some_inj, ← decode?_encode s, h, decode?_encode]

end BuildCredentials.Utf8
