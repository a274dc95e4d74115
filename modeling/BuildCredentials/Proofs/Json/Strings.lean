import BuildCredentials.Json.Fields

/-!
# Strings and their bytes

The bytes of a text are those of its characters, one after another (`Utf8.encode_ofList`), and are read back as
that text (`Utf8.decode?_encode`). Inside a JSON string a character that is neither a quote, a backslash nor a
control has only plain bytes (`isPlain_of_mem_encodeChar`), and these are read as they stand
(`readStringBytes_plain`). What is written of a text has no controls (`le_of_mem_quoteChars`).
-/

set_option autoImplicit false

namespace BuildCredentials.Utf8

/-! ## Characters as bytes -/

/-- The bytes of characters. -/
def bytesOf (cs : List Char) : List UInt8 := cs.flatMap String.utf8EncodeChar

theorem bytesOf_append (cs ds : List Char) : bytesOf (cs ++ ds) = bytesOf cs ++ bytesOf ds :=
  List.flatMap_append

theorem bytesOf_cons {c : Char} {b : UInt8} (h : String.utf8EncodeChar c = [b]) (cs : List Char) :
    bytesOf (c :: cs) = b :: bytesOf cs := by simp [bytesOf, h]

theorem encode_ofList (cs : List Char) : encode (String.ofList cs) = bytesOf cs := by
  simp [encode, bytesOf, List.utf8Encode]

theorem encode_eq_bytesOf (s : String) : encode s = bytesOf s.toList := by
  rw [← encode_ofList, String.ofList_toList]

@[simp] theorem decode?_encode (s : String) : decode? (encode s) = some s := by
  simp [decode?, encode, String.fromUTF8?, String.fromUTF8, s.isValidUTF8]

theorem encode_of_decode? {bytes : List UInt8} {s : String} (h : decode? bytes = some s) : encode s = bytes := by
  unfold decode? String.fromUTF8? at h
  split at h
  · rw [← Option.some.inj h]
    rfl
  · cases h

theorem encodeChar_of_lt {c : Char} (h : c.toNat < 128) : String.utf8EncodeChar c = [c.toNat.toUInt8] := by
  have hc : ¬ 127 < c.toNat := by omega
  simp [String.utf8EncodeChar, hc]

theorem le_of_mem_encodeChar {c : Char} (h : 128 ≤ c.toNat) {b : UInt8} (hb : b ∈ String.utf8EncodeChar c) :
    128 ≤ b := by
  have hc : ¬ c.val.toNat ≤ 127 := Nat.not_le.2 h
  rw [UInt8.le_iff_toNat_le]
  show 128 ≤ b.toNat
  simp only [String.utf8EncodeChar, hc, if_false] at hb
  split at hb
  · simp only [List.mem_cons, List.not_mem_nil, or_false] at hb
    rcases hb with rfl | rfl <;> simp <;> omega
  · split at hb
    · simp only [List.mem_cons, List.not_mem_nil, or_false] at hb
      rcases hb with rfl | rfl | rfl <;> simp <;> omega
    · simp only [List.mem_cons, List.not_mem_nil, or_false] at hb
      rcases hb with rfl | rfl | rfl | rfl <;> simp <;> omega

end BuildCredentials.Utf8

namespace BuildCredentials.Json

open Utf8 (bytesOf bytesOf_append bytesOf_cons)

/-! ## Strings -/

/-- A byte that stands for itself inside a string. -/
def isPlain (b : UInt8) : Bool := b ≠ 34 && b ≠ 92 && 32 ≤ b

theorem readStringBytes_plain {bs : List UInt8} (h : ∀ b ∈ bs, isPlain b) (acc rest : List UInt8) :
    readStringBytes acc (bs ++ rest) = readStringBytes (bs.reverse ++ acc) rest := by
  induction bs generalizing acc with
  | nil => rfl
  | cons b bs ih =>
    have hb := h b (.head _)
    simp only [isPlain, Bool.and_eq_true, decide_eq_true_eq] at hb
    rw [List.cons_append, readStringBytes, if_neg hb.1.1, if_neg hb.1.2, if_neg (UInt8.not_lt.2 hb.2),
      ih (fun b' hm => h b' (.tail _ hm))]
    simp

theorem readStringBytes_escape {bytes s after : List UInt8} (h : readEscape s = .ok (bytes, after))
    (acc : List UInt8) : readStringBytes acc (92 :: s) = readStringBytes (bytes.reverse ++ acc) after := by
  rw [readStringBytes, if_neg (by decide), if_pos rfl]
  split
  · rename_i h'
    rw [h] at h'
    cases h'
  · rename_i h'
    rw [h] at h'
    cases h'
    rfl

theorem fourDigits_of_lt : ∀ n < 32, fourDigits n =
    [Nat.digitChar 0, Nat.digitChar 0, Nat.digitChar (n / 16), Nat.digitChar (n % 16)] := by decide

theorem isPlain_of_mem_encodeChar {c : Char} (hquote : c ≠ '"') (hslash : c ≠ '\\') (h : 32 ≤ c.toNat)
    {b : UInt8} (hb : b ∈ String.utf8EncodeChar c) : isPlain b := by
  suffices hs : b.toNat ≠ 34 ∧ b.toNat ≠ 92 ∧ 32 ≤ b.toNat by
    simp only [isPlain, Bool.and_eq_true, decide_eq_true_eq, ne_eq, ← UInt8.toNat_inj,
      UInt8.le_iff_toNat_le]
    exact ⟨⟨hs.1, hs.2.1⟩, hs.2.2⟩
  by_cases hc : c.toNat < 128
  · have h34 : c.toNat ≠ 34 := fun he => hquote (Char.toNat_inj.1 he)
    have h92 : c.toNat ≠ 92 := fun he => hslash (Char.toNat_inj.1 he)
    rw [Utf8.encodeChar_of_lt hc, List.mem_singleton] at hb
    have he : b.toNat = c.toNat := by
      rw [hb]
      simp only [Nat.toUInt8_eq, UInt8.toNat_ofNat']
      omega
    omega
  · have hle := UInt8.le_iff_toNat_le.1 (Utf8.le_of_mem_encodeChar (Nat.not_lt.1 hc) hb)
    have h128 : (128 : UInt8).toNat = 128 := rfl
    omega

/-! ## Strings on a line -/

theorem le_digitChar : ∀ d < 16, 32 ≤ (Nat.digitChar d).toNat := by decide

theorem le_of_mem_fourDigits {n : Nat} (h : n < 32) {c : Char} (hc : c ∈ fourDigits n) : 32 ≤ c.toNat := by
  rw [fourDigits_of_lt n h] at hc
  simp only [List.mem_cons, List.not_mem_nil, or_false] at hc
  rcases hc with rfl | rfl | rfl | rfl
  · exact le_digitChar 0 (by decide)
  · exact le_digitChar 0 (by decide)
  · exact le_digitChar (n / 16) (by omega)
  · exact le_digitChar (n % 16) (by omega)

/-- A character is written without controls. -/
theorem le_of_mem_escapeChar {c d : Char} (h : d ∈ escapeChar c) : 32 ≤ d.toNat := by
  -- Each escape is a backslash and a letter or digits; what is left is no control.
  have pair (letter : Char) (hl : 32 ≤ letter.toNat) (hd : d ∈ ['\\', letter]) : 32 ≤ d.toNat := by
    simp only [List.mem_cons, List.not_mem_nil, or_false] at hd
    rcases hd with rfl | rfl
    · decide
    · exact hl
  unfold escapeChar at h
  split at h
  · exact pair _ (by decide) h
  split at h
  · exact pair _ (by decide) h
  split at h
  · exact pair _ (by decide) h
  split at h
  · exact pair _ (by decide) h
  split at h
  · exact pair _ (by decide) h
  split at h
  · exact pair _ (by decide) h
  split at h
  · exact pair _ (by decide) h
  split at h
  · next hlow =>
    rcases List.mem_append.1 h with hd | hd
    · exact pair _ (by decide) hd
    · exact le_of_mem_fourDigits hlow hd
  · next hlow =>
    obtain rfl := List.mem_singleton.1 h
    exact Nat.not_lt.1 hlow

theorem le_of_mem_quoteChars {s : String} {c : Char} (h : c ∈ quoteChars s) : 32 ≤ c.toNat := by
  simp only [quoteChars, List.mem_cons, List.mem_append, List.mem_flatMap, List.not_mem_nil, or_false] at h
  rcases h with rfl | ⟨d, -, hd⟩ | rfl
  · decide
  · exact le_of_mem_escapeChar hd
  · decide

theorem bytesOf_quoteChars (s : String) :
    bytesOf (quoteChars s) = 34 :: (bytesOf (s.toList.flatMap escapeChar) ++ [34]) := by
  simp only [quoteChars, bytesOf, List.flatMap_cons, List.flatMap_append]
  rfl

end BuildCredentials.Json
