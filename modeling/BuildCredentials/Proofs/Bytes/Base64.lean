import BuildCredentials.Bytes.Base64
import Mathlib.Data.List.TakeWhile

/-!
# Base64 read and written

In each form a text is read just if it is what some bytes are written as, and then it is read as these bytes
(`Form.decode?_eq_some_iff`). The forms agree on what they both read (`Form.decode?_unique`), so that it does not
matter which of them is tried first (`findSome?_decode?_eq_some_iff`).
-/

set_option autoImplicit false

namespace BuildCredentials.Base64

/-! ## Digits -/

section
variable {a b : Alphabet} {n m : Nat} {c : Char}

theorem value?_digit (a : Alphabet) : ∀ n < 64, a.value? (a.digit n) = some n := by
  cases a <;> decide

theorem toNat_lt_of_value? (h : a.value? c = some n) : c.toNat < 128 := by
  unfold Alphabet.value? at h
  split at h
  · next hc => exact Nat.lt_of_le_of_lt hc.2 (by decide)
  · split at h
    · next hc => exact Nat.lt_of_le_of_lt hc.2 (by decide)
    · split at h
      · next hc => exact Nat.lt_of_le_of_lt hc.2 (by decide)
      · split at h
        · next hc => rw [hc]; cases a <;> decide
        · split at h
          · next hc => rw [hc]; cases a <;> decide
          · cases h

/-- What holds of the digits among the ASCII characters holds of all digits. -/
theorem of_value? {P : Char → Nat → Prop}
    (hP : ∀ k < 128, ∀ n ∈ a.value? (Char.ofNat k), P (Char.ofNat k) n) (h : a.value? c = some n) : P c n := by
  have hk := hP c.toNat (toNat_lt_of_value? h) n
  rw [Char.ofNat_toNat] at hk
  exact hk h

theorem digit_of_value? (h : a.value? c = some n) : n < 64 ∧ a.digit n = c := by
  refine of_value? (a := a) (P := fun c n => n < 64 ∧ a.digit n = c) ?_ h
  cases a <;> decide

/-- A digit that both alphabets have has the same value in both. -/
theorem value?_unique (h : a.value? c = some n) (h' : b.value? c = some m) : n = m := by
  refine of_value? (a := a) (P := fun c n => ∀ m ∈ b.value? c, n = m) ?_ h m h'
  cases a <;> cases b <;> decide

end

/-! ## Groups -/

theorem lt_of_mem_sextets (bytes : List UInt8) : ∀ n ∈ sextets bytes, n < 64 := by
  fun_induction sextets bytes with
  | case1 => nofun
  | case2 x =>
    have := x.toNat_lt
    simp only [List.mem_cons, List.not_mem_nil, or_false, forall_eq_or_imp, forall_eq]
    omega
  | case3 x y =>
    have := x.toNat_lt
    have := y.toNat_lt
    simp only [List.mem_cons, List.not_mem_nil, or_false, forall_eq_or_imp, forall_eq]
    omega
  | case4 x y z rest ih =>
    have := x.toNat_lt
    have := y.toNat_lt
    have := z.toNat_lt
    simp only [List.mem_cons, forall_eq_or_imp]
    exact ⟨by omega, by omega, by omega, by omega, ih⟩

theorem ofNat_eq (x : UInt8) {n : Nat} (h : n = x.toNat) : UInt8.ofNat n = x := by
  rw [h, UInt8.ofNat_toNat]

theorem ofSextets?_sextets (bytes : List UInt8) : ofSextets? (sextets bytes) = some bytes := by
  fun_induction sextets bytes with
  | case1 => rfl
  | case2 x =>
    have := x.toNat_lt
    rw [ofSextets?, if_pos (by omega), ofNat_eq x (by omega)]
  | case3 x y =>
    have := x.toNat_lt
    have := y.toNat_lt
    rw [ofSextets?, if_pos (by omega), ofNat_eq x (by omega), ofNat_eq y (by omega)]
  | case4 x y z rest ih =>
    have := x.toNat_lt
    have := y.toNat_lt
    have := z.toNat_lt
    rw [ofSextets?, ih, ofNat_eq x (by omega), ofNat_eq y (by omega), ofNat_eq z (by omega)]
    rfl

theorem eq_sextets_of_ofSextets? {values : List Nat} {bytes : List UInt8} (hlt : ∀ n ∈ values, n < 64)
    (h : ofSextets? values = some bytes) : values = sextets bytes := by
  have byte {n : Nat} (hn : n < 256) : (UInt8.ofNat n).toNat = n := UInt8.toNat_ofNat_of_lt hn
  fun_induction ofSextets? values generalizing bytes with
  | case1 =>
    cases h
    rfl
  | case2 | case4 | case6 => cases h
  | case3 a b hb =>
    cases h
    simp only [List.mem_cons, List.not_mem_nil, or_false, forall_eq_or_imp, forall_eq] at hlt
    rw [sextets, byte (by omega)]
    congr <;> omega
  | case5 a b c hc =>
    cases h
    simp only [List.mem_cons, List.not_mem_nil, or_false, forall_eq_or_imp, forall_eq] at hlt
    rw [sextets, byte (by omega), byte (by omega)]
    congr <;> omega
  | case7 a b c d rest ih =>
    obtain ⟨tail, htail, hbytes⟩ := Option.bind_eq_some_iff.1 h
    cases hbytes
    simp only [List.mem_cons, forall_eq_or_imp] at hlt
    rw [sextets, byte (by omega), byte (by omega), byte (by omega), ← ih hlt.2.2.2.2 htail]
    congr <;> omega

/-! ## Texts of digits -/

section
variable {a b : Alphabet} {values : List Nat} {digits : List Char}

theorem mapM_value?_map_digit (hlt : ∀ n ∈ values, n < 64) :
    (values.map a.digit).mapM a.value? = some values := by
  induction values with
  | nil => rfl
  | cons n rest ih =>
    obtain ⟨hn, hrest⟩ := List.forall_mem_cons.1 hlt
    simp [value?_digit a n hn, ih hrest]

theorem of_mapM_value? (h : digits.mapM a.value? = some values) :
    values.map a.digit = digits ∧ ∀ n ∈ values, n < 64 := by
  induction digits generalizing values with
  | nil =>
    cases h
    exact ⟨rfl, nofun⟩
  | cons c rest ih =>
    simp only [List.mapM_cons, Option.bind_eq_bind, Option.bind_eq_some_iff] at h
    obtain ⟨n, hn, values, hvalues, he⟩ := h
    cases he
    obtain ⟨hlt, hc⟩ := digit_of_value? hn
    obtain ⟨hrest, hlts⟩ := ih hvalues
    exact ⟨by rw [List.map_cons, hc, hrest], List.forall_mem_cons.2 ⟨hlt, hlts⟩⟩

theorem mapM_value?_unique {values' : List Nat} (h : digits.mapM a.value? = some values)
    (h' : digits.mapM b.value? = some values') : values = values' := by
  induction digits generalizing values values' with
  | nil =>
    cases h
    cases h'
    rfl
  | cons c rest ih =>
    simp only [List.mapM_cons, Option.bind_eq_bind, Option.bind_eq_some_iff] at h h'
    obtain ⟨n, hn, values, hvalues, he⟩ := h
    obtain ⟨n', hn', values', hvalues', he'⟩ := h'
    cases he
    cases he'
    rw [value?_unique hn hn', ih hvalues hvalues']

theorem digit_ne_padding (a : Alphabet) : ∀ n < 64, a.digit n ≠ '=' := by
  cases a <;> decide

end

/-! ## Forms -/

/-- The digits that bytes are written with. -/
def digitsOf (a : Alphabet) (bytes : List UInt8) : List Char := (sextets bytes).map a.digit

theorem ne_padding_of_mem_digitsOf {a : Alphabet} {bytes : List UInt8} {c : Char} (h : c ∈ digitsOf a bytes) :
    c ≠ '=' := by
  obtain ⟨n, hn, rfl⟩ := List.mem_map.1 h
  exact digit_ne_padding a n (lt_of_mem_sextets bytes n hn)

theorem encode_eq (f : Form) (bytes : List UInt8) : f.encode bytes =
    if f.padded then digitsOf f.alphabet bytes ++ padding (digitsOf f.alphabet bytes).length
    else digitsOf f.alphabet bytes := rfl

theorem encode_nil (f : Form) : f.encode [] = [] := by
  obtain ⟨alphabet, padded⟩ := f
  cases padded <;> simp [Form.encode, sextets, padding]

/-- The digits of a text end where its padding begins. -/
theorem takeWhile_encode (f : Form) (bytes : List UInt8) :
    (f.encode bytes).takeWhile (· ≠ '=') = digitsOf f.alphabet bytes := by
  have hdigits : ∀ c ∈ digitsOf f.alphabet bytes, decide (c ≠ '=') = true :=
    fun c hc => decide_eq_true (ne_padding_of_mem_digitsOf hc)
  have hpadding (n : Nat) : (padding n).takeWhile (· ≠ '=') = [] := by
    cases hp : padding n with
    | nil => rfl
    | cons c rest =>
      have hc : c = '=' := List.eq_of_mem_replicate (n := _) (by rw [← padding, hp]; exact .head _)
      simp [hc]
  rw [encode_eq]
  split
  · rw [List.takeWhile_append_of_pos hdigits, hpadding, List.append_nil]
  · exact List.takeWhile_eq_self_iff.2 hdigits

section
variable {f g : Form} {text : List Char} {bytes bytes' : List UInt8}

theorem decode?_encode (f : Form) (bytes : List UInt8) : f.decode? (f.encode bytes) = some bytes := by
  have hd : f.digits? (f.encode bytes) = some (digitsOf f.alphabet bytes) := by
    unfold Form.digits?
    rw [takeWhile_encode]
    exact if_pos (encode_eq f bytes)
  simp [Form.decode?, hd, digitsOf, mapM_value?_map_digit (lt_of_mem_sextets bytes), ofSextets?_sextets]

/-- A text that is read has digits with values that stand for the bytes, and the padding that its form asks for. -/
theorem of_decode? (h : f.decode? text = some bytes) : ∃ values,
    (text.takeWhile (· ≠ '=')).mapM f.alphabet.value? = some values ∧ ofSextets? values = some bytes ∧
      text = if f.padded then text.takeWhile (· ≠ '=') ++ padding (text.takeWhile (· ≠ '=')).length
        else text.takeWhile (· ≠ '=') := by
  simp only [Form.decode?, Option.bind_eq_bind, Option.bind_eq_some_iff] at h
  obtain ⟨digits, hd, values, hv, hb⟩ := h
  obtain ⟨ht, he⟩ := Option.ite_none_right_eq_some.1 hd
  cases he
  exact ⟨values, hv, hb, ht⟩

theorem eq_encode_of_decode? (h : f.decode? text = some bytes) : text = f.encode bytes := by
  obtain ⟨values, hv, hb, ht⟩ := of_decode? h
  obtain ⟨hd, hlt⟩ := of_mapM_value? hv
  have he : digitsOf f.alphabet bytes = text.takeWhile (· ≠ '=') := by
    rw [digitsOf, ← eq_sextets_of_ofSextets? hlt hb, hd]
  rw [encode_eq, he]
  exact ht

/-- In each form, what is read is what is written. -/
theorem Form.decode?_eq_some_iff : f.decode? text = some bytes ↔ text = f.encode bytes :=
  ⟨eq_encode_of_decode?, fun h => h ▸ decode?_encode f bytes⟩

/-- No text has two readings. -/
theorem Form.decode?_unique (h : f.decode? text = some bytes) (h' : g.decode? text = some bytes') :
    bytes = bytes' := by
  obtain ⟨values, hv, hb, -⟩ := of_decode? h
  obtain ⟨values', hv', hb', -⟩ := of_decode? h'
  rw [mapM_value?_unique hv hv', hb'] at hb
  exact (Option.some.inj hb).symm

theorem mem_forms (f : Form) : f ∈ forms := by
  obtain ⟨alphabet, padded⟩ := f
  cases alphabet <;> cases padded <;> decide

/-- Whatever the order in which all forms are tried, a text is read just if it is written in one of them. -/
theorem findSome?_decode?_eq_some_iff {order : List Form} (all : ∀ f, f ∈ order) :
    order.findSome? (·.decode? text) = some bytes ↔ ∃ f : Form, text = f.encode bytes := by
  constructor
  · intro h
    obtain ⟨f, -, hf⟩ := List.exists_of_findSome?_eq_some h
    exact ⟨f, eq_encode_of_decode? hf⟩
  · rintro ⟨f, rfl⟩
    cases hs : order.findSome? (·.decode? (f.encode bytes)) with
    | none =>
      have hnone := List.findSome?_eq_none_iff.1 hs f (all f)
      rw [decode?_encode] at hnone
      cases hnone
    | some bytes' =>
      obtain ⟨g, -, hg⟩ := List.exists_of_findSome?_eq_some hs
      rw [Form.decode?_unique (decode?_encode f bytes) hg]

theorem decodeAny?_eq_some_iff : decodeAny? text = some bytes ↔ ∃ f : Form, text = f.encode bytes :=
  findSome?_decode?_eq_some_iff mem_forms

end

end BuildCredentials.Base64
