import BuildCredentials.Proofs.Json.Grammar
import BuildCredentials.Proofs.Json.Strings

/-!
# Strings in any spelling

A string is read as the characters that its pieces stand for, and refused if they stand for none (`Piece.read`,
`Spells.readText`, `readText_of_not_spells`); it is passed over either way (`skipString_spell`). What is written
of a text is one of the spellings of that text (`spells_quoteChars`).
-/

set_option autoImplicit false

namespace BuildCredentials.Json

open Utf8 (bytesOf bytesOf_append bytesOf_cons)

theorem skipBlanks_blanks {a : List UInt8} (h : Blanks a) (s : List UInt8) : skipBlanks (a ++ s) = skipBlanks s := by
  refine List.dropWhile_append_of_pos fun b hb => ?_
  have hmem := h b hb
  simp only [List.mem_cons, List.not_mem_nil, or_false] at hmem
  rcases hmem with rfl | rfl | rfl | rfl <;> rfl

/-! ## Escapes -/

theorem hexValue?_byte (d : HexDigit) : hexValue? d.byte = some d.value.val := by
  have hall : ∀ v : Fin 16, ∀ c : Bool, hexValue? (HexDigit.byte ⟨v, c⟩) = some v.val := by decide
  exact hall d.value d.capital

theorem readFourHex_bytes (u : CodeUnit) (rest : List UInt8) :
    readFourHex (u.bytes ++ rest) = .ok (u.value, rest) := by
  simp only [CodeUnit.bytes, List.cons_append, List.nil_append, readFourHex, hexValue?_byte, CodeUnit.value]

theorem simpleEscape?_byte (l : Letter) : simpleEscape? l.byte = some l.char.toNat.toUInt8 := by
  cases l <;> decide

theorem byte_ne_u (l : Letter) : l.byte ≠ 117 := by cases l <;> decide

theorem char_lt (l : Letter) : l.char.toNat < 128 := by cases l <;> decide

/-! ## Pieces as they are read -/

section
variable (acc rest : List UInt8)

theorem readStringBytes_unescaped {c : Char} (h : Unescaped c) :
    readStringBytes acc (String.utf8EncodeChar c ++ rest) =
      readStringBytes ((String.utf8EncodeChar c).reverse ++ acc) rest :=
  readStringBytes_plain (fun _ => isPlain_of_mem_encodeChar h.1 h.2.1 h.2.2) acc rest

theorem readStringBytes_byte (l : Letter) :
    readStringBytes acc (92 :: l.byte :: rest) =
      readStringBytes ((String.utf8EncodeChar l.char).reverse ++ acc) rest := by
  refine readStringBytes_escape (s := l.byte :: rest) ?_ acc
  simp only [readEscape, simpleEscape?_byte, Utf8.encodeChar_of_lt (char_lt l)]

variable {u v : CodeUnit}

theorem readEscape_unit (u : CodeUnit) :
    readEscape (117 :: (u.bytes ++ rest)) = readUnicodeEscape (u.bytes ++ rest) := by
  have hs : simpleEscape? 117 = none := by decide
  simp only [readEscape, hs, if_true]

theorem readUnicodeEscape_low (h : u.isLow) : ∃ f, readUnicodeEscape (u.bytes ++ rest) = .error f := by
  simp only [CodeUnit.isLow, Bool.and_eq_true, decide_eq_true_eq] at h
  exact ⟨_, by simp only [readUnicodeEscape, readFourHex_bytes, h, and_self, if_true]; rfl⟩

theorem readUnicodeEscape_high (h : u.isHigh) :
    readUnicodeEscape (u.bytes ++ rest) = readLowSurrogate u.value rest := by
  simp only [CodeUnit.isHigh, Bool.and_eq_true, decide_eq_true_eq] at h
  have hl : ¬(0xDC00 ≤ u.value ∧ u.value ≤ 0xDFFF) := by omega
  have hp : ¬(u.value < 0xD800 ∨ 0xDBFF < u.value) := by omega
  simp only [readUnicodeEscape, readFourHex_bytes, hl, hp, if_false]

theorem readUnicodeEscape_single (hl : ¬u.isLow) (hh : ¬u.isHigh) :
    readUnicodeEscape (u.bytes ++ rest) = .ok (String.utf8EncodeChar (.ofNat u.value), rest) := by
  simp only [CodeUnit.isLow, CodeUnit.isHigh, Bool.and_eq_true, decide_eq_true_eq] at hl hh
  have hp : u.value < 0xD800 ∨ 0xDBFF < u.value := by omega
  simp only [readUnicodeEscape, readFourHex_bytes, hl, hp, if_true, if_false, bytesOfCodePoint]

theorem readLowSurrogate_low (n : Nat) (h : v.isLow) :
    readLowSurrogate n (92 :: 117 :: (v.bytes ++ rest)) =
      .ok (String.utf8EncodeChar (.ofNat (0x10000 + (n - 0xD800) * 0x400 + (v.value - 0xDC00))), rest) := by
  simp only [CodeUnit.isLow, Bool.and_eq_true, decide_eq_true_eq] at h
  have hl : ¬(v.value < 0xDC00 ∨ 0xDFFF < v.value) := by omega
  simp only [readLowSurrogate, ne_eq, not_true_eq_false, if_false, readFourHex_bytes, hl, bytesOfCodePoint]

theorem readLowSurrogate_not_low (n : Nat) (h : ¬v.isLow) :
    ∃ f, readLowSurrogate n (92 :: 117 :: (v.bytes ++ rest)) = .error f := by
  simp only [CodeUnit.isLow, Bool.and_eq_true, decide_eq_true_eq] at h
  have hl : v.value < 0xDC00 ∨ 0xDFFF < v.value := by omega
  exact ⟨_, by simp only [readLowSurrogate, ne_eq, not_true_eq_false, if_false, readFourHex_bytes, hl, if_true]; rfl⟩

theorem readLowSurrogate_other (n : Nat) {b : UInt8} (h : b ≠ 92) :
    ∃ f, readLowSurrogate n (b :: rest) = .error f := by
  cases rest with
  | nil => exact ⟨_, by simp only [readLowSurrogate, h, if_false]; rfl⟩
  | cons c rest => exact ⟨_, by simp only [readLowSurrogate, ne_eq, h, not_false_eq_true, if_true]; rfl⟩

theorem readLowSurrogate_letter (n : Nat) (l : Letter) :
    ∃ f, readLowSurrogate n (92 :: l.byte :: rest) = .error f :=
  ⟨_, by simp only [readLowSurrogate, ne_eq, not_true_eq_false, if_false, byte_ne_u l, not_false_eq_true,
    if_true]; rfl⟩

/-- A first half of a pair without its second half is refused. -/
theorem readLowSurrogate_spell (n : Nat) {ps : List Piece}
    (h : ∀ v qs, ps = .number v :: qs → ¬v.isLow) :
    ∃ f, readLowSurrogate n (Piece.spell ps ++ 34 :: rest) = .error f := by
  cases ps with
  | nil => exact readLowSurrogate_other rest n (by decide)
  | cons p qs =>
    rw [Piece.spell, List.flatMap_cons, List.append_assoc]
    cases p with
    | plain c hc =>
      cases he : String.utf8EncodeChar c with
      | nil => exact absurd he (by simp)
      | cons b bs =>
        have hb : isPlain b := isPlain_of_mem_encodeChar hc.1 hc.2.1 hc.2.2 (he ▸ .head _)
        simp only [isPlain, Bool.and_eq_true, decide_eq_true_eq] at hb
        rw [Piece.bytes, he]
        exact readLowSurrogate_other _ n hb.1.2
    | letter l => exact readLowSurrogate_letter _ n l
    | number v => exact readLowSurrogate_not_low _ n (h v qs rfl)

theorem readStringBytes_refused {s : List UInt8} (h : ∃ f, readEscape s = .error f) :
    ∃ f, readStringBytes acc (92 :: s) = .error f := by
  obtain ⟨f, hf⟩ := h
  refine ⟨f, ?_⟩
  rw [readStringBytes, if_neg (by decide), if_pos rfl]
  split
  · next h' => rw [Except.error.inj (hf.symm.trans h')]
  · next h' => cases hf.symm.trans h'

end

/-! ## Strings as they are read -/

/-- Pieces are read as the characters that they stand for, up to the quote, or else refused. -/
def Piece.Read (ps : List Piece) : Prop := ∀ acc rest : List UInt8,
  (∃ cs, chars? ps = some cs ∧
    readStringBytes acc (spell ps ++ 34 :: rest) = .ok (acc.reverse ++ bytesOf cs, rest)) ∨
  (chars? ps = none ∧ ∃ f, readStringBytes acc (spell ps ++ 34 :: rest) = .error f)

namespace Piece

/-- What stands for one character more is read as one character more. -/
theorem Read.cons {ps qs : List Piece} {c : Char} (h : Read qs) (hc : chars? ps = (chars? qs).map (c :: ·))
    (hb : ∀ acc rest, readStringBytes acc (spell ps ++ 34 :: rest) =
      readStringBytes ((String.utf8EncodeChar c).reverse ++ acc) (spell qs ++ 34 :: rest)) : Read ps := by
  intro acc rest
  rw [hb]
  rcases h ((String.utf8EncodeChar c).reverse ++ acc) rest with ⟨cs, hcs, hr⟩ | ⟨hn, hr⟩
  · refine .inl ⟨c :: cs, by rw [hc, hcs]; rfl, ?_⟩
    rw [hr, List.reverse_append, List.reverse_reverse, List.append_assoc]
    rfl
  · exact .inr ⟨by rw [hc, hn]; rfl, hr⟩

theorem spell_cons (p : Piece) (ps : List Piece) (rest : List UInt8) :
    spell (p :: ps) ++ rest = p.bytes ++ (spell ps ++ rest) := by
  rw [spell, List.flatMap_cons, List.append_assoc]
  rfl

theorem spell_number (u : CodeUnit) (ps : List Piece) (rest : List UInt8) :
    spell (.number u :: ps) ++ rest = 92 :: 117 :: (u.bytes ++ (spell ps ++ rest)) := by
  rw [spell_cons]
  rfl

/-- Half of a pair that stands alone is refused. -/
theorem read_of_high {u : CodeUnit} {ps : List Piece} (hh : u.isHigh)
    (h : ∀ v qs, ps = number v :: qs → ¬v.isLow) (hc : chars? (number u :: ps) = none) :
    Read (number u :: ps) := by
  intro acc rest
  refine .inr ⟨hc, ?_⟩
  rw [spell_number]
  refine readStringBytes_refused acc ?_
  rw [readEscape_unit, readUnicodeEscape_high _ hh]
  exact readLowSurrogate_spell rest _ h

theorem read (ps : List Piece) : Read ps := by
  fun_induction chars? ps with
  | case1 =>
    intro acc rest
    exact .inl ⟨[], rfl, by simp [spell, readStringBytes, bytesOf]⟩
  | case2 c hc ps ih =>
    refine ih.cons (by rw [chars?]) fun acc rest => ?_
    rw [spell_cons]
    exact readStringBytes_unescaped acc _ hc
  | case3 l ps ih =>
    refine ih.cons (by rw [chars?]) fun acc rest => ?_
    rw [spell_cons]
    exact readStringBytes_byte acc _ l
  | case4 u ps hl =>
    intro acc rest
    refine .inr ⟨by rw [chars?.eq_def]; simp [hl], ?_⟩
    rw [spell_number]
    exact readStringBytes_refused acc (by rw [readEscape_unit]; exact readUnicodeEscape_low _ hl)
  | case5 u hl hh v ps hv ih =>
    refine ih.cons (c := u.pair v) (by simp [chars?, hl, hh, hv]) fun acc rest => ?_
    rw [spell_number, spell_number]
    refine readStringBytes_escape ?_ acc
    rw [readEscape_unit, readUnicodeEscape_high _ hh, readLowSurrogate_low _ _ hv]
    rfl
  | case6 u hl hh v ps hv =>
    refine read_of_high hh (fun w qs he => ?_) (by simp [chars?, hl, hh, hv])
    cases he
    exact hv
  | case7 u ps hl hh hne =>
    refine read_of_high hh (fun v qs he => absurd he (hne v qs)) ?_
    simp [chars?, hl, hh]
  | case8 u ps hl hh ih =>
    refine ih.cons (c := .ofNat u.value) (by rw [chars?.eq_def]; simp [hl, hh]) fun acc rest => ?_
    rw [spell_number]
    refine readStringBytes_escape ?_ acc
    rw [readEscape_unit, readUnicodeEscape_single _ hl hh]

end Piece

theorem readString_of_chars? {ps : List Piece} {cs : List Char} (h : Piece.chars? ps = some cs)
    (rest : List UInt8) : readString (Piece.spell ps ++ 34 :: rest) = .ok (String.ofList cs, rest) := by
  rcases Piece.read ps [] rest with ⟨ds, hd, hr⟩ | ⟨hn, -⟩
  · obtain rfl := Option.some.inj (h.symm.trans hd)
    rw [readString, hr]
    simp only [List.reverse_nil, List.nil_append, ← Utf8.encode_ofList, Utf8.decode?_encode]
  · cases h.symm.trans hn

theorem readString_of_none {ps : List Piece} (h : Piece.chars? ps = none) (rest : List UInt8) :
    ∃ f, readString (Piece.spell ps ++ 34 :: rest) = .error f := by
  rcases Piece.read ps [] rest with ⟨ds, hd, -⟩ | ⟨-, f, hr⟩
  · cases h.symm.trans hd
  · exact ⟨f, by rw [readString, hr]⟩

theorem quoted_append (ps : List Piece) (rest : List UInt8) :
    quoted ps ++ rest = 34 :: (Piece.spell ps ++ 34 :: rest) := by
  rw [quoted, List.cons_append, List.append_assoc]
  rfl

/-- A text is read in each of its spellings. -/
theorem Spells.readText {s : String} {bytes : List UInt8} (h : Spells s bytes) (rest : List UInt8) :
    readText (bytes ++ rest) = .ok (s, rest) := by
  obtain ⟨ps, rfl, hc⟩ := h
  rw [quoted_append]
  show readString _ = _
  rw [readString_of_chars? hc, String.ofList_toList]

/-- A string that stands for no text is refused. -/
theorem readText_of_not_spells {ps : List Piece} (h : ∀ s, ¬Spells s (quoted ps)) (rest : List UInt8) :
    ∃ f, readText (quoted ps ++ rest) = .error f := by
  rw [quoted_append]
  refine readString_of_none ?_ rest
  cases hc : Piece.chars? ps with
  | none => rfl
  | some cs => exact absurd ⟨ps, rfl, by rw [hc, String.toList_ofList]⟩ (h (String.ofList cs))

theorem Spells.unique {s t : String} {bytes : List UInt8} (h : Spells s bytes) (h' : Spells t bytes) : s = t := by
  have he := (h.readText []).symm.trans (h'.readText [])
  exact congrArg Prod.fst (Except.ok.inj he)

/-! ## Strings as they are passed over -/

theorem skipString_plain {bs : List UInt8} (h : ∀ b ∈ bs, isPlain b) (rest : List UInt8) :
    skipString (bs ++ rest) = skipString rest := by
  induction bs with
  | nil => rfl
  | cons b bs ih =>
    have hb := h b (.head _)
    simp only [isPlain, Bool.and_eq_true, decide_eq_true_eq] at hb
    rw [List.cons_append, skipString, if_neg hb.1.1, if_neg hb.1.2, if_neg (UInt8.not_lt.2 hb.2)]
    exact ih fun b' hm => h b' (.tail _ hm)

theorem skipString_escape {s after : List UInt8} (h : skipEscape s = .ok after) :
    skipString (92 :: s) = skipString after := by
  rw [skipString, if_neg (by decide), if_pos rfl]
  split
  · next h' => cases h.symm.trans h'
  · next h' => rw [Except.ok.inj (h.symm.trans h')]

theorem skipString_bytes (p : Piece) (rest : List UInt8) : skipString (p.bytes ++ rest) = skipString rest := by
  cases p with
  | plain c hc => exact skipString_plain (fun _ => isPlain_of_mem_encodeChar hc.1 hc.2.1 hc.2.2) rest
  | letter l =>
    refine skipString_escape (s := l.byte :: rest) ?_
    simp only [skipEscape, simpleEscape?_byte]
  | number u =>
    refine skipString_escape (s := 117 :: (u.bytes ++ rest)) ?_
    have hs : simpleEscape? 117 = none := by decide
    simp only [skipEscape, hs, if_true, readFourHex_bytes]

/-- A string is passed over up to its quote, whatever it stands for. -/
theorem skipString_spell (ps : List Piece) (rest : List UInt8) :
    skipString (Piece.spell ps ++ 34 :: rest) = .ok rest := by
  induction ps with
  | nil =>
    rw [Piece.spell, List.flatMap_nil, List.nil_append, skipString, if_pos rfl]
  | cons p ps ih => rw [Piece.spell_cons, skipString_bytes, ih]

/-! ## Strings as they are written -/

/-- A piece is what is written of a character, and stands for it. -/
structure Writes (p : Piece) (c : Char) : Prop where
  bytes : p.bytes = bytesOf (escapeChar c)
  chars? : ∀ ps, Piece.chars? (p :: ps) = (Piece.chars? ps).map (c :: ·)

theorem encodeChar_digitChar (d : Fin 16) :
    String.utf8EncodeChar (Nat.digitChar d) = [HexDigit.byte ⟨d, false⟩] := by
  revert d
  decide

/-- The digits that are written of a control. -/
theorem exists_unit_of_lt {n : Nat} (h : n < 32) :
    ∃ u : CodeUnit, u.value = n ∧ u.bytes = bytesOf (fourDigits n) := by
  have zero : String.utf8EncodeChar (Nat.digitChar 0) = _ := encodeChar_digitChar 0
  have high : String.utf8EncodeChar (Nat.digitChar (n / 16)) = _ := encodeChar_digitChar ⟨n / 16, by omega⟩
  have low : String.utf8EncodeChar (Nat.digitChar (n % 16)) = _ := encodeChar_digitChar ⟨n % 16, by omega⟩
  refine ⟨⟨⟨0, false⟩, ⟨0, false⟩, ⟨⟨n / 16, by omega⟩, false⟩, ⟨⟨n % 16, by omega⟩, false⟩⟩, ?_, ?_⟩
  · show 4096 * 0 + 256 * 0 + 16 * (n / 16) + n % 16 = n
    omega
  · rw [fourDigits_of_lt n h, bytesOf_cons zero, bytesOf_cons zero, bytesOf_cons high, bytesOf_cons low]
    rfl

/-- Every letter but the slash is written behind a backslash. -/
theorem writes_letter {l : Letter} (h : l ≠ .slash) : Writes (.letter l) l.char where
  bytes := by cases l <;> first | exact absurd rfl h | decide
  chars? _ := by rw [Piece.chars?]

theorem writes_number {c : Char} (h : c.toNat < 32) (he : escapeChar c = ['\\', 'u'] ++ fourDigits c.toNat) :
    ∃ p, Writes p c := by
  obtain ⟨u, hv, hb⟩ := exists_unit_of_lt h
  have hl : ¬u.isLow := by simp only [CodeUnit.isLow, hv, Bool.and_eq_true, decide_eq_true_eq]; omega
  have hh : ¬u.isHigh := by simp only [CodeUnit.isHigh, hv, Bool.and_eq_true, decide_eq_true_eq]; omega
  refine ⟨.number u, ⟨?_, fun ps => ?_⟩⟩
  · rw [he, bytesOf_append, ← hb]
    rfl
  · rw [Piece.chars?.eq_def]
    simp [hl, hh, hv]

theorem exists_writes (c : Char) : ∃ p, Writes p c := by
  by_cases hl : ∃ l : Letter, l ≠ .slash ∧ c = l.char
  · obtain ⟨l, hs, rfl⟩ := hl
    exact ⟨_, writes_letter hs⟩
  have hne (l : Letter) (hs : l ≠ .slash) : c ≠ l.char := fun he => hl ⟨l, hs, he⟩
  have hquote : c ≠ '"' := hne .quote nofun
  have hslash : c ≠ '\\' := hne .backslash nofun
  have hback : c.toNat ≠ 8 := fun h => hne .backspace nofun (Char.toNat_inj.1 h)
  have htab : c ≠ '\t' := hne .tab nofun
  have hline : c ≠ '\n' := hne .lineFeed nofun
  have hfeed : c.toNat ≠ 12 := fun h => hne .formFeed nofun (Char.toNat_inj.1 h)
  have hreturn : c ≠ '\r' := hne .carriageReturn nofun
  have he : escapeChar c = if c.toNat < 32 then ['\\', 'u'] ++ fourDigits c.toNat else [c] := by
    rw [escapeChar, if_neg hquote, if_neg hslash, if_neg hback, if_neg htab, if_neg hline, if_neg hfeed,
      if_neg hreturn]
  by_cases hlow : c.toNat < 32
  · exact writes_number hlow (he.trans (if_pos hlow))
  · refine ⟨.plain c ⟨hquote, hslash, Nat.not_lt.1 hlow⟩, ⟨?_, fun ps => rfl⟩⟩
    rw [he, if_neg hlow, bytesOf, List.flatMap_cons, List.flatMap_nil, List.append_nil]
    rfl

/-- What is written of a text spells it. -/
theorem spells_quoteChars (s : String) : Spells s (bytesOf (quoteChars s)) := by
  suffices h : ∀ cs : List Char, ∃ ps, bytesOf (cs.flatMap escapeChar) = Piece.spell ps ∧ Piece.chars? ps = some cs by
    obtain ⟨ps, hb, hc⟩ := h s.toList
    exact ⟨ps, by rw [bytesOf_quoteChars, hb, quoted], hc⟩
  intro cs
  induction cs with
  | nil => exact ⟨[], rfl, rfl⟩
  | cons c cs ih =>
    obtain ⟨ps, hb, hc⟩ := ih
    obtain ⟨p, hp⟩ := exists_writes c
    refine ⟨p :: ps, ?_, by rw [hp.chars?, hc]; rfl⟩
    rw [List.flatMap_cons, bytesOf_append, hb, ← hp.bytes]
    rfl

end BuildCredentials.Json
