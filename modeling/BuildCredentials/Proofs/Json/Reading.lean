import BuildCredentials.Json.Reader
import BuildCredentials.Proofs.Json.Values
import BuildCredentials.Proofs.Text.Cutting
import Mathlib.Algebra.Ring.Int.Defs

/-!
# Values as they are written and read

`Plain` values are those whose numbers are whole. What is written of such a value is read as that value, however
deep it is, by a reader that allows for as many open arrays and objects (`Plain.parseWithin_render`), and it has no
controls (`Plain.le_of_mem_chars`). The reader keeps what is open on a list of holes: a value that stands in holes
is read up to its end and put into the innermost one (`Plain.isRead`).
-/

set_option autoImplicit false

namespace BuildCredentials.Json

/-- Values without fractions and exponents, whose numbers have at most 64 bits. -/
inductive Plain : Json → Prop
  | null : Plain .null
  | bool (b : Bool) : Plain (.bool b)
  | integer {n : Int} : -2 ^ 63 ≤ n → n < 2 ^ 64 → Plain (.integer n)
  | text (s : String) : Plain (.text s)
  | array {items : List Json} : (∀ v ∈ items, Plain v) → Plain (.array items)
  | object {members : List (String × Json)} : (∀ m ∈ members, Plain m.2) → Plain (.object members)

mutual

/-- How many arrays and objects stand in one another. -/
def depth : Json → Nat
  | .array items => itemsDepth items + 1
  | .object members => membersDepth members + 1
  | _ => 0

def itemsDepth : List Json → Nat
  | [] => 0
  | v :: rest => max v.depth (itemsDepth rest)

def membersDepth : List (String × Json) → Nat
  | [] => 0
  | (_, v) :: rest => max v.depth (membersDepth rest)

end

theorem itemsDepth_le_iff {items : List Json} {n : Nat} : itemsDepth items ≤ n ↔ ∀ v ∈ items, v.depth ≤ n := by
  induction items with
  | nil => simp [itemsDepth]
  | cons v items ih => rw [itemsDepth, Nat.max_le, ih, List.forall_mem_cons]

theorem membersDepth_le_iff {members : List (String × Json)} {n : Nat} :
    membersDepth members ≤ n ↔ ∀ m ∈ members, m.2.depth ≤ n := by
  induction members with
  | nil => simp [membersDepth]
  | cons m members ih => rw [membersDepth, Nat.max_le, ih, List.forall_mem_cons]

open Utf8 (bytesOf bytesOf_append bytesOf_cons)

/-! ## Whole numbers -/

section
variable {rest : List UInt8}

theorem byte_of_isDigit {c : Char} (h : c.isDigit) :
    String.utf8EncodeChar c = [c.toNat.toUInt8] ∧ isDigit c.toNat.toUInt8 ∧
      c.toNat.toUInt8.toNat = c.toNat := by
  obtain ⟨hl, hu⟩ := Char.isDigit_iff_toNat.1 h
  have hl : 48 ≤ c.toNat := hl
  have hu : c.toNat ≤ 57 := hu
  have hn : c.toNat.toUInt8.toNat = c.toNat := by
    simp only [Nat.toUInt8_eq, UInt8.toNat_ofNat']
    omega
  refine ⟨Utf8.encodeChar_of_lt (by omega), ?_, hn⟩
  simp [isDigit, UInt8.le_iff_toNat_le, hn, hl, hu]

theorem takeDigits_bytesOf {cs : List Char} (h : ∀ c ∈ cs, c.isDigit) (hr : Ends rest) :
    takeDigits (bytesOf cs ++ rest) = (cs.map fun c => c.toNat - '0'.toNat, rest) := by
  induction cs with
  | nil =>
    cases rest with
    | nil => rfl
    | cons b rest => simp [takeDigits, bytesOf, (hr b rfl).1]
  | cons c cs ih =>
    obtain ⟨hc, hd, hv⟩ := byte_of_isDigit (h c (.head _))
    have ih := ih fun d hm => h d (.tail _ hm)
    rw [takeDigits, Prod.mk.injEq] at ih
    rw [bytesOf_cons hc, List.cons_append, takeDigits, List.takeWhile_cons_of_pos hd,
      List.dropWhile_cons_of_pos hd, List.map_cons, ih.1, ih.2, hv, List.map_cons]
    rfl

theorem le_ofDigitChars (cs : List Char) (n : Nat) : n ≤ Nat.ofDigitChars 10 cs n := by
  rw [Nat.ofDigitChars_eq_ofDigitChars_zero]
  have := Nat.le_mul_of_pos_left n (Nat.pow_pos (n := cs.length) (show 0 < 10 by decide))
  omega

/-- Digits add up to their number as long as it fits. -/
theorem addDigits_eq {cs : List Char} {n : Nat} (h : Nat.ofDigitChars 10 cs n < significandLimit) :
    addDigits n (cs.map fun c => c.toNat - '0'.toNat) = (Nat.ofDigitChars 10 cs n, []) := by
  induction cs generalizing n with
  | nil => rfl
  | cons c cs ih =>
    rw [Nat.ofDigitChars_cons] at h ⊢
    have hle := le_ofDigitChars cs (10 * n + (c.toNat - '0'.toNat))
    rw [List.map_cons, addDigits, if_pos (by omega)]
    exact ih h

theorem afterWhole_ends (neg : Bool) (n : Nat) (hr : Ends rest) :
    afterWhole neg n 0 rest = .ok (wholeNumber neg n, rest) := by
  cases rest with
  | nil => rfl
  | cons b rest =>
    obtain ⟨-, hpoint, he, hE⟩ := hr b rfl
    simp [afterWhole, hpoint, he, hE]

/-- The digits of a number. -/
def digitBytes (n : Nat) : List UInt8 := bytesOf (Nat.toDigits 10 n)

theorem digitBytes_eq_cons (n : Nat) : ∃ b t, digitBytes n = b :: t ∧ isDigit b ∧ (n ≠ 0 → b ≠ 48) := by
  have hall (c : Char) (hc : c ∈ Nat.toDigits 10 n) : c.isDigit :=
    Nat.isDigit_of_mem_toDigits (by decide) (by decide) hc
  cases hd : Nat.toDigits 10 n with
  | nil => exact absurd hd Nat.toDigits_ne_nil
  | cons c cs =>
    obtain ⟨hc, hb, hv⟩ := byte_of_isDigit (hall c (by simp [hd]))
    refine ⟨_, bytesOf cs, by rw [digitBytes, hd, bytesOf_cons hc], hb, ?_⟩
    intro hn h48
    apply Text.head?_toDigits hn
    rw [hd, List.head?_cons, Option.some.injEq]
    apply Char.toNat_inj.1
    rw [← hv, h48]
    rfl

theorem readNumber_digitBytes (neg : Bool) {n : Nat} (hn : n < significandLimit) (hr : Ends rest) :
    readNumber neg (digitBytes n ++ rest) = .ok (wholeNumber neg n, rest) := by
  by_cases h0 : n = 0
  · subst h0
    have hzero : digitBytes 0 = [48] := by decide
    rw [hzero]
    cases rest with
    | nil => rfl
    | cons b rest =>
      show (if isDigit b then _ else _) = _
      rw [if_neg (hr b rfl).1]
      exact afterWhole_ends neg 0 hr
  · have htake : takeDigits (digitBytes n ++ rest) = _ := takeDigits_bytesOf
      (fun c hc => Nat.isDigit_of_mem_toDigits (by decide) (by decide) hc) hr
    have hadd : addDigits 0 ((Nat.toDigits 10 n).map fun c => c.toNat - '0'.toNat) = (n, []) := by
      rw [addDigits_eq (by rwa [Nat.ofDigitChars_ten_toDigits]), Nat.ofDigitChars_ten_toDigits]
    obtain ⟨b, t, hb, hd, h48⟩ := digitBytes_eq_cons n
    rw [hb, List.cons_append] at htake ⊢
    rw [readNumber.eq_def]
    simp only [h48 h0, hd, if_false, if_true, htake, hadd]
    exact afterWhole_ends neg n hr

theorem bytesOf_integer (n : Int) : bytesOf (Json.integer n).chars =
    if n < 0 then 45 :: digitBytes n.natAbs else digitBytes n.natAbs := by
  cases n with
  | ofNat n => simp [chars, Int.toString_eq_repr, Int.repr, digitBytes]
  | negSucc n =>
    have hminus : String.utf8EncodeChar '-' = [45] := by decide
    have hsign : (String.ofList ['-']).toList = ['-'] := String.toList_ofList
    rw [if_pos (Int.negSucc_lt_zero n), Int.natAbs_negSucc]
    simp [chars, Int.toString_eq_repr, Int.repr, digitBytes, bytesOf_cons hminus]

end

/-! ## One step of reading -/

section
variable {limit : Nat} {holes : List Hole} {b : UInt8} {rest after : List UInt8}

theorem readValue_eq (limit : Nat) (holes : List Hole) (bytes : List UInt8) : readValue limit holes bytes =
    match skipBlanks bytes with
    | [] => failNext .endInValue []
    | b :: rest =>
      match Frame.opened? b with
      | some frame =>
        if limit ≤ holes.length + 1 then failNext .tooDeep (b :: rest)
        else readFirst limit frame holes rest
      | none =>
        match readScalar b rest with
        | .error f => .error f
        | .ok (v, after) => fill limit v holes after := by
  rw [readValue]
  split
  · next h => simp only [h]
  · next h =>
    simp only [h]
    cases Frame.opened? _ with
    | some frame => rfl
    | none =>
      dsimp only
      split
      · next hs => simp only [hs]
      · next hs => simp only [hs]

theorem readFirst_eq (limit : Nat) (frame : Frame) (holes : List Hole) (bytes : List UInt8) :
    readFirst limit frame holes bytes =
    match skipBlanks bytes with
    | [] => failNext frame.endInside []
    | b :: rest =>
      match frame with
      | .array =>
        if b = 93 then fill limit (.array []) holes rest else readValue limit (.array [] :: holes) (b :: rest)
      | .object =>
        if b = 125 then fill limit (.object []) holes rest else readMember limit [] holes (b :: rest) := by
  rw [readFirst]
  split
  · next h => simp only [h]
  · next h => cases frame <;> simp only [h]

theorem readMember_eq (limit : Nat) (members : List (String × Json)) (holes : List Hole) (bytes : List UInt8) :
    readMember limit members holes bytes =
    match readName bytes with
    | .error f => .error f
    | .ok (name, after) => readValue limit (.object members name :: holes) after := by
  rw [readMember]
  split
  · next h => simp only [h]
  · next h => simp only [h]

theorem fill_array_eq (limit : Nat) (v : Json) (items : List Json) (outer : List Hole) (bytes : List UInt8) :
    fill limit v (.array items :: outer) bytes =
    match skipBlanks bytes with
    | [] => failNext .endInArray []
    | b :: rest =>
      if b = 93 then fill limit (.array (v :: items).reverse) outer rest
      else if b = 44 then
        match afterComma 93 rest with
        | .error f => .error f
        | .ok after => readValue limit (.array (v :: items) :: outer) after
      else failNext .expectedArrayComma (b :: rest) := by
  rw [fill.eq_def]
  dsimp only
  split
  · next h => simp only [h]
  · next h =>
    simp only [h]
    split
    · rfl
    · split
      · split
        · next hc => simp only [hc]
        · next hc => simp only [hc]
      · rfl

theorem fill_object_eq (limit : Nat) (v : Json) (members : List (String × Json)) (name : String)
    (outer : List Hole) (bytes : List UInt8) :
    fill limit v (.object members name :: outer) bytes =
    match skipBlanks bytes with
    | [] => failNext .endInObject []
    | b :: rest =>
      if b = 125 then fill limit (.object ((name, v) :: members).reverse) outer rest
      else if b = 44 then
        match afterComma 125 rest with
        | .error f => .error f
        | .ok after => readMember limit ((name, v) :: members) outer after
      else failNext .expectedObjectComma (b :: rest) := by
  rw [fill.eq_def]
  dsimp only
  split
  · next h => simp only [h]
  · next h =>
    simp only [h]
    split
    · rfl
    · split
      · split
        · next hc => simp only [hc]
        · next hc => simp only [hc]
      · rfl

/-- Where a value may begin: what is no blank and ends neither an array nor an object. -/
def Opens (b : UInt8) : Prop := isBlank b = false ∧ b ≠ 93 ∧ b ≠ 125

instance (b : UInt8) : Decidable (Opens b) := inferInstanceAs (Decidable (isBlank b = false ∧ b ≠ 93 ∧ b ≠ 125))

theorem skipBlanks_cons (h : isBlank b = false) (rest : List UInt8) : skipBlanks (b :: rest) = b :: rest :=
  List.dropWhile_cons_of_neg (by rw [h]; decide)

theorem readValue_scalar {v : Json} (hb : isBlank b = false) (ho : Frame.opened? b = none)
    (hs : readScalar b rest = .ok (v, after)) : readValue limit holes (b :: rest) = fill limit v holes after := by
  simp only [readValue_eq, skipBlanks_cons hb, ho, hs]

theorem readValue_opening (frame : Frame) (h : holes.length + 1 < limit) :
    readValue limit holes (frame.opening :: rest) = readFirst limit frame holes rest := by
  rw [readValue_eq]
  cases frame <;> exact if_neg (Nat.not_le.2 h)

theorem readFirst_closing (frame : Frame) :
    readFirst limit frame holes (frame.closing :: rest) =
      fill limit (match frame with | .array => .array [] | .object => .object []) holes rest := by
  rw [readFirst_eq]
  cases frame <;> rfl

theorem readFirst_array (h : Opens b) :
    readFirst limit .array holes (b :: rest) = readValue limit (.array [] :: holes) (b :: rest) := by
  rw [readFirst_eq, skipBlanks_cons h.1]
  exact if_neg h.2.1

theorem readFirst_object (h : Opens b) :
    readFirst limit .object holes (b :: rest) = readMember limit [] holes (b :: rest) := by
  rw [readFirst_eq, skipBlanks_cons h.1]
  exact if_neg h.2.2

theorem afterComma_opens {closing : UInt8} (hb : isBlank b = false) (hc : b ≠ closing) :
    afterComma closing (b :: rest) = .ok (b :: rest) := by
  rw [afterComma, skipBlanks_cons hb]
  exact if_neg hc

variable {v : Json} {items : List Json} {members : List (String × Json)} {name : String}

theorem fill_array_closing :
    fill limit v (.array items :: holes) (93 :: rest) = fill limit (.array (v :: items).reverse) holes rest := by
  rw [fill_array_eq]
  rfl

theorem fill_array_comma (h : Opens b) :
    fill limit v (.array items :: holes) (44 :: b :: rest) =
      readValue limit (.array (v :: items) :: holes) (b :: rest) := by
  rw [fill_array_eq, skipBlanks_cons rfl]
  simp [afterComma_opens h.1 h.2.1]

theorem fill_object_closing :
    fill limit v (.object members name :: holes) (125 :: rest) =
      fill limit (.object ((name, v) :: members).reverse) holes rest := by
  rw [fill_object_eq]
  rfl

theorem fill_object_comma (h : Opens b) :
    fill limit v (.object members name :: holes) (44 :: b :: rest) =
      readMember limit ((name, v) :: members) holes (b :: rest) := by
  rw [fill_object_eq, skipBlanks_cons rfl]
  simp [afterComma_opens h.1 h.2.2]

theorem readName_quoteChars (name : String) (rest : List UInt8) :
    readName (bytesOf (quoteChars name) ++ 58 :: rest) = .ok (name, rest) := by
  obtain ⟨ps, hps, hc⟩ := spells_quoteChars name
  have hread := readString_of_chars? hc (58 :: rest)
  rw [String.ofList_toList] at hread
  rw [hps, quoted_append, readName, skipBlanks_quote]
  simp only [if_true, hread]
  rfl

theorem readMember_quoteChars (name : String) (rest : List UInt8) :
    readMember limit members holes (bytesOf (quoteChars name) ++ 58 :: rest) =
      readValue limit (.object members name :: holes) rest := by
  rw [readMember_eq, readName_quoteChars]

end

/-! ## Values -/

theorem exists_opens_chars {v : Json} (h : Plain v) : ∃ b t, bytesOf v.chars = b :: t ∧ Opens b := by
  cases h with
  | null => exact ⟨_, _, rfl, by decide⟩
  | bool b => cases b <;> exact ⟨_, _, rfl, by decide⟩
  | integer =>
    rw [bytesOf_integer]
    split
    · exact ⟨_, _, rfl, by decide⟩
    · obtain ⟨b, t, hb, hd, -⟩ := digitBytes_eq_cons (Int.natAbs _)
      exact ⟨b, t, hb, not_isBlank_of_isDigit hd, ne_of_isDigit hd rfl, ne_of_isDigit hd rfl⟩
  | text s => exact ⟨34, _, bytesOf_quoteChars s, by decide⟩
  | array _ => exact ⟨91, _, bytesOf_cons (by decide) _, by decide⟩
  | object _ => exact ⟨123, _, bytesOf_cons (by decide) _, by decide⟩

/-- A value is read as it was written, up to what follows it. -/
def IsRead (limit : Nat) (v : Json) : Prop := ∀ (holes : List Hole) (rest : List UInt8),
  holes.length + v.depth < limit → Ends rest →
    readValue limit holes (bytesOf v.chars ++ rest) = fill limit v holes rest

theorem isRead_integer (limit : Nat) {n : Int} (hl : -2 ^ 63 ≤ n) (hu : n < 2 ^ 64) : IsRead limit (.integer n) := by
  intro holes rest _ hr
  rw [bytesOf_integer]
  split
  · next hn =>
    have hread : readScalar 45 (digitBytes n.natAbs ++ rest) = .ok (.integer n, rest) := by
      have hlt : n.natAbs < significandLimit := by
        simp only [significandLimit, UInt64.size]
        omega
      have hwhole : wholeNumber true n.natAbs = .integer n := by
        have hsmall : ¬(n.natAbs = 0 ∨ n.natAbs > 0x8000000000000000) := by omega
        simp only [wholeNumber, hsmall, Bool.not_true, Bool.false_eq_true, if_false]
        congr
        omega
      show (readNumber true _).map _ = _
      rw [readNumber_digitBytes true hlt hr, hwhole]
      rfl
    exact readValue_scalar rfl rfl hread
  · next hn =>
    have hlt : n.natAbs < significandLimit := by
      simp only [significandLimit, UInt64.size]
      omega
    have hwhole : wholeNumber false n.natAbs = .integer n := by
      show Number.integer n.natAbs = _
      congr
      omega
    have hread := readNumber_digitBytes false hlt hr
    obtain ⟨b, t, hb, hd, -⟩ := digitBytes_eq_cons n.natAbs
    rw [hb, hwhole, List.cons_append] at hread
    rw [hb, List.cons_append]
    refine readValue_scalar (not_isBlank_of_isDigit hd) (opened?_of_isDigit hd) ?_
    rw [readScalar, if_neg (ne_of_isDigit hd rfl), if_neg (ne_of_isDigit hd rfl), if_neg (ne_of_isDigit hd rfl),
      if_neg (ne_of_isDigit hd rfl), if_pos hd, hread]
    rfl

theorem isRead_text (limit : Nat) (s : String) : IsRead limit (.text s) := by
  intro holes rest _ _
  obtain ⟨ps, hps, hc⟩ := spells_quoteChars s
  have hread := readString_of_chars? hc rest
  rw [String.ofList_toList] at hread
  rw [chars, hps, quoted_append]
  refine readValue_scalar rfl rfl ?_
  show (readString _).map _ = _
  rw [hread]
  rfl

/-! ## What stands between brackets -/

section
variable {limit : Nat} {holes : List Hole}

theorem bytesOf_comma (cs : List Char) : bytesOf (',' :: cs) = 44 :: bytesOf cs := bytesOf_cons (by decide) cs

theorem bytesOf_colon (cs : List Char) : bytesOf (':' :: cs) = 58 :: bytesOf cs := bytesOf_cons (by decide) cs

theorem exists_opens_itemChars {v : Json} (h : Plain v) (items : List Json) (rest : List UInt8) :
    ∃ b t, bytesOf (itemChars (v :: items)) ++ rest = b :: t ∧ Opens b := by
  obtain ⟨b, t, hb, ho⟩ := exists_opens_chars h
  cases items with
  | nil => exact ⟨b, t ++ rest, by rw [itemChars, hb, List.cons_append], ho⟩
  | cons w items => exact ⟨b, _, by rw [itemChars, bytesOf_append, hb, List.cons_append, List.cons_append], ho⟩

theorem exists_quote_memberChars (m : String × Json) (members : List (String × Json)) (rest : List UInt8) :
    ∃ t, bytesOf (memberChars (m :: members)) ++ rest = 34 :: t := by
  cases members with
  | nil => exact ⟨_, by rw [memberChars, bytesOf_append, bytesOf_quoteChars, List.cons_append, List.cons_append]⟩
  | cons n members =>
    exact ⟨_, by rw [memberChars, bytesOf_append, bytesOf_quoteChars, List.cons_append, List.cons_append]⟩

theorem readValue_items {items : List Json} {v : Json} (hread : ∀ w ∈ v :: items, IsRead limit w)
    (hplain : ∀ w ∈ v :: items, Plain w) (hd : holes.length + itemsDepth (v :: items) + 1 < limit)
    (acc : List Json) (rest : List UInt8) :
    readValue limit (.array acc :: holes) (bytesOf (itemChars (v :: items)) ++ 93 :: rest) =
      fill limit (.array (acc.reverse ++ v :: items)) holes rest := by
  induction items generalizing v acc with
  | nil =>
    rw [itemsDepth] at hd
    have hv := hread v (.head _) (.array acc :: holes) (93 :: rest) (by simp only [List.length_cons]; omega)
      (ends_closing .array rest)
    rw [itemChars, hv, fill_array_closing, List.reverse_cons]
  | cons w items ih =>
    rw [itemsDepth] at hd
    obtain ⟨b, t, hb, ho⟩ := exists_opens_itemChars (hplain w (.tail _ (.head _))) items (93 :: rest)
    have hv := hread v (.head _) (.array acc :: holes) (44 :: b :: t) (by simp only [List.length_cons]; omega)
      (ends_comma _)
    have hitems := ih (fun x hx => hread x (.tail _ hx)) (fun x hx => hplain x (.tail _ hx)) (by omega) (v :: acc)
    rw [itemChars, bytesOf_append, bytesOf_comma, List.append_assoc, List.cons_append, hb, hv,
      fill_array_comma ho, ← hb, hitems, List.reverse_cons, List.append_assoc]
    rfl

theorem readMember_members {members : List (String × Json)} {m : String × Json}
    (hread : ∀ n ∈ m :: members, IsRead limit n.2)
    (hd : holes.length + membersDepth (m :: members) + 1 < limit) (acc : List (String × Json))
    (rest : List UInt8) :
    readMember limit acc holes (bytesOf (memberChars (m :: members)) ++ 125 :: rest) =
      fill limit (.object (acc.reverse ++ m :: members)) holes rest := by
  induction members generalizing m acc with
  | nil =>
    rw [membersDepth] at hd
    have hm := hread m (.head _) (.object acc m.1 :: holes) (125 :: rest) (by simp only [List.length_cons]; omega)
      (ends_closing .object rest)
    rw [memberChars, bytesOf_append, bytesOf_colon, List.append_assoc, List.cons_append, readMember_quoteChars, hm,
      fill_object_closing, List.reverse_cons]
  | cons n members ih =>
    rw [membersDepth] at hd
    obtain ⟨t, hb⟩ := exists_quote_memberChars n members (125 :: rest)
    have hm := hread m (.head _) (.object acc m.1 :: holes) (44 :: 34 :: t) (by simp only [List.length_cons]; omega)
      (ends_comma _)
    have hmembers := ih (fun x hx => hread x (.tail _ hx)) (by omega) (m :: acc)
    rw [memberChars, bytesOf_append, bytesOf_colon, bytesOf_append, bytesOf_comma, List.append_assoc,
      List.cons_append, List.append_assoc, List.cons_append, hb, readMember_quoteChars, hm,
      fill_object_comma (by decide), ← hb, hmembers, List.reverse_cons, List.append_assoc]
    rfl

end

/-! ## Values of any depth -/

theorem isRead_array {limit : Nat} {items : List Json} (hread : ∀ v ∈ items, IsRead limit v)
    (hplain : ∀ v ∈ items, Plain v) : IsRead limit (.array items) := by
  intro holes rest hd _
  rw [depth] at hd
  have hbytes : bytesOf (Json.array items).chars ++ rest =
      Frame.array.opening :: (bytesOf (itemChars items) ++ 93 :: rest) := by
    rw [chars, bytesOf_cons (b := 91) (by decide), bytesOf_append, List.cons_append, List.append_assoc]
    rfl
  rw [hbytes, readValue_opening .array (by omega)]
  cases items with
  | nil => exact readFirst_closing .array
  | cons v items =>
    obtain ⟨b, t, hb, ho⟩ := exists_opens_itemChars (hplain v (.head _)) items (93 :: rest)
    rw [hb, readFirst_array ho, ← hb]
    exact readValue_items hread hplain (by omega) [] rest

theorem isRead_object {limit : Nat} {members : List (String × Json)} (hread : ∀ m ∈ members, IsRead limit m.2) :
    IsRead limit (.object members) := by
  intro holes rest hd _
  rw [depth] at hd
  have hbytes : bytesOf (Json.object members).chars ++ rest =
      Frame.object.opening :: (bytesOf (memberChars members) ++ 125 :: rest) := by
    rw [chars, bytesOf_cons (b := 123) (by decide), bytesOf_append, List.cons_append, List.append_assoc]
    rfl
  rw [hbytes, readValue_opening .object (by omega)]
  cases members with
  | nil => exact readFirst_closing .object
  | cons m members =>
    obtain ⟨t, hb⟩ := exists_quote_memberChars m members (125 :: rest)
    rw [hb, readFirst_object (by decide), ← hb]
    exact readMember_members hread (by omega) [] rest

theorem Plain.isRead {v : Json} (h : Plain v) (limit : Nat) : IsRead limit v := by
  induction h with
  | null => exact fun holes rest _ _ => readValue_scalar rfl rfl rfl
  | bool b => cases b <;> exact fun holes rest _ _ => readValue_scalar rfl rfl rfl
  | integer hl hu => exact isRead_integer limit hl hu
  | text s => exact isRead_text limit s
  | array h ih => exact isRead_array ih h
  | object h ih => exact isRead_object ih

/-- Reads a text that holds one value, in which fewer arrays and objects than the limit are open at once. -/
def parseWithin (limit : Nat) (bytes : List UInt8) : Except Failure Json := finish (readValue limit [] bytes)

theorem Plain.parseWithin_render {v : Json} (h : Plain v) {limit : Nat} (hd : v.depth < limit) :
    parseWithin limit (Utf8.encode v.render) = .ok v := by
  have hread := h.isRead limit [] [] (by simpa using hd) (fun b hb => nomatch hb)
  rw [List.append_nil] at hread
  rw [parseWithin, render, Utf8.encode_ofList, hread, fill]
  rfl

/-! ## Values on a line -/

theorem mem_itemChars {items : List Json} {c : Char} (h : c ∈ itemChars items) :
    c = ',' ∨ ∃ v ∈ items, c ∈ v.chars := by
  induction items with
  | nil => cases h
  | cons v items ih =>
    cases items with
    | nil => exact .inr ⟨v, .head _, h⟩
    | cons w items =>
      rw [itemChars, List.mem_append, List.mem_cons] at h
      rcases h with h | rfl | h
      · exact .inr ⟨v, .head _, h⟩
      · exact .inl rfl
      · rcases ih h with rfl | ⟨x, hx, hc⟩
        · exact .inl rfl
        · exact .inr ⟨x, .tail _ hx, hc⟩

theorem mem_memberChars {members : List (String × Json)} {c : Char} (h : c ∈ memberChars members) :
    c = ',' ∨ c = ':' ∨ ∃ m ∈ members, c ∈ quoteChars m.1 ∨ c ∈ m.2.chars := by
  induction members with
  | nil => cases h
  | cons m members ih =>
    cases members with
    | nil =>
      rw [memberChars, List.mem_append, List.mem_cons] at h
      rcases h with h | rfl | h
      · exact .inr (.inr ⟨m, .head _, .inl h⟩)
      · exact .inr (.inl rfl)
      · exact .inr (.inr ⟨m, .head _, .inr h⟩)
    | cons n members =>
      rw [memberChars, List.mem_append, List.mem_cons, List.mem_append, List.mem_cons] at h
      rcases h with h | rfl | h | rfl | h
      · exact .inr (.inr ⟨m, .head _, .inl h⟩)
      · exact .inr (.inl rfl)
      · exact .inr (.inr ⟨m, .head _, .inr h⟩)
      · exact .inl rfl
      · rcases ih h with rfl | rfl | ⟨x, hx, hc⟩
        · exact .inl rfl
        · exact .inr (.inl rfl)
        · exact .inr (.inr ⟨x, .tail _ hx, hc⟩)

theorem le_of_mem_toDigits {n : Nat} {c : Char} (h : c ∈ Nat.toDigits 10 n) : 32 ≤ c.toNat := by
  have hd := Char.isDigit_iff_toNat.1 (Nat.isDigit_of_mem_toDigits (by decide) (by decide) h)
  have hl : 48 ≤ c.toNat := hd.1
  omega

theorem le_of_mem_integer {n : Int} {c : Char} (h : c ∈ (Json.integer n).chars) : 32 ≤ c.toNat := by
  cases n with
  | ofNat n => exact le_of_mem_toDigits (n := n) (by simpa [chars, Int.toString_eq_repr, Int.repr] using h)
  | negSucc n =>
    have h : c = '-' ∨ c ∈ Nat.toDigits 10 (n + 1) := by
      simpa [chars, Int.toString_eq_repr, Int.repr] using h
    rcases h with rfl | h
    · decide
    · exact le_of_mem_toDigits h

/-- A value is written without controls. -/
theorem Plain.le_of_mem_chars {v : Json} (h : Plain v) {c : Char} (hc : c ∈ v.chars) : 32 ≤ c.toNat := by
  induction h with
  | null =>
    have hall : Json.null.chars.all (32 ≤ ·.toNat) = true := rfl
    simpa using List.all_eq_true.1 hall c hc
  | bool b =>
    have hall : (Json.bool b).chars.all (32 ≤ ·.toNat) = true := by cases b <;> rfl
    simpa using List.all_eq_true.1 hall c hc
  | integer => exact le_of_mem_integer hc
  | text s => exact le_of_mem_quoteChars hc
  | array _ ih =>
    rw [chars, List.mem_cons, List.mem_append, List.mem_singleton] at hc
    rcases hc with rfl | hc | rfl
    · decide
    · rcases mem_itemChars hc with rfl | ⟨v, hv, hc⟩
      · decide
      · exact ih v hv hc
    · decide
  | object _ ih =>
    rw [chars, List.mem_cons, List.mem_append, List.mem_singleton] at hc
    rcases hc with rfl | hc | rfl
    · decide
    · rcases mem_memberChars hc with rfl | rfl | ⟨m, hm, hc | hc⟩
      · decide
      · decide
      · exact le_of_mem_quoteChars hc
      · exact ih m hm hc
    · decide

theorem Plain.newline_not_mem_render {v : Json} (h : Plain v) : '\n' ∉ v.render.toList := by
  intro hmem
  rw [render, String.toList_ofList] at hmem
  exact absurd (h.le_of_mem_chars hmem) (by decide)

theorem Plain.newline_not_mem {v : Json} (h : Plain v) : 10 ∉ Utf8.encode v.render := by
  rw [render, Utf8.encode_ofList, bytesOf, List.mem_flatMap]
  rintro ⟨c, hc, hb⟩
  have hc : 32 ≤ c.toNat := h.le_of_mem_chars hc
  by_cases hlow : c.toNat < 128
  · rw [Utf8.encodeChar_of_lt hlow, List.mem_singleton] at hb
    have hb := congrArg UInt8.toNat hb
    simp at hb
    omega
  · exact absurd (Utf8.le_of_mem_encodeChar (Nat.not_lt.1 hlow) hb) (by decide)

end BuildCredentials.Json
