import BuildCredentials.Proofs.Json.Spelling

/-!
# Values that are passed over

A value is passed over up to its end, whatever it is and however deep it is (`skip_value`).
-/

set_option autoImplicit false

namespace BuildCredentials.Json

/-! ## Numbers -/

/-- What follows a number does not go on with it. -/
def Ends (rest : List UInt8) : Prop := ∀ b ∈ rest.head?, ¬isDigit b ∧ b ≠ 46 ∧ b ≠ 101 ∧ b ≠ 69

section
variable {rest s w f e : List UInt8}

theorem isDigit_of_digits (h : Digits s) : ∀ b ∈ s, isDigit b := by
  intro b hb
  simpa [isDigit] using h.2 b hb

theorem dropWhile_digits (hs : ∀ b ∈ s, isDigit b) (hr : ∀ b ∈ rest.head?, ¬isDigit b) :
    (s ++ rest).dropWhile isDigit = rest := by
  rw [List.dropWhile_append_of_pos hs]
  cases rest with
  | nil => rfl
  | cons b rest => exact List.dropWhile_cons_of_neg (hr b rfl)

theorem skipDigits_digits (h : Digits s) (hr : ∀ b ∈ rest.head?, ¬isDigit b) :
    skipDigits (s ++ rest) = .ok rest := by
  have hall := isDigit_of_digits h
  cases s with
  | nil => exact absurd rfl h.1
  | cons b s =>
    rw [List.cons_append, skipDigits, if_pos (hall b (.head _)),
      dropWhile_digits (fun c hc => hall c (.tail _ hc)) hr]

theorem skipSign_digits {sign : List UInt8} (hsign : sign ∈ [[], [(43 : UInt8)], [45]]) (h : Digits s) :
    skipSign (sign ++ (s ++ rest)) = s ++ rest := by
  cases s with
  | nil => exact absurd rfl h.1
  | cons b s =>
    have hb := isDigit_of_digits h b (.head _)
    simp only [List.mem_cons, List.not_mem_nil, or_false] at hsign
    rcases hsign with rfl | rfl | rfl
    · refine if_neg ?_
      rintro (rfl | rfl) <;> exact absurd hb (by decide)
    · rfl
    · rfl

theorem skipOptionalExponent_exponent (h : Exponent e) (hr : Ends rest) :
    skipOptionalExponent (e ++ rest) = .ok rest := by
  cases h with
  | none =>
    cases rest with
    | nil => rfl
    | cons b rest =>
      have hb := hr b rfl
      exact if_neg (not_or.2 hb.2.2)
  | digits he hsign hd =>
    simp only [List.mem_cons, List.not_mem_nil, or_false] at he
    rw [List.cons_append, List.append_assoc, skipOptionalExponent, if_pos he, skipExponent,
      skipSign_digits hsign hd, skipDigits_digits hd fun b hb => (hr b hb).1]

theorem not_isDigit_exponent (h : Exponent e) (hr : Ends rest) :
    ∀ b ∈ (e ++ rest).head?, ¬isDigit b ∧ b ≠ 46 := by
  cases h with
  | none => exact fun b hb => ⟨(hr b hb).1, (hr b hb).2.1⟩
  | digits he =>
    intro b hb
    obtain rfl := Option.some.inj hb
    simp only [List.mem_cons, List.not_mem_nil, or_false] at he
    rcases he with rfl | rfl <;> decide

theorem skipAfterWhole_fraction (hf : Fraction f) (he : Exponent e) (hr : Ends rest) :
    skipAfterWhole (f ++ (e ++ rest)) = .ok rest := by
  have hnext := not_isDigit_exponent he hr
  have hexp := skipOptionalExponent_exponent he hr
  cases hf with
  | none =>
    rw [List.nil_append]
    cases hs : e ++ rest with
    | nil =>
      rw [(List.append_eq_nil_iff.1 hs).2]
      rfl
    | cons b t =>
      rw [hs] at hnext hexp
      rw [skipAfterWhole, if_neg (hnext b rfl).2, hexp]
  | @digits s hd =>
    have hall := isDigit_of_digits hd
    cases s with
    | nil => exact absurd rfl hd.1
    | cons b s =>
      rw [List.cons_append, skipAfterWhole, if_pos rfl, List.cons_append, skipFraction, if_pos (hall b (.head _)),
        ← List.cons_append, dropWhile_digits hall fun c hc => (hnext c hc).1, hexp]

theorem not_isDigit_fraction (hf : Fraction f) (he : Exponent e) (hr : Ends rest) :
    ∀ b ∈ (f ++ (e ++ rest)).head?, ¬isDigit b := by
  cases hf with
  | none => exact fun b hb => (not_isDigit_exponent he hr b hb).1
  | digits =>
    intro b hb
    obtain rfl := Option.some.inj hb
    decide

theorem skipNumber_whole (hw : Whole w) (hf : Fraction f) (he : Exponent e) (hr : Ends rest) :
    skipNumber (w ++ (f ++ (e ++ rest))) = .ok rest := by
  have hnext := not_isDigit_fraction hf he hr
  have hafter := skipAfterWhole_fraction hf he hr
  cases hw with
  | zero =>
    cases hs : f ++ (e ++ rest) with
    | nil => rw [hs] at hafter; exact hafter
    | cons b t =>
      rw [hs] at hnext hafter
      exact (if_neg (hnext b rfl)).trans hafter
  | digits hd hz =>
    have hall := isDigit_of_digits hd
    cases w with
    | nil => exact absurd rfl hd.1
    | cons b s =>
      have hb : b ≠ 48 := fun h => hz (congrArg some h)
      rw [List.cons_append, skipNumber.eq_def]
      simp only [hb, hall b (.head _), if_false, if_true, dropWhile_digits (fun c hc => hall c (.tail _ hc)) hnext,
        hafter]

theorem exists_digit_of_whole (h : Whole w) : ∃ b t, w = b :: t ∧ isDigit b := by
  cases h with
  | zero => exact ⟨48, [], rfl, by decide⟩
  | digits hd =>
    cases w with
    | nil => exact absurd rfl hd.1
    | cons b t => exact ⟨b, t, rfl, isDigit_of_digits hd b (.head _)⟩

theorem ne_of_isDigit {b c : UInt8} (h : isDigit b) (hc : isDigit c = false) : b ≠ c := by
  rintro rfl
  rw [hc] at h
  cases h

theorem not_isBlank_of_isDigit {b : UInt8} (h : isDigit b) : isBlank b = false := by
  simp [isBlank, ne_of_isDigit h (c := 32) rfl, ne_of_isDigit h (c := 10) rfl, ne_of_isDigit h (c := 9) rfl,
    ne_of_isDigit h (c := 13) rfl]

theorem opened?_of_isDigit {b : UInt8} (h : isDigit b) : Frame.opened? b = none := by
  rw [Frame.opened?, if_neg (ne_of_isDigit h rfl), if_neg (ne_of_isDigit h rfl)]

theorem skipScalar_digit {b : UInt8} (h : isDigit b) (t : List UInt8) : skipScalar b t = skipNumber (b :: t) := by
  rw [skipScalar, if_neg (ne_of_isDigit h rfl), if_neg (ne_of_isDigit h rfl), if_neg (ne_of_isDigit h rfl),
    if_neg (ne_of_isDigit h rfl), if_pos h]

end

/-! ## One step of passing over -/

theorem skipValue_eq (stack : List Frame) (bytes : List UInt8) : skipValue stack bytes =
    match skipBlanks bytes with
    | [] => failNext .endInValue []
    | b :: rest =>
      match Frame.opened? b with
      | some frame => skipRest (frame :: stack) false rest
      | none =>
        match skipScalar b rest with
        | .error f => .error f
        | .ok after => skipRest stack true after := by
  rw [skipValue]
  split
  · next h => simp only [h]
  · next h =>
    simp only [h]
    cases Frame.opened? _ with
    | some frame => rfl
    | none =>
      dsimp only
      split
      · next hs => simp only [hs]
      · next hs => simp only [hs]

theorem skipRest_eq (frame : Frame) (outer : List Frame) (begun : Bool) (bytes : List UInt8) :
    skipRest (frame :: outer) begun bytes =
    match skipBlanks bytes with
    | [] => failNext frame.endInside []
    | b :: rest =>
      if b = 44 ∧ begun then skipElement frame outer rest
      else if b = frame.closing then skipRest outer true rest
      else if begun then failNext frame.expectedComma (b :: rest)
      else skipElement frame outer (b :: rest) := by
  rw [skipRest]
  split
  · next h => simp only [h]
  · next h => simp only [h]

theorem skipElement_array (stack : List Frame) (bytes : List UInt8) :
    skipElement .array stack bytes = skipValue (.array :: stack) bytes := by rw [skipElement]

theorem skipElement_object (stack : List Frame) (bytes : List UInt8) : skipElement .object stack bytes =
    match skipName bytes with
    | .error f => .error f
    | .ok after => skipValue (.object :: stack) after := by
  rw [skipElement]
  split
  · next h => simp only [h]
  · next h => simp only [h]

section
variable {frame : Frame} {a rest after : List UInt8} {b : UInt8}

theorem skipValue_blanks (h : Blanks a) (stack : List Frame) (s : List UInt8) :
    skipValue stack (a ++ s) = skipValue stack s := by
  rw [skipValue_eq, skipBlanks_blanks h, ← skipValue_eq]

theorem skipRest_blanks (h : Blanks a) (frame : Frame) (stack : List Frame) (begun : Bool) (s : List UInt8) :
    skipRest (frame :: stack) begun (a ++ s) = skipRest (frame :: stack) begun s := by
  rw [skipRest_eq, skipBlanks_blanks h, ← skipRest_eq]

theorem skipValue_open (stack : List Frame) (frame : Frame) (rest : List UInt8) :
    skipValue stack (frame.opening :: rest) = skipRest (frame :: stack) false rest := by
  rw [skipValue_eq]
  cases frame <;> rfl

theorem skipValue_scalar (hb : isBlank b = false) (ho : Frame.opened? b = none)
    (hs : skipScalar b rest = .ok after) (stack : List Frame) :
    skipValue stack (b :: rest) = skipRest stack true after := by
  have hb : skipBlanks (b :: rest) = b :: rest := List.dropWhile_cons_of_neg (by rw [hb]; decide)
  simp only [skipValue_eq, hb, ho, hs]

theorem skipElement_blanks (h : Blanks a) (frame : Frame) (stack : List Frame) (s : List UInt8) :
    skipElement frame stack (a ++ s) = skipElement frame stack s := by
  cases frame with
  | array => rw [skipElement_array, skipElement_array, skipValue_blanks h]
  | object => rw [skipElement_object, skipElement_object, skipName, skipName, skipBlanks_blanks h]

theorem skipRest_close (frame : Frame) (stack : List Frame) (begun : Bool) (rest : List UInt8) :
    skipRest (frame :: stack) begun (frame.closing :: rest) = skipRest stack true rest := by
  rw [skipRest_eq]
  cases frame <;> cases begun <;> rfl

theorem skipRest_comma (frame : Frame) (stack : List Frame) (rest : List UInt8) :
    skipRest (frame :: stack) true (44 :: rest) = skipElement frame stack rest := by
  rw [skipRest_eq]
  rfl

theorem skipBlanks_quote (rest : List UInt8) : skipBlanks (34 :: rest) = 34 :: rest := rfl

theorem readColon_blanks (h : Blanks a) (rest : List UInt8) : readColon (a ++ 58 :: rest) = .ok rest := by
  rw [readColon, skipBlanks_blanks h]
  rfl

theorem skipName_quoted {left between : List UInt8} (hl : Blanks left) (hb : Blanks between) (name : List Piece)
    (rest : List UInt8) : skipName (left ++ (quoted name ++ (between ++ 58 :: rest))) = .ok rest := by
  have hstring := skipString_spell name (between ++ 58 :: rest)
  rw [skipName, skipBlanks_blanks hl, quoted_append]
  simp only [skipBlanks_quote, if_true, hstring, readColon_blanks hb]

end

/-! ## How values begin -/

/-- Bytes whose first byte that is no blank does not end an array or an object. -/
def Begins (s : List UInt8) : Prop :=
  ∃ a b t, s = a ++ b :: t ∧ Blanks a ∧ isBlank b = false ∧ b ≠ 93 ∧ b ≠ 125

theorem begins_cons {b : UInt8} (t : List UInt8) (h : isBlank b = false ∧ b ≠ 93 ∧ b ≠ 125) : Begins (b :: t) :=
  ⟨[], b, t, rfl, (fun _ hb => nomatch hb), h⟩

theorem Begins.append {s : List UInt8} (h : Begins s) (rest : List UInt8) : Begins (s ++ rest) := by
  obtain ⟨a, b, t, rfl, ha, hb⟩ := h
  exact ⟨a, b, t ++ rest, by rw [List.append_assoc, List.cons_append], ha, hb⟩

theorem Begins.blanks {left s : List UInt8} (hl : Blanks left) (h : Begins s) : Begins (left ++ s) := by
  obtain ⟨a, b, t, rfl, ha, hb⟩ := h
  refine ⟨left ++ a, b, t, (List.append_assoc ..).symm, fun c hc => ?_, hb⟩
  exact (List.mem_append.1 hc).elim (hl c) (ha c)

theorem begins_number {s : List UInt8} (h : IsNumber s) : Begins s := by
  obtain @⟨sign, w, f, e, hsign, hw, -, -⟩ := h
  simp only [List.mem_cons, List.not_mem_nil, or_false] at hsign
  rcases hsign with rfl | rfl
  · obtain ⟨b, t, rfl, hb⟩ := exists_digit_of_whole hw
    exact begins_cons _ ⟨not_isBlank_of_isDigit hb, ne_of_isDigit hb rfl, ne_of_isDigit hb rfl⟩
  · exact begins_cons _ (by decide)

theorem begins_opening (frame : Frame) (t : List UInt8) : Begins (frame.opening :: t) := by
  cases frame with
  | array | object => exact begins_cons _ (by decide)

theorem begins {part : Part} {s : List UInt8} (h : Derives part s) : Begins s := by
  induction h with
  | null | true | false | string => exact begins_cons _ (by decide)
  | number hn => exact begins_number hn
  | empty frame | nested frame => exact begins_opening frame _
  | spaced hl _ _ ih => exact (ih.append _).blanks hl
  | item _ ih | last _ ih => exact ih
  | member name hl => exact (begins_cons _ (by decide)).blanks hl
  | more _ _ ih => exact ih.append _

/-- The first element of an array or an object that is not empty. -/
theorem skipRest_begins {s : List UInt8} (h : Begins s) (frame : Frame) (stack : List Frame) :
    skipRest (frame :: stack) false s = skipElement frame stack s := by
  obtain ⟨a, b, t, rfl, ha, hb, harray, hobject⟩ := h
  have hstop : skipBlanks (b :: t) = b :: t := List.dropWhile_cons_of_neg (by rw [hb]; decide)
  have hclose : b ≠ frame.closing := by
    cases frame with
    | array => exact harray
    | object => exact hobject
  rw [skipElement_blanks ha, skipRest_blanks ha, skipRest_eq]
  simp only [hstop, hclose, Bool.false_eq_true, and_false, if_false]

/-! ## Values of any depth -/

/-- What passing over comes to for each part of a text: a value is passed over up to what follows it, and
elements up to the end of what they are in. -/
def PassedOver : Part → List UInt8 → Prop
  | .value, s => ∀ stack rest, Ends rest → skipValue stack (s ++ rest) = skipRest stack true rest
  | .spaced, s => ∀ frame stack rest, Ends rest →
      skipValue (frame :: stack) (s ++ rest) = skipRest (frame :: stack) true rest
  | .element frame, s => ∀ stack rest, Ends rest →
      skipElement frame stack (s ++ rest) = skipRest (frame :: stack) true rest
  | .elements frame, s => ∀ stack rest,
      skipElement frame stack (s ++ frame.closing :: rest) = skipRest stack true rest

theorem ends_blanks {a rest : List UInt8} (ha : Blanks a) (h : Ends rest) : Ends (a ++ rest) := by
  cases a with
  | nil => exact h
  | cons b a =>
    intro c hc
    obtain rfl := Option.some.inj hc
    have hb := ha b (.head _)
    simp only [List.mem_cons, List.not_mem_nil, or_false] at hb
    rcases hb with rfl | rfl | rfl | rfl <;> decide

theorem ends_closing (frame : Frame) (rest : List UInt8) : Ends (frame.closing :: rest) := by
  intro c hc
  obtain rfl := Option.some.inj hc
  cases frame <;> decide

theorem ends_comma (rest : List UInt8) : Ends (44 :: rest) := by
  intro c hc
  obtain rfl := Option.some.inj hc
  decide

theorem passedOver_number {s : List UInt8} (h : IsNumber s) : PassedOver .value s := by
  intro stack rest hr
  obtain @⟨sign, w, f, e, hsign, hw, hf, he⟩ := h
  have hskip := skipNumber_whole hw hf he hr
  simp only [List.mem_cons, List.not_mem_nil, or_false] at hsign
  rcases hsign with rfl | rfl
  · obtain ⟨b, t, rfl, hb⟩ := exists_digit_of_whole hw
    rw [List.nil_append, List.append_assoc, List.append_assoc]
    exact skipValue_scalar (not_isBlank_of_isDigit hb) (opened?_of_isDigit hb)
      ((skipScalar_digit hb _).trans hskip) stack
  · rw [List.append_assoc, List.append_assoc, List.append_assoc]
    exact skipValue_scalar (b := 45) rfl rfl hskip stack

theorem passedOver_string (ps : List Piece) : PassedOver .value (quoted ps) := by
  intro stack rest _
  rw [quoted_append]
  exact skipValue_scalar (b := 34) rfl rfl (skipString_spell ps rest) stack

theorem passedOver {part : Part} {s : List UInt8} (h : Derives part s) : PassedOver part s := by
  -- An element is followed by blanks, a comma or an end, and none of these goes on with a number.
  induction h with
  | null => exact fun stack rest _ => skipValue_scalar rfl rfl rfl stack
  | true => exact fun stack rest _ => skipValue_scalar rfl rfl rfl stack
  | false => exact fun stack rest _ => skipValue_scalar rfl rfl rfl stack
  | number hn => exact passedOver_number hn
  | string ps => exact passedOver_string ps
  | empty frame hs =>
    intro stack rest _
    rw [List.cons_append, List.append_assoc, skipValue_open, skipRest_blanks hs]
    exact skipRest_close frame stack false rest
  | nested frame hs ih =>
    intro stack rest _
    rw [List.cons_append, List.append_assoc, skipValue_open, skipRest_begins ((begins hs).append _)]
    exact ih stack rest
  | spaced hl hv hr ih =>
    intro frame stack rest hrest
    rw [List.append_assoc, List.append_assoc, skipValue_blanks hl, ih _ _ (ends_blanks hr hrest),
      skipRest_blanks hr]
  | item hs ih =>
    intro stack rest hrest
    rw [skipElement_array, ih _ _ _ hrest]
  | member name hl hb hs ih =>
    intro stack rest hrest
    rw [List.append_assoc, List.append_assoc, List.append_assoc, List.cons_append, skipElement_object,
      skipName_quoted hl hb name]
    exact ih _ _ _ hrest
  | last hs ih =>
    intro stack rest
    rw [ih _ _ (ends_closing _ _), skipRest_close]
  | more hs ht ihs iht =>
    intro stack rest
    rw [List.append_assoc, List.cons_append, ihs _ _ (ends_comma _), skipRest_comma, iht]

/-- A value is passed over, up to what follows it. -/
theorem skip_value {left v rest : List UInt8} (hl : Blanks left) (hv : Derives .value v) (hr : Ends rest) :
    skip (left ++ (v ++ rest)) = .ok rest := by
  rw [skip, skipValue_blanks hl, passedOver hv [] rest hr, skipRest]

end BuildCredentials.Json
