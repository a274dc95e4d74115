import BuildCredentials.Json.Fields
import BuildCredentials.Proofs.Json.Values
import Mathlib.Data.List.Nodup

/-!
# Records in objects

`Shape.Gathers` tells what is taken from members, one after another, and `ObjectText.Carries` what an object has
to hold for a record to be read from it: each field once at most, in any place and any spelling, among members
of other names. The first is what reading the members comes to (`Shape.readMembers_ok_iff`), the second what
reading the object does (`Shape.read_object_iff`, `Shape.parse_object_iff`).
-/

set_option autoImplicit false

namespace BuildCredentials.Json

/-! ## Texts among other values -/

theorem Spells.derives {s : String} {bytes : List UInt8} (h : Spells s bytes) : Derives .value bytes := by
  obtain ⟨ps, rfl, -⟩ := h
  exact .string ps

/-- A value is a string, or its first byte tells that it is none. -/
theorem quoted_or_other {v : List UInt8} (h : Derives .value v) :
    (∃ ps, v = quoted ps) ∨ ∃ b t, v = b :: t ∧ isBlank b = false ∧ b ≠ 34 := by
  cases h with
  | string ps => exact .inl ⟨ps, rfl⟩
  | null | true | false => exact .inr ⟨_, _, rfl, rfl, by decide⟩
  | empty frame | nested frame =>
    cases frame with
    | array | object => exact .inr ⟨_, _, rfl, rfl, by decide⟩
  | number h =>
    obtain @⟨sign, w, f, e, hsign, hw, -, -⟩ := h
    simp only [List.mem_cons, List.not_mem_nil, or_false] at hsign
    rcases hsign with rfl | rfl
    · obtain ⟨b, t, rfl, hb⟩ := exists_digit_of_whole hw
      exact .inr ⟨b, _, rfl, not_isBlank_of_isDigit hb, ne_of_isDigit hb rfl⟩
    · exact .inr ⟨45, _, rfl, rfl, by decide⟩

section
variable {a rest r v : List UInt8} {t : String}

theorem readText_blanks (h : Blanks a) (s : List UInt8) : readText (a ++ s) = readText s := by
  rw [readText, skipBlanks_blanks h, ← readText]

/-- A value is read as a text just if it spells one. -/
theorem readText_value_iff (h : Derives .value v) : readText (v ++ rest) = .ok (t, r) ↔ Spells t v ∧ r = rest := by
  constructor
  · intro hr
    rcases quoted_or_other h with ⟨ps, rfl⟩ | ⟨b, s, rfl, hb, hq⟩
    · by_cases hs : ∃ s, Spells s (quoted ps)
      · obtain ⟨s, hs⟩ := hs
        cases (hs.readText rest).symm.trans hr
        exact ⟨hs, rfl⟩
      · obtain ⟨f, hf⟩ := readText_of_not_spells (not_exists.1 hs) rest
        cases hf.symm.trans hr
    · have hstop : skipBlanks (b :: (s ++ rest)) = b :: (s ++ rest) :=
        List.dropWhile_cons_of_neg (by rw [hb]; decide)
      rw [List.cons_append, readText, hstop] at hr
      simp only [hq, if_false] at hr
      exact absurd hr not_ok_wrongValue
  · rintro ⟨hs, rfl⟩
    exact hs.readText r

end

/-! ## Members one after another -/

/-- What stands before a member, if others stand before it. -/
def comma (begun : Bool) : List UInt8 := if begun then [44] else []

/-- Members with commas between them, and one before them if others stand before. -/
def join (begun : Bool) : List Member → List UInt8
  | [] => []
  | m :: ms => comma begun ++ (m.bytes ++ join true ms)

theorem intercalate_bytes (ms : List Member) : [44].intercalate (ms.map Member.bytes) = join false ms := by
  induction ms with
  | nil => rfl
  | cons m ms ih =>
    cases ms with
    | nil => simp [join, comma]
    | cons m' ms =>
      rw [List.map_cons, List.map_cons, List.intercalate_cons_cons, ← List.map_cons, ih]
      simp [join, comma]

section
variable {a rest : List UInt8}

theorem nextName_blanks (h : Blanks a) (begun : Bool) (s : List UInt8) :
    nextName begun (a ++ s) = nextName begun s := by
  rw [nextName, skipBlanks_blanks h, ← nextName]

theorem nextName_end (begun : Bool) (rest : List UInt8) : nextName begun (125 :: rest) = .ok (none, rest) := rfl

theorem nextName_first (rest : List UInt8) :
    nextName false (34 :: rest) = (readString rest).map fun (name, left) => (some name, left) := rfl

theorem nextName_next {rest after : List UInt8} (h : afterComma 125 rest = .ok (34 :: after)) :
    nextName true (44 :: rest) = (readString after).map fun (name, left) => (some name, left) := by
  have hstop : skipBlanks (44 :: rest) = 44 :: rest := rfl
  simp only [nextName, hstop, h, if_true]
  rfl

theorem nextName_spelled {name : String} {spelling : List UInt8} (h : Spells name spelling) (hl : Blanks a)
    (begun : Bool) (rest : List UInt8) :
    nextName begun (comma begun ++ (a ++ (spelling ++ rest))) = .ok (some name, rest) := by
  obtain ⟨ps, rfl, hc⟩ := h
  have hread := readString_of_chars? hc rest
  rw [String.ofList_toList] at hread
  rw [quoted_append]
  cases begun with
  | false =>
    show nextName false (a ++ _) = _
    rw [nextName_blanks hl, nextName_first, hread]
    rfl
  | true =>
    have hcomma : afterComma 125 (a ++ 34 :: (Piece.spell ps ++ 34 :: rest)) =
        .ok (34 :: (Piece.spell ps ++ 34 :: rest)) := by
      rw [afterComma, skipBlanks_blanks hl]
      rfl
    show nextName true (44 :: (a ++ _)) = _
    rw [nextName_next hcomma, hread]
    rfl

end

namespace Shape

theorem readMembers_eq (shape : Shape) (known : Known) (begun : Bool) (bytes : List UInt8) :
    shape.readMembers known begun bytes =
      match nextName begun bytes with
      | .error f => .error f
      | .ok (none, rest) => .ok (known, rest)
      | .ok (some name, rest) =>
        if name ∈ shape.fields then
          if (known.lookup name).isSome then refuseObject (.repeatedField name) rest
          else
            match readColon rest with
            | .error f => .error f
            | .ok after =>
              match readText after with
              | .error f => .error f
              | .ok (value, left) => shape.readMembers ((name, value) :: known) true left
        else
          match readColon rest with
          | .error f => .error f
          | .ok after =>
            match skip after with
            | .error f => .error f
            | .ok left => shape.readMembers known true left := by
  rw [readMembers]
  split
  · next hn => simp only [hn]
  · next hn => simp only [hn]
  · next hn =>
    simp only [hn]
    split
    · split
      · rfl
      · split
        · next hc => simp only [hc]
        · next hc =>
          simp only [hc]
          split
          · next ht => simp only [ht]
          · next ht => simp only [ht]
    · split
      · next hc => simp only [hc]
      · next hc =>
        simp only [hc]
        split
        · next hs => simp only [hs]
        · next hs => simp only [hs]

/-- What is known after members: the text of each that is named like a field, if no other was. -/
inductive Gathers (shape : Shape) : Known → List Member → Known → Prop
  | nil {known : Known} : Gathers shape known [] known
  | field {known k : Known} {m : Member} {ms : List Member} {t : String} : m.name ∈ shape.fields →
      known.lookup m.name = none → Spells t m.value → Gathers shape ((m.name, t) :: known) ms k →
      Gathers shape known (m :: ms) k
  | other {known k : Known} {m : Member} {ms : List Member} : m.name ∉ shape.fields →
      Gathers shape known ms k → Gathers shape known (m :: ms) k

section
variable {shape : Shape} {known k : Known} {m : Member} {ms : List Member} {a gap rest r : List UInt8}

theorem readMembers_blanks (h : Blanks a) (begun : Bool) (s : List UInt8) :
    shape.readMembers known begun (a ++ s) = shape.readMembers known begun s := by
  rw [readMembers_eq, nextName_blanks h, ← readMembers_eq]

/-- A member that is named like a field. -/
theorem readMembers_field_iff (hf : m.name ∈ shape.fields) (begun : Bool) :
    shape.readMembers known begun (comma begun ++ (m.bytes ++ rest)) = .ok (k, r) ↔
      known.lookup m.name = none ∧ ∃ t, Spells t m.value ∧
        shape.readMembers ((m.name, t) :: known) true rest = .ok (k, r) := by
  obtain ⟨hl, hb, hv, hr⟩ := m.blanks
  rw [Member.bytes, List.append_assoc, List.append_assoc, List.append_assoc, List.cons_append, List.append_assoc,
    List.append_assoc, readMembers_eq, nextName_spelled m.spells hl]
  simp only [hf, if_true, readColon_blanks hb, readText_blanks hv]
  split
  · next hk => simp [refuseObject, failHere, Option.isSome_iff_ne_none.1 hk]
  · next hk =>
    rw [Bool.not_eq_true, Option.isSome_eq_false_iff, Option.isNone_iff_eq_none] at hk
    constructor
    · intro h
      split at h
      · cases h
      · next ht =>
        obtain ⟨hs, rfl⟩ := (readText_value_iff m.derives).1 ht
        rw [readMembers_blanks hr] at h
        exact ⟨hk, _, hs, h⟩
    · rintro ⟨-, t, ht, h⟩
      simp only [ht.readText]
      rwa [readMembers_blanks hr]

/-- A member that is not. -/
theorem readMembers_other (hf : m.name ∉ shape.fields) (hrest : Ends rest) (begun : Bool) :
    shape.readMembers known begun (comma begun ++ (m.bytes ++ rest)) = shape.readMembers known true rest := by
  obtain ⟨hl, hb, hv, hr⟩ := m.blanks
  rw [Member.bytes, List.append_assoc, List.append_assoc, List.append_assoc, List.cons_append, List.append_assoc,
    List.append_assoc, readMembers_eq, nextName_spelled m.spells hl]
  simp only [hf, if_false, readColon_blanks hb, skip_value hv m.derives (ends_blanks hr hrest)]
  exact readMembers_blanks hr true rest

theorem ends_join (hg : Blanks gap) (ms : List Member) (rest : List UInt8) :
    Ends (join true ms ++ (gap ++ 125 :: rest)) := by
  cases ms with
  | nil =>
    show Ends (gap ++ _)
    exact ends_blanks hg (ends_closing .object rest)
  | cons m ms => exact ends_comma _

/-- Members are read up to the end of their object. -/
theorem readMembers_ok_iff (hg : Blanks gap) (begun : Bool) :
    shape.readMembers known begun (join begun ms ++ (gap ++ 125 :: rest)) = .ok (k, r) ↔
      shape.Gathers known ms k ∧ r = rest := by
  -- Along the members; what is known and whether a comma is due change from one to the next.
  induction ms generalizing known begun with
  | nil =>
    rw [join, List.nil_append, readMembers_blanks hg, readMembers_eq, nextName_end]
    constructor
    · rintro ⟨⟩
      exact ⟨.nil, rfl⟩
    · rintro ⟨⟨⟩, rfl⟩
      rfl
  | cons m ms ih =>
    rw [join, List.append_assoc, List.append_assoc]
    by_cases hf : m.name ∈ shape.fields
    · rw [readMembers_field_iff hf]
      constructor
      · rintro ⟨hk, t, ht, h⟩
        exact ⟨.field hf hk ht ((ih true).1 h).1, ((ih true).1 h).2⟩
      · rintro ⟨h, rfl⟩
        cases h with
        | field _ hk ht h => exact ⟨hk, _, ht, (ih true).2 ⟨h, rfl⟩⟩
        | other hn _ => exact absurd hf hn
    · rw [readMembers_other hf (ends_join hg ms rest), ih true]
      constructor
      · rintro ⟨h, rfl⟩
        exact ⟨.other hf h, rfl⟩
      · rintro ⟨h, rfl⟩
        cases h with
        | field hn => exact absurd hn hf
        | other _ h => exact ⟨h, rfl⟩

/-! ## What is gathered -/

/-- No field stands twice, and none that is known already. -/
theorem Gathers.distinct (h : shape.Gathers known ms k) :
    ((ms.map Member.name).filter (· ∈ shape.fields)).Nodup ∧
      ∀ m ∈ ms, m.name ∈ shape.fields → known.lookup m.name = none := by
  induction h with
  | nil => exact ⟨.nil, fun _ hm => nomatch hm⟩
  | @field known k m ms t hf hk _ _ ih =>
    have hnew (m' : Member) (hm : m' ∈ ms) (hf' : m'.name ∈ shape.fields) :
        m'.name ≠ m.name ∧ known.lookup m'.name = none := by
      have h := ih.2 m' hm hf'
      rw [List.lookup_cons] at h
      split at h
      · cases h
      · next he => exact ⟨ne_of_beq_false he, h⟩
    constructor
    · rw [List.map_cons, List.filter_cons_of_pos (by simpa using hf), List.nodup_cons]
      refine ⟨fun hmem => ?_, ih.1⟩
      obtain ⟨hmem, hf'⟩ := List.mem_filter.1 hmem
      obtain ⟨m', hm, he⟩ := List.mem_map.1 hmem
      exact (hnew m' hm (by rw [he]; exact hf)).1 he
    · intro m' hm hf'
      rcases List.mem_cons.1 hm with rfl | hm
      · exact hk
      · exact (hnew m' hm hf').2
  | other hf _ ih =>
    constructor
    · rw [List.map_cons, List.filter_cons_of_neg (by simpa using hf)]
      exact ih.1
    · intro m' hm hf'
      rcases List.mem_cons.1 hm with rfl | hm
      · exact absurd hf' hf
      · exact ih.2 m' hm hf'

/-- What is known of a name stays known. -/
theorem Gathers.lookup_of_known {name v : String} (h : shape.Gathers known ms k)
    (hv : known.lookup name = some v) : k.lookup name = some v := by
  induction h with
  | nil => exact hv
  | @field known k m ms t _ hk _ _ ih =>
    refine ih ?_
    have hne : name ≠ m.name := by
      rintro rfl
      cases hk.symm.trans hv
    rw [List.lookup_cons, beq_false_of_ne hne]
    exact hv
  | other _ _ ih => exact ih hv

/-- A member that is named like a field gives its text. -/
theorem Gathers.lookup_of_mem (h : shape.Gathers known ms k) (hm : m ∈ ms) (hf : m.name ∈ shape.fields) :
    ∃ v, k.lookup m.name = some v ∧ Spells v m.value := by
  induction h with
  | nil => cases hm
  | @field known k m' ms t _ _ ht h ih =>
    rcases List.mem_cons.1 hm with rfl | hm
    · exact ⟨t, h.lookup_of_known (by rw [List.lookup_cons, beq_self_eq_true]), ht⟩
    · exact ih hm
  | other hn _ ih =>
    rcases List.mem_cons.1 hm with rfl | hm
    · exact absurd hf hn
    · exact ih hm

/-- A name that no member has is not touched. -/
theorem Gathers.lookup_of_not_mem {name : String} (h : shape.Gathers known ms k)
    (hn : name ∉ ms.map Member.name) : k.lookup name = known.lookup name := by
  induction h with
  | nil => rfl
  | @field known k m ms t _ _ _ _ ih =>
    rw [List.map_cons, List.mem_cons, not_or] at hn
    rw [ih hn.2, List.lookup_cons, beq_false_of_ne hn.1]
  | other _ _ ih =>
    rw [List.map_cons, List.mem_cons, not_or] at hn
    exact ih hn.2

/-- Members can be gathered if no field stands twice and each holds a text. -/
theorem exists_gathers (hd : ((ms.map Member.name).filter (· ∈ shape.fields)).Nodup)
    (hk : ∀ m ∈ ms, m.name ∈ shape.fields → known.lookup m.name = none)
    (hs : ∀ m ∈ ms, m.name ∈ shape.fields → ∃ v, Spells v m.value) : ∃ k, shape.Gathers known ms k := by
  induction ms generalizing known with
  | nil => exact ⟨known, .nil⟩
  | cons m ms ih =>
    have hs' := fun m' hm => hs m' (.tail _ hm)
    by_cases hf : m.name ∈ shape.fields
    · rw [List.map_cons, List.filter_cons_of_pos (by simpa using hf), List.nodup_cons] at hd
      obtain ⟨t, ht⟩ := hs m (.head _) hf
      have hk' : ∀ m' ∈ ms, m'.name ∈ shape.fields → ((m.name, t) :: known).lookup m'.name = none := by
        intro m' hm hf'
        have hne : m'.name ≠ m.name := fun he => hd.1 (List.mem_filter.2
          ⟨he ▸ List.mem_map_of_mem hm, by simpa using hf⟩)
        rw [List.lookup_cons, beq_false_of_ne hne]
        exact hk m' (.tail _ hm) hf'
      obtain ⟨k, h⟩ := ih hd.2 hk' hs'
      exact ⟨k, .field hf (hk m (.head _) hf) ht h⟩
    · rw [List.map_cons, List.filter_cons_of_neg (by simpa using hf)] at hd
      obtain ⟨k, h⟩ := ih hd (fun m' hm => hk m' (.tail _ hm)) hs'
      exact ⟨k, .other hf h⟩

end

/-- The values are those of the members that are known; a field without one is empty, where it may be. -/
theorem values_ok_iff {shape : Shape} {known : Known} {fields vs : List String} :
    shape.values known fields = .ok vs ↔ fields.length = vs.length ∧
      ∀ p ∈ fields.zip vs, known.lookup p.1 = some p.2 ∨
        known.lookup p.1 = none ∧ shape.optional = true ∧ p.2 = "" := by
  induction fields generalizing vs with
  | nil => cases vs <;> simp [values]
  | cons f fs ih =>
    have hmap (u : String) : (shape.values known fs).map (u :: ·) = .ok vs ↔
        ∃ ws, vs = u :: ws ∧ shape.values known fs = .ok ws := by
      cases shape.values known fs with
      | error e => simp [Except.map]
      | ok ws => simp [Except.map, eq_comm]
    rw [values]
    cases vs with
    | nil => cases known.lookup f <;> cases shape.optional <;> simp [hmap]
    | cons v vs =>
      rw [List.zip_cons_cons, List.forall_mem_cons]
      cases known.lookup f with
      | none => cases ho : shape.optional <;> simp [hmap, ih, ho, and_left_comm]
      | some w => simp [hmap, ih, and_left_comm, eq_comm (a := w)]

end Shape

/-! ## Objects -/

/-- An object holds the fields of a record, each with its value. -/
structure ObjectText.Carries (o : ObjectText) (optional : Bool) (fields : List (String × String)) : Prop where
  /-- No field stands twice. -/
  distinct : (o.names.filter (· ∈ fields.map Prod.fst)).Nodup
  /-- Where a field stands, it is with its value, in any spelling. -/
  spells : ∀ p ∈ fields, ∀ m ∈ o.members, m.name = p.1 → Spells p.2 m.value
  /-- A field is left out only if it is optional, and empty. -/
  absent : ∀ p ∈ fields, p.1 ∉ o.names → optional = true ∧ p.2 = ""

namespace Shape

section
variable {shape : Shape} {o : ObjectText} {vs : List String} {rest r : List UInt8}

theorem carries_of_gathers {k : Known} (h : shape.Gathers [] o.members k) (hl : shape.fields.length = vs.length)
    (hk : ∀ p ∈ shape.fields.zip vs, k.lookup p.1 = some p.2 ∨
      k.lookup p.1 = none ∧ shape.optional = true ∧ p.2 = "") :
    o.Carries shape.optional (shape.fields.zip vs) where
  distinct := by
    rw [List.map_fst_zip (Nat.le_of_eq hl)]
    exact h.distinct.1
  spells p hp m hm he := by
    obtain ⟨v, hv, hs⟩ := h.lookup_of_mem hm (he ▸ (List.of_mem_zip hp).1)
    rw [he] at hv
    rcases hk p hp with hp | ⟨hp, -⟩
    · obtain rfl := Option.some.inj (hv.symm.trans hp)
      exact hs
    · cases hv.symm.trans hp
  absent p hp hn := by
    have hv := h.lookup_of_not_mem hn
    rcases hk p hp with hp | ⟨-, hp⟩
    · cases hv.symm.trans hp
    · exact hp

theorem exists_gathers_of_carries (hl : shape.fields.length = vs.length)
    (h : o.Carries shape.optional (shape.fields.zip vs)) :
    ∃ k, shape.Gathers [] o.members k ∧ ∀ p ∈ shape.fields.zip vs, k.lookup p.1 = some p.2 ∨
      k.lookup p.1 = none ∧ shape.optional = true ∧ p.2 = "" := by
  have hnames : (shape.fields.zip vs).map Prod.fst = shape.fields := List.map_fst_zip (Nat.le_of_eq hl)
  have hd := h.distinct
  rw [hnames] at hd
  have hs : ∀ m ∈ o.members, m.name ∈ shape.fields → ∃ v, Spells v m.value := by
    intro m hm hf
    rw [← hnames] at hf
    obtain ⟨p, hp, he⟩ := List.mem_map.1 hf
    exact ⟨p.2, h.spells p hp m hm he.symm⟩
  obtain ⟨k, hk⟩ : ∃ k, shape.Gathers [] o.members k := exists_gathers hd (fun _ _ _ => rfl) hs
  refine ⟨k, hk, fun p hp => ?_⟩
  -- The member of a field spells both what is known and what is carried, and bytes spell one text only.
  by_cases hn : p.1 ∈ o.names
  · obtain ⟨m, hm, he⟩ := List.mem_map.1 hn
    obtain ⟨v, hv, hs⟩ := hk.lookup_of_mem hm (he ▸ (List.of_mem_zip hp).1)
    rw [he, hs.unique (h.spells p hp m hm he)] at hv
    exact .inl hv
  · exact .inr ⟨hk.lookup_of_not_mem hn, h.absent p hp hn⟩

/-- A record is read from an object just if the object carries its values. -/
theorem read_object_iff : shape.read (o.bytes ++ rest) = .ok (vs, r) ↔
    shape.fields.length = vs.length ∧ o.Carries shape.optional (shape.fields.zip vs) ∧ r = o.right ++ rest := by
  obtain ⟨hl, hi, hr⟩ := o.blanks
  rw [ObjectText.bytes, intercalate_bytes, List.append_assoc, List.cons_append, List.append_assoc,
    List.append_assoc, List.cons_append, read, skipBlanks_blanks hl]
  show shape.readObject _ = _ ↔ _
  rw [readObject]
  constructor
  · intro h
    split at h
    · cases h
    · next k left hm =>
      obtain ⟨hg, rfl⟩ := (readMembers_ok_iff hi false).1 hm
      split at h
      · next hv =>
        cases h
        obtain ⟨hlen, hk⟩ := values_ok_iff.1 hv
        exact ⟨hlen, carries_of_gathers hg hlen hk, rfl⟩
      · cases h
  · rintro ⟨hlen, h, rfl⟩
    obtain ⟨k, hg, hk⟩ := exists_gathers_of_carries hlen h
    have hm := (readMembers_ok_iff (r := o.right ++ rest) hi false).2 ⟨hg, rfl⟩
    have hv := values_ok_iff.2 ⟨hlen, hk⟩
    simp only [hm, hv]

theorem parse_object_iff : shape.parse o.bytes = .ok vs ↔
    shape.fields.length = vs.length ∧ o.Carries shape.optional (shape.fields.zip vs) := by
  have hblank : skipBlanks o.right = [] := by
    have h := skipBlanks_blanks o.blanks.2.2 []
    rwa [List.append_nil] at h
  have hread (r : List UInt8) : shape.read o.bytes = .ok (vs, r) ↔
      shape.fields.length = vs.length ∧ o.Carries shape.optional (shape.fields.zip vs) ∧ r = o.right := by
    have h : shape.read (o.bytes ++ []) = .ok (vs, r) ↔ _ := read_object_iff
    simpa only [List.append_nil] using h
  rw [parse]
  constructor
  · intro h
    cases hr : shape.read o.bytes with
    | error f =>
      rw [hr] at h
      cases h
    | ok p =>
      rw [hr] at h
      have hp : vs = p.1 := by
        rw [finish] at h
        split at h
        · exact (Except.ok.inj h).symm
        · cases h
      subst hp
      obtain ⟨hl, hc, -⟩ := (hread p.2).1 hr
      exact ⟨hl, hc⟩
  · rintro ⟨hl, hc⟩
    rw [(hread o.right).2 ⟨hl, hc, rfl⟩]
    simp only [finish, hblank]

/-- Nothing but blanks may follow an object. -/
theorem not_ok_parse_trailing {b : UInt8} (hb : isBlank b = false) : shape.parse (o.bytes ++ b :: rest) ≠ .ok vs := by
  intro h
  have hstop : skipBlanks (o.right ++ b :: rest) = b :: rest := by
    rw [skipBlanks_blanks o.blanks.2.2]
    exact List.dropWhile_cons_of_neg (by rw [hb]; decide)
  rw [parse] at h
  cases hr : shape.read (o.bytes ++ b :: rest) with
  | error f =>
    rw [hr] at h
    cases h
  | ok p =>
    obtain ⟨ws, left⟩ := p
    obtain ⟨-, -, rfl⟩ := read_object_iff.1 hr
    rw [hr, finish, hstop] at h
    cases h

end

end Shape

end BuildCredentials.Json
