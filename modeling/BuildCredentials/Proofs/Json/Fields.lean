import BuildCredentials.Proofs.Json.Objects
import BuildCredentials.Proofs.Json.Reading

/-!
# Records as they are written and read

`Shape.toJson` writes the fields of a record in their order, and leaves empty ones out where they are optional;
its text is that of an object with just these members (`Shape.exists_object_toJson`). Reading it gives the values
of all fields (`Shape.read_toJson`, `Shape.parse_toJson`). `Shape.Represents` carries this over to the types
whose values are records, with what reading any other object comes to (`Shape.Represents.parse_object_iff`).
-/

set_option autoImplicit false

namespace BuildCredentials.Json

open Utf8 (bytesOf bytesOf_append bytesOf_cons)

/-! ## Members -/

theorem blanks_nil : Blanks [] := fun _ hb => nomatch hb

theorem nextName_quoted (begun : Bool) (name : String) (rest : List UInt8) :
    nextName begun (comma begun ++ (bytesOf (quoteChars name) ++ rest)) = .ok (some name, rest) :=
  nextName_spelled (spells_quoteChars name) blanks_nil begun rest

theorem readColon_colon (rest : List UInt8) : readColon (58 :: rest) = .ok rest := rfl

/-- A member holds a text under a name. -/
def Member.Holds (m : Member) (field : String × String) : Prop := m.name = field.1 ∧ Spells field.2 m.value

/-- A text as it is written, under its name. -/
def Member.ofText (field : String × String) : Member where
  name := field.1
  spelling := bytesOf (quoteChars field.1)
  value := bytesOf (quoteChars field.2)
  left := []
  between := []
  before := []
  right := []
  spells := spells_quoteChars field.1
  derives := (spells_quoteChars field.2).derives
  blanks := ⟨blanks_nil, blanks_nil, blanks_nil, blanks_nil⟩

/-- Texts as they are written. -/
def ObjectText.ofTexts (fields : List (String × String)) : ObjectText where
  members := fields.map Member.ofText
  left := []
  inner := []
  right := []
  blanks := ⟨blanks_nil, blanks_nil, blanks_nil⟩

theorem names_ofTexts (fields : List (String × String)) :
    (ObjectText.ofTexts fields).names = fields.map Prod.fst := by
  rw [ObjectText.names, ObjectText.ofTexts, List.map_map]
  rfl

theorem holds_ofTexts (fields : List (String × String)) :
    List.Forall₂ Member.Holds (ObjectText.ofTexts fields).members fields := by
  induction fields with
  | nil => exact .nil
  | cons p fields ih => exact .cons ⟨rfl, spells_quoteChars p.2⟩ ih

theorem bytesOf_memberChars (fields : List (String × String)) :
    bytesOf (memberChars (fields.map fun (name, v) => (name, .text v))) = join false (fields.map .ofText) := by
  have hcolon : String.utf8EncodeChar ':' = [58] := by decide
  have hcomma : String.utf8EncodeChar ',' = [44] := by decide
  induction fields with
  | nil => rfl
  | cons p fields ih =>
    cases fields with
    | nil =>
      show bytesOf (quoteChars p.1 ++ ':' :: quoteChars p.2) = [] ++ (Member.bytes (.ofText p) ++ [])
      rw [bytesOf_append, bytesOf_cons hcolon, List.append_nil]
      simp [Member.bytes, Member.ofText]
    | cons p' fields =>
      show bytesOf (quoteChars p.1 ++ ':' :: (quoteChars p.2 ++ ',' ::
        memberChars ((p' :: fields).map fun (name, v) => (name, .text v)))) = _
      rw [bytesOf_append, bytesOf_cons hcolon, bytesOf_append, bytesOf_cons hcomma, ih]
      simp [join, comma, Member.bytes, Member.ofText]

theorem bytes_ofTexts (fields : List (String × String)) : (ObjectText.ofTexts fields).bytes =
    Utf8.encode (Json.object (fields.map fun (name, v) => (name, .text v))).render := by
  rw [ObjectText.bytes, intercalate_bytes, Json.render, Utf8.encode_ofList]
  show 123 :: (join false (fields.map .ofText) ++ [125]) = bytesOf ('\x7b' :: (memberChars _ ++ ['\x7d']))
  rw [bytesOf_cons (b := 123) (by decide), bytesOf_append, bytesOf_memberChars]
  rfl

namespace Shape

/-! ## Records -/

/-- The fields that are written, with their values. -/
def written (shape : Shape) (vs : List String) : List (String × String) :=
  (shape.fields.zip vs).filter fun (_, v) => !(shape.optional && v == "")

section
variable {shape : Shape} {vs : List String}

theorem bytes_written (shape : Shape) (vs : List String) :
    (ObjectText.ofTexts (shape.written vs)).bytes = Utf8.encode (shape.toJson vs).render :=
  bytes_ofTexts (shape.written vs)

/-- A record is written as an object that holds just the fields that are to be written, in their order. -/
theorem exists_object_toJson (shape : Shape) (vs : List String) :
    ∃ o : ObjectText, o.bytes = Utf8.encode (shape.toJson vs).render ∧
      List.Forall₂ Member.Holds o.members (shape.written vs) :=
  ⟨.ofTexts (shape.written vs), bytes_written shape vs, holds_ofTexts (shape.written vs)⟩

theorem plain_toJson (shape : Shape) (vs : List String) : (shape.toJson vs).Plain := by
  refine .object ?_
  intro m hm
  obtain ⟨p, -, rfl⟩ := List.mem_map.1 hm
  exact .text p.2

theorem carries_written (hd : shape.fields.Nodup) (hl : shape.fields.length = vs.length) :
    (ObjectText.ofTexts (shape.written vs)).Carries shape.optional (shape.fields.zip vs) := by
  have hz : ((shape.fields.zip vs).map Prod.fst).Nodup := by rwa [List.map_fst_zip (Nat.le_of_eq hl)]
  constructor
  · rw [names_ofTexts]
    exact ((List.filter_sublist.map _).nodup hz).filter _
  · intro p hp m hm he
    -- What is written under the name of a field is that field, since names are distinct.
    obtain ⟨q, hq, rfl⟩ := List.mem_map.1 hm
    obtain rfl := List.inj_on_of_nodup_map hz (List.mem_filter.1 hq).1 hp he
    exact spells_quoteChars q.2
  · intro p hp hn
    rw [names_ofTexts] at hn
    by_contra hk
    refine hn (List.mem_map.2 ⟨p, List.mem_filter.2 ⟨hp, ?_⟩, rfl⟩)
    rw [not_and_or] at hk
    simpa using hk

/-- A record that is written is read back. -/
theorem read_toJson (hd : shape.fields.Nodup) (hl : shape.fields.length = vs.length) (rest : List UInt8) :
    shape.read (Utf8.encode (shape.toJson vs).render ++ rest) = .ok (vs, rest) := by
  rw [← bytes_written, read_object_iff]
  exact ⟨hl, carries_written hd hl, rfl⟩

theorem parse_toJson_append (hd : shape.fields.Nodup) (hl : shape.fields.length = vs.length)
    {blanks : List UInt8} (hb : skipBlanks blanks = []) :
    shape.parse (Utf8.encode (shape.toJson vs).render ++ blanks) = .ok vs := by
  rw [parse, read_toJson hd hl blanks]
  simp only [finish, hb]

theorem parse_toJson (hd : shape.fields.Nodup) (hl : shape.fields.length = vs.length) :
    shape.parse (Utf8.encode (shape.toJson vs).render) = .ok vs := by
  have h := parse_toJson_append hd hl (rfl : skipBlanks [] = [])
  rwa [List.append_nil] at h

end

/-! ## Types of records -/

/-- The values of a type are the records of a shape. -/
structure Represents (shape : Shape) {α : Type} (values : α → List String) (ofValues : List String → α) :
    Prop where
  nodup : shape.fields.Nodup
  length_values : ∀ x, shape.fields.length = (values x).length
  ofValues_values : ∀ x, ofValues (values x) = x
  values_ofValues : ∀ vs, shape.fields.length = vs.length → values (ofValues vs) = vs

namespace Represents

section
variable {shape : Shape} {α : Type} {values : α → List String} {ofValues : List String → α}
  (h : shape.Represents values ofValues) {o : ObjectText} {x : α}
include h

theorem parse_toJson (x : α) :
    (shape.parse (Utf8.encode (shape.toJson (values x)).render)).map ofValues = .ok x := by
  rw [Shape.parse_toJson h.nodup (h.length_values x)]
  exact congrArg Except.ok (h.ofValues_values x)

/-- A value is read from an object just if the object carries its fields. -/
theorem parse_object_iff : (shape.parse o.bytes).map ofValues = .ok x ↔
    o.Carries shape.optional (shape.fields.zip (values x)) := by
  constructor
  · intro hp
    cases hs : shape.parse o.bytes with
    | error f =>
      rw [hs] at hp
      cases hp
    | ok vs =>
      rw [hs] at hp
      obtain rfl := Except.ok.inj hp
      obtain ⟨hl, hc⟩ := Shape.parse_object_iff.1 hs
      rwa [h.values_ofValues vs hl]
  · intro hc
    rw [Shape.parse_object_iff.2 ⟨h.length_values x, hc⟩]
    exact congrArg Except.ok (h.ofValues_values x)

/-- An object that carries no value is refused. -/
theorem refuses_of_forall (hc : ∀ x, ¬o.Carries shape.optional (shape.fields.zip (values x))) :
    ∃ failure, (shape.parse o.bytes).map ofValues = .error failure := by
  cases hs : (shape.parse o.bytes).map ofValues with
  | error f => exact ⟨f, rfl⟩
  | ok x => exact absurd (h.parse_object_iff.1 hs) (hc x)

variable {field : String} (hf : field ∈ shape.fields)
include hf

theorem refuses_repeated (hn : 2 ≤ o.names.count field) :
    ∃ failure, (shape.parse o.bytes).map ofValues = .error failure := by
  refine h.refuses_of_forall fun x hc => ?_
  have hd := hc.distinct
  rw [List.map_fst_zip (Nat.le_of_eq (h.length_values x))] at hd
  have hle := List.nodup_iff_count_le_one.1 hd field
  rw [List.count_filter (by simpa using hf)] at hle
  omega

theorem refuses_missing (ho : shape.optional = false) (hn : field ∉ o.names) :
    ∃ failure, (shape.parse o.bytes).map ofValues = .error failure := by
  refine h.refuses_of_forall fun x hc => ?_
  rw [← List.map_fst_zip (Nat.le_of_eq (h.length_values x))] at hf
  obtain ⟨p, hp, rfl⟩ := List.mem_map.1 hf
  have hopt := (hc.absent p hp hn).1
  rw [ho] at hopt
  cases hopt

end

end Represents

end Shape

end BuildCredentials.Json
