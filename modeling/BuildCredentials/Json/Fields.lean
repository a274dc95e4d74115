import BuildCredentials.Json.Reader
import BuildCredentials.Text.Quoted

/-!
# Records of text fields

A `Shape` is a record whose fields are all texts. `Shape.read` takes such a record from an object, in which
members of other names are passed over and a repeated field is refused, or from an array that lists the
fields in order. `readTable` takes an object that maps keys to records; a repeated key takes the last record.
A text of another kind than the one asked for is refused by naming its kind.
-/

set_option autoImplicit false

namespace BuildCredentials.Json

/-- A record of text fields. -/
structure Shape where
  name : String
  fields : List String
  /-- Whether a missing field is empty; else it is refused. -/
  optional : Bool
  deriving DecidableEq, Repr

/-- What the record is called where another value stands. -/
def Shape.expected (s : Shape) : String := "struct " ++ s.name

/-- What the record is called where an array is too short for it. -/
def Shape.expectedItems (s : Shape) : String :=
  s.expected ++ " with " ++ toString s.fields.length ++ (if s.fields.length = 1 then " element" else " elements")

/-! ## Values of the wrong kind -/

/-- How a number of the wrong kind is shown. -/
def Number.describe : Number → String
  | .integer n => "integer \x60" ++ toString n ++ "\x60"
  | .float bits => "floating point \x60" ++ floatLayout.writeBits bits ++ "\x60"

/-- Refuses what was read as another kind than asked for, at its end. -/
def refuse {α β : Type} (expected : String) (describe : α → String) : Reading α → Except Failure β
  | .error f => .error f
  | .ok (v, rest) => failHere (.wrongType (describe v) expected) rest

/-- Refuses a word as another kind than asked for. -/
def refuseWord {α : Type} (expected found : String) : Except Failure (List UInt8) → Except Failure α
  | .error f => .error f
  | .ok rest => failHere (.wrongType found expected) rest

/-- Refuses a value that begins with `b`. A scalar is read to its end; an array or an object is not entered. -/
def wrongValue {α : Type} (expected : String) (b : UInt8) (rest : List UInt8) : Except Failure α :=
  if b = 110 then refuseWord expected "null" (readWord wordNull rest)
  else if b = 116 then refuseWord expected "boolean \x60true\x60" (readWord wordTrue rest)
  else if b = 102 then refuseWord expected "boolean \x60false\x60" (readWord wordFalse rest)
  else if b = 45 then refuse expected Number.describe (readNumber true rest)
  else if isDigit b then refuse expected Number.describe (readNumber false (b :: rest))
  else if b = 34 then refuse expected (fun s => "string " ++ Text.quote s) (readString rest)
  else if b = 91 then failHere (.wrongType "sequence" expected) (b :: rest)
  else if b = 123 then failHere (.wrongType "map" expected) (b :: rest)
  else failNext .expectedValue (b :: rest)

/-- Reads a text. -/
def readText (bytes : List UInt8) : Reading String :=
  match skipBlanks bytes with
  | [] => failNext .endInValue []
  | b :: rest => if b = 34 then readString rest else wrongValue "a string" b rest

theorem not_ok_refuse {α β : Type} {expected : String} {describe : α → String} {r : Reading α} {v : β} :
    refuse expected describe r ≠ .ok v := by
  unfold refuse
  split <;> simp [failHere]

theorem not_ok_refuseWord {α : Type} {expected found : String} {r : Except Failure (List UInt8)} {v : α} :
    refuseWord expected found r ≠ .ok v := by
  unfold refuseWord
  split <;> simp [failHere]

theorem not_ok_wrongValue {α : Type} {expected : String} {b : UInt8} {s : List UInt8} {v : α} :
    wrongValue expected b s ≠ .ok v := by
  unfold wrongValue
  split
  · exact not_ok_refuseWord
  · split
    · exact not_ok_refuseWord
    · split
      · exact not_ok_refuseWord
      · split
        · exact not_ok_refuse
        · split
          · exact not_ok_refuse
          · split
            · exact not_ok_refuse
            · split
              · simp [failHere]
              · split
                · simp [failHere]
                · simp [failNext]

theorem length_of_readText {s r : List UInt8} {t : String} (h : readText s = .ok (t, r)) :
    r.length < s.length := by
  unfold readText at h
  have hb := length_skipBlanks s
  split at h
  · simp [failNext] at h
  · next heq =>
    rw [heq] at hb
    simp only [List.length_cons] at hb
    split at h
    · have := length_of_readString h; omega
    · exact absurd h not_ok_wrongValue

/-! ## Members and items -/

/-- Reads the name of the next member of an object, or passes over its end. -/
def nextName (begun : Bool) (bytes : List UInt8) : Reading (Option String) :=
  match skipBlanks bytes with
  | [] => failNext .endInObject []
  | b :: rest =>
    if b = 125 then .ok (none, rest)
    else if begun ∧ b ≠ 44 then failNext .expectedObjectComma (b :: rest)
    else match (if begun then afterComma 125 rest else .ok (b :: rest)) with
      | .error f => .error f
      | .ok [] => failNext .endInValue []
      | .ok (c :: after) =>
        if c = 34 then (readString after).map fun (name, left) => (some name, left)
        else failNext .keyNotString (c :: after)

theorem length_of_nextName {begun : Bool} {s r : List UInt8} {name : Option String}
    (h : nextName begun s = .ok (name, r)) : r.length < s.length := by
  unfold nextName at h
  have hb := length_skipBlanks s
  split at h
  · simp [failNext] at h
  · next b rest heq =>
    rw [heq] at hb
    simp only [List.length_cons] at hb
    split at h
    · simp only [Except.ok.injEq, Prod.mk.injEq] at h
      rw [← h.2]; omega
    · split at h
      · simp [failNext] at h
      · have hle (t : List UInt8)
            (ht : (if begun then afterComma 125 rest else .ok (b :: rest)) = .ok t) : t.length ≤ s.length := by
          split at ht
          · have := length_of_afterComma ht; omega
          · simp only [Except.ok.injEq] at ht; simp only [← ht, List.length_cons]; omega
        split at h
        · simp at h
        · simp [failNext] at h
        · next c after heq' =>
          have := hle _ heq'
          simp only [List.length_cons] at this
          split at h
          · cases hr : readString after with
            | error f => simp [hr, Except.map] at h
            | ok p =>
              simp only [hr, Except.map, Except.ok.injEq, Prod.mk.injEq] at h
              have := length_of_readString (t := p.1) (r := p.2) hr
              rw [← h.2]; omega
          · simp [failNext] at h

/-- Whether an array has another item, with the bytes at the item or after the end. -/
def nextItem (begun : Bool) (bytes : List UInt8) : Reading Bool :=
  match skipBlanks bytes with
  | [] => failNext .endInArray []
  | b :: rest =>
    if b = 93 then .ok (false, rest)
    else if begun then
      if b = 44 then (afterComma 93 rest).map (true, ·) else failNext .expectedArrayComma (b :: rest)
    else .ok (true, b :: rest)

/-- Passes over the end of an object if it stands there. -/
def leaveObject (bytes : List UInt8) : List UInt8 :=
  match skipBlanks bytes with
  | [] => []
  | b :: rest => if b = 125 then rest else b :: rest

/-- Refuses an object at the place where reading it stops. -/
def refuseObject {α : Type} (cause : Cause) (bytes : List UInt8) : Except Failure α :=
  failHere cause (leaveObject bytes)

/-- Passes over the end of an array that has been read; a further item is refused. -/
def endArray (bytes : List UInt8) : Except Failure (List UInt8) :=
  match skipBlanks bytes with
  | [] => failNext .endInArray []
  | b :: rest =>
    if b = 93 then .ok rest
    else if b = 44 then
      match skipBlanks rest with
      | [] => failNext .trailingCharacters []
      | c :: after => failNext (if c = 93 then .trailingComma else .trailingCharacters) (c :: after)
    else failNext .trailingCharacters (b :: rest)

theorem length_of_nextItem {begun b : Bool} {s r : List UInt8} (h : nextItem begun s = .ok (b, r)) :
    r.length ≤ s.length := by
  unfold nextItem at h
  have hb := length_skipBlanks s
  split at h
  · simp [failNext] at h
  · next c rest heq =>
    rw [heq] at hb
    simp only [List.length_cons] at hb
    split at h
    · simp only [Except.ok.injEq, Prod.mk.injEq] at h; rw [← h.2]; omega
    · split at h
      · split at h
        · cases ha : afterComma 93 rest with
          | error f => simp [ha, Except.map] at h
          | ok t =>
            simp only [ha, Except.map, Except.ok.injEq, Prod.mk.injEq] at h
            have := length_of_afterComma ha
            rw [← h.2]; omega
        · simp [failNext] at h
      · simp only [Except.ok.injEq, Prod.mk.injEq] at h; rw [← h.2]; exact hb

theorem length_of_endArray {s r : List UInt8} (h : endArray s = .ok r) : r.length ≤ s.length := by
  unfold endArray at h
  have hb := length_skipBlanks s
  split at h
  · simp [failNext] at h
  · next heq =>
    rw [heq] at hb
    simp only [List.length_cons] at hb
    split at h
    · simp only [Except.ok.injEq] at h; rw [← h]; omega
    · split at h
      · split at h <;> simp [failNext] at h
      · simp [failNext] at h

namespace Shape

/-- The fields that are read so far. -/
abbrev Known := List (String × String)

/-- Reads the members of an object that are left, after those in `known`. -/
def readMembers (shape : Shape) (known : Known) (begun : Bool) (bytes : List UInt8) : Reading Known :=
  match _hn : nextName begun bytes with
  | .error f => .error f
  | .ok (none, rest) => .ok (known, rest)
  | .ok (some name, rest) =>
    if name ∈ shape.fields then
      if (known.lookup name).isSome then refuseObject (.repeatedField name) rest
      else
        match _hc : readColon rest with
        | .error f => .error f
        | .ok after =>
          match _ht : readText after with
          | .error f => .error f
          | .ok (value, left) => readMembers shape ((name, value) :: known) true left
    else
      match _hc : readColon rest with
      | .error f => .error f
      | .ok after =>
        match _hs : skip after with
        | .error f => .error f
        | .ok left => readMembers shape known true left
termination_by bytes.length
decreasing_by
  · have := length_of_nextName _hn
    have := length_of_readColon _hc
    have := length_of_readText _ht
    omega
  · have := length_of_nextName _hn
    have := length_of_readColon _hc
    have := length_of_skip _hs
    omega

/-- The values of the fields in order; the first that is missing is refused unless all are optional. -/
def values (shape : Shape) (known : Known) : List String → Except String (List String)
  | [] => .ok []
  | f :: fs =>
    match known.lookup f with
    | some v => (values shape known fs).map (v :: ·)
    | none => if shape.optional then (values shape known fs).map ("" :: ·) else .error f

/-- Reads an object after its opening brace. -/
def readObject (shape : Shape) (bytes : List UInt8) : Reading (List String) :=
  match shape.readMembers [] false bytes with
  | .error f => .error f
  | .ok (known, rest) =>
    match shape.values known shape.fields with
    | .ok vs => .ok (vs, rest)
    | .error field => failHere (.missingField field) rest

/-- Reads the items of an array for the fields that are left, after `count` of them. -/
def readItems (shape : Shape) (count : Nat) : List String → List UInt8 → Reading (List String)
  | [], bytes => (endArray bytes).map ([], ·)
  | _ :: fields, bytes =>
    match nextItem (count != 0) bytes with
    | .error f => .error f
    | .ok (false, rest) =>
      if shape.optional then .ok ("" :: fields.map fun _ => "", rest)
      else failHere (.wrongLength count shape.expectedItems) rest
    | .ok (true, rest) =>
      match readText rest with
      | .error f => .error f
      | .ok (value, after) =>
        (shape.readItems (count + 1) fields after).map fun (values, left) => (value :: values, left)

/-- Reads a record and answers its values in the order of the fields. -/
def read (shape : Shape) (bytes : List UInt8) : Reading (List String) :=
  match skipBlanks bytes with
  | [] => failNext .endInValue []
  | b :: rest =>
    if b = 123 then shape.readObject rest
    else if b = 91 then shape.readItems 0 shape.fields rest
    else wrongValue shape.expected b rest

/-- Reads a text that holds one record. -/
def parse (shape : Shape) (bytes : List UInt8) : Except Failure (List String) := finish (shape.read bytes)

/-- The members of a record; empty optional fields are left out. -/
def members (shape : Shape) (values : List String) : List (String × Json) :=
  ((shape.fields.zip values).filter fun (_, v) => !(shape.optional && v == "")).map fun (f, v) => (f, .text v)

/-- A record as an object. -/
def toJson (shape : Shape) (values : List String) : Json := .object (shape.members values)

/-! ## What is left is shorter -/

theorem length_of_readMembers {shape : Shape} {known k : Known} {begun : Bool} {s r : List UInt8}
    (h : shape.readMembers known begun s = .ok (k, r)) : r.length ≤ s.length := by
  induction hn : s.length using Nat.strongRecOn generalizing s known begun with
  | ind n ih =>
    subst hn
    rw [readMembers] at h
    split at h
    · simp at h
    · next hnext =>
      have := length_of_nextName hnext
      simp only [Except.ok.injEq, Prod.mk.injEq] at h
      rw [← h.2]; omega
    · next name rest hnext =>
      have := length_of_nextName hnext
      split at h
      · split at h
        · simp [refuseObject, failHere] at h
        · split at h
          · simp at h
          · next hc =>
            have := length_of_readColon hc
            split at h
            · simp at h
            · next ht =>
              have := length_of_readText ht
              have := ih _ (by omega) h rfl; omega
      · split at h
        · simp at h
        · next hc =>
          have := length_of_readColon hc
          split at h
          · simp at h
          · next ht =>
            have := length_of_skip ht
            have := ih _ (by omega) h rfl; omega

theorem length_of_readItems {shape : Shape} {count : Nat} {fields v : List String} {s r : List UInt8}
    (h : shape.readItems count fields s = .ok (v, r)) : r.length ≤ s.length := by
  induction fields generalizing count s v r with
  | nil =>
    simp only [readItems] at h
    cases he : endArray s with
    | error f => simp [he, Except.map] at h
    | ok t =>
      simp only [he, Except.map, Except.ok.injEq, Prod.mk.injEq] at h
      rw [← h.2]; exact length_of_endArray he
  | cons f fs ih =>
    simp only [readItems] at h
    split at h
    · simp at h
    · next hnext =>
      have := length_of_nextItem hnext
      split at h
      · simp only [Except.ok.injEq, Prod.mk.injEq] at h; rw [← h.2]; exact this
      · simp [failHere] at h
    · next rest hnext =>
      have := length_of_nextItem hnext
      split at h
      · simp at h
      · next value after ht =>
        have := length_of_readText ht
        cases hr : shape.readItems (count + 1) fs after with
        | error f => simp [hr, Except.map] at h
        | ok p =>
          simp only [hr, Except.map, Except.ok.injEq, Prod.mk.injEq] at h
          have := ih (v := p.1) (r := p.2) hr
          rw [← h.2]; omega

theorem length_of_readObject {shape : Shape} {values : List String} {s r : List UInt8}
    (h : shape.readObject s = .ok (values, r)) : r.length ≤ s.length := by
  unfold readObject at h
  split at h
  · simp at h
  · next hm =>
    have := length_of_readMembers hm
    split at h
    · simp only [Except.ok.injEq, Prod.mk.injEq] at h; rw [← h.2]; exact this
    · simp [failHere] at h

theorem length_of_read {shape : Shape} {values : List String} {s r : List UInt8}
    (h : shape.read s = .ok (values, r)) : r.length ≤ s.length := by
  unfold read at h
  have hb := length_skipBlanks s
  split at h
  · simp [failNext] at h
  · next b rest heq =>
    rw [heq] at hb
    simp only [List.length_cons] at hb
    split at h
    · have := length_of_readObject h; omega
    · split at h
      · have := length_of_readItems h; omega
      · exact absurd h not_ok_wrongValue

end Shape

/-! ## Tables of records -/

/-- Reads the members that are left of an object of records; `known` holds those before, the last first. -/
def readRows (shape : Shape) (known : List (String × List String)) (begun : Bool) (bytes : List UInt8) :
    Reading (List (String × List String)) :=
  match _hn : nextName begun bytes with
  | .error f => .error f
  | .ok (none, rest) => .ok (known.reverse, rest)
  | .ok (some key, rest) =>
    match _hc : readColon rest with
    | .error f => .error f
    | .ok after =>
      match _hr : shape.read after with
      | .error f => .error f
      | .ok (values, left) => readRows shape ((key, values) :: known) true left
termination_by bytes.length
decreasing_by
  have := length_of_nextName _hn
  have := length_of_readColon _hc
  have := Shape.length_of_read _hr
  omega

theorem readRows_eq (shape : Shape) (known : List (String × List String)) (begun : Bool)
    (bytes : List UInt8) : readRows shape known begun bytes =
      match nextName begun bytes with
      | .error f => .error f
      | .ok (none, rest) => .ok (known.reverse, rest)
      | .ok (some key, rest) =>
        match readColon rest with
        | .error f => .error f
        | .ok after =>
          match shape.read after with
          | .error f => .error f
          | .ok (values, left) => readRows shape ((key, values) :: known) true left := by
  rw [readRows]
  split
  · next hn => simp only [hn]
  · next hn => simp only [hn]
  · next hn =>
    simp only [hn]
    split
    · next hc => simp only [hc]
    · next hc =>
      simp only [hc]
      split
      · next hr => simp only [hr]
      · next hr => simp only [hr]

/-- Reads an object that maps keys to records, in the order of the text; null stands for an empty one. -/
def readTable (shape : Shape) (bytes : List UInt8) : Reading (List (String × List String)) :=
  match skipBlanks bytes with
  | [] => failNext .endInValue []
  | b :: rest =>
    if b = 110 then (readWord wordNull rest).map ([], ·)
    else if b = 123 then readRows shape [] false rest
    else wrongValue "a map" b rest

/-- Reads a text that holds one table. -/
def parseTable (shape : Shape) (bytes : List UInt8) : Except Failure (List (String × List String)) :=
  finish (readTable shape bytes)

end BuildCredentials.Json
