import BuildCredentials.Proofs.Settings.Fields
import BuildCredentials.Proofs.Toml.Document
import BuildCredentials.Proofs.Toml.Statement
import BuildCredentials.Settings.Document

/-!
# Settings are read as they were written

Settings that a file can have are written, and what is read from what was written are these settings
(`parse?_write?`). What is read from any text are settings that a file can have (`fits_of_parse?`), so that they can be
written as long as nothing is changed.
-/

set_option autoImplicit false

namespace BuildCredentials.Settings

open Toml (Value Says)

variable {s u w : Settings} {setting : Setting} {rest : List Char} {title : String}

/-- A settings file can have all that is said. -/
def Fits (s : Settings) : Prop := ∀ setting : Setting, setting.Fits (s.get setting)

theorem fits_default : Fits {} := by
  intro setting
  cases setting with
  | headerSeconds => exact (by decide : (10 : UInt64).toNat ≤ Setting.greatestInteger)
  | dialSeconds => exact (by decide : (5 : UInt64).toNat ≤ Setting.greatestInteger)
  | _ => trivial

theorem Fits.put (h : s.Fits) {v : setting.Kind} (hv : setting.Fits v) : (s.put setting v).Fits := by
  intro other
  by_cases ho : other = setting
  · subst ho
    rwa [get_put_self]
  · rw [get_put_of_ne ho]
    exact h other

/-! ## What is written -/

section
variable {α β : Type} {f : α → Option β} {l : List α}

theorem mapM_of_forall {g : α → β} (h : ∀ a ∈ l, f a = some (g a)) : l.mapM f = some (l.map g) := by
  induction l with
  | nil => rfl
  | cons a l ih =>
    obtain ⟨ha, h⟩ := List.forall_mem_cons.1 h
    simp [ha, ih h]

theorem exists_of_mapM {r : List β} (h : l.mapM f = some r) : ∀ a ∈ l, ∃ b, f a = some b := by
  induction l generalizing r with
  | nil => simp
  | cons a l ih =>
    simp only [List.mapM_cons, Option.bind_eq_bind, Option.bind_eq_some_iff] at h
    obtain ⟨b, hb, _, hr, -⟩ := h
    exact List.forall_mem_cons.2 ⟨⟨b, hb⟩, ih hr⟩

end

/-- The line of a setting. -/
def lineOf (s : Settings) (setting : Setting) : List Char :=
  setting.name.toList ++ [' ', '=', ' '] ++ writeValue (setting.valueOf (s.get setting)) ++ ['\n']

/-- The text of a section. -/
def sectionOf (s : Settings) (title : String) : List Char :=
  '[' :: (title.toList ++ [']', '\n'] ++ ((Setting.ofSection title).map s.lineOf).flatten)

/-- The whole text. -/
def text (s : Settings) : List Char := ['\n'].intercalate (Setting.sections.map s.sectionOf)

theorem write?_of_fits (h : s.Fits) : s.write? = some (String.ofList s.text) := by
  have hline (setting : Setting) : s.line? setting = some (s.lineOf setting) := by
    rw [line?, Setting.toValue?_of_fits (h setting)]
    rfl
  have hsection (title : String) : s.section? title = some (s.sectionOf title) := by
    rw [section?, mapM_of_forall fun setting _ => hline setting]
    rfl
  rw [write?, mapM_of_forall fun title _ => hsection title]
  rfl

theorem mem_sections (setting : Setting) : setting.sectionName ∈ Setting.sections := by
  cases setting <;> decide

theorem mem_ofSection (setting : Setting) : setting ∈ Setting.ofSection setting.sectionName :=
  List.mem_filter.2 ⟨setting.mem_all, by simp⟩

theorem fits_of_write? {text : String} (h : s.write? = some text) : s.Fits := by
  intro setting
  obtain ⟨sections, hsections, -⟩ := Option.bind_eq_some_iff.1 h
  obtain ⟨t, ht⟩ := exists_of_mapM hsections _ (mem_sections setting)
  obtain ⟨lines, hlines, -⟩ := Option.bind_eq_some_iff.1 ht
  obtain ⟨line, hline⟩ := exists_of_mapM hlines _ (mem_ofSection setting)
  obtain ⟨v, hv, -⟩ := Option.map_eq_some_iff.1 hline
  exact Setting.fits_of_toValue? hv

/-! ## The values that are written -/

theorem length_le_flatMap_itemLine (items : List String) : items.length ≤ (items.flatMap itemLine).length := by
  induction items with
  | nil => exact Nat.le_refl _
  | cons item items ih =>
    have hline : 0 < (itemLine item).length := by simp [itemLine]
    rw [List.flatMap_cons, List.length_append, List.length_cons]
    omega

theorem readValue_writeItems (depth : Nat) (items : List String) :
    Toml.readValue (depth + 1) (writeItems items ++ rest) = some (.array (items.map .text), rest) := by
  match items with
  | [] => exact Toml.readValue_array (Toml.readItems_closing (Toml.skipGap_ends (by decide) _) _)
  | [item] =>
    obtain ⟨q, t, hwrite, hq⟩ := Toml.exists_quote_write item.toList
    obtain ⟨hgap, hclosing⟩ := Toml.endsGap_of_quote hq
    have hread : Toml.readValue depth (Toml.Text.write item.toList ++ ']' :: rest) = some (.text item, _) :=
      Toml.readValue_text item (by simp)
    simp only [writeItems, hwrite, List.append_assoc, List.cons_append, List.nil_append] at hread ⊢
    exact Toml.readValue_array
      (Toml.readItems_last (Toml.skipGap_ends hgap _) hclosing hread (Toml.skipGap_ends (by decide) _))
  | first :: second :: more =>
    have hlength := length_le_flatMap_itemLine (first :: second :: more)
    have hshape : writeItems (first :: second :: more) ++ rest =
        '[' :: '\n' :: ((first :: second :: more).flatMap itemLine ++ ']' :: rest) := by
      simp [writeItems]
    rw [hshape]
    refine Toml.readValue_array (Toml.readItems_lines 4 _ ?_)
    simp only [List.length_cons, List.length_append] at hlength ⊢
    omega

theorem toList_toString_natCast (n : Nat) : (toString (n : Int)).toList = Nat.toDigits 10 n := by
  simp [Int.toString_eq_repr, Int.repr]

theorem isWordChar_of_isDigit {c : Char} (h : c.isDigit) : Toml.Scalar.isWordChar c := by
  simp [Toml.Scalar.isWordChar, Char.isAlphanum, h]

/-- A whole number is read as it was written. -/
theorem readValue_digits {n : Nat} (h : n ≤ Setting.greatestInteger) :
    Toml.readValue Toml.depthLimit (writeValue (.integer n) ++ '\n' :: rest) = some (.integer n, '\n' :: rest) := by
  rw [writeValue, toList_toString_natCast]
  refine Toml.readValue_word Nat.toDigits_ne_nil ?_ (by simp; decide) (Toml.Scalar.ofWord?_digits ?_)
  · intro c hc
    exact isWordChar_of_isDigit (Toml.Scalar.isDigit_of_mem_toDigits hc)
  · have hmax : Int64.maxValue.toInt = Setting.greatestInteger := by decide
    omega

theorem readValue_boolean (b : Bool) :
    Toml.readValue Toml.depthLimit (writeValue (.boolean b) ++ '\n' :: rest) = some (.boolean b, '\n' :: rest) := by
  have hword : (toString b).toList.all Toml.Scalar.isWordChar := by cases b <;> decide
  have hvalue : Toml.Scalar.ofWord? (toString b).toList = some (.boolean b) := by cases b <;> rfl
  exact Toml.readValue_word (by cases b <;> decide) (List.all_eq_true.1 hword) (by simp; decide) hvalue

theorem writeValue_texts (ts : List String) : writeValue (.array (ts.map .text)) = writeItems ts := by
  rw [writeValue, List.filterMap_map]
  exact congrArg writeItems List.filterMap_some

theorem readValue_writeValue {v : setting.Kind} (h : setting.Fits v) :
    Toml.readValue Toml.depthLimit (writeValue (setting.valueOf v) ++ '\n' :: rest) =
      some (setting.valueOf v, '\n' :: rest) := by
  cases setting with
  | verbose | auditLog => exact readValue_boolean v
  | logFormat | socketPath | engine => exact Toml.readValue_text v (by simp)
  | socketMode => exact readValue_digits (Nat.le_trans (Nat.le_of_lt v.toNat_lt) (by decide))
  | headerSeconds | dialSeconds => exact readValue_digits h
  | engineArgs =>
    rw [Setting.valueOf, writeValue_texts]
    exact readValue_writeItems 78 v

/-! ## The whole text -/

/-- What a section says: a value for each of its settings. -/
def pairsOf (s : Settings) (title : String) : List (String × Value) :=
  (Setting.ofSection title).map fun setting => (setting.name, setting.valueOf (s.get setting))

/-- What all sections say. -/
def sectionsOf (s : Settings) : List (String × List (String × Value)) :=
  Setting.sections.map fun title => (title, s.pairsOf title)

theorem bare_name (setting : Setting) : setting.name.toList ≠ [] ∧ ∀ c ∈ setting.name.toList, Toml.isBare c := by
  have hbare : setting.name.toList.all Toml.isBare := by cases setting <;> decide
  exact ⟨by cases setting <;> decide, List.all_eq_true.1 hbare⟩

theorem mem_sections_iff :
    title ∈ Setting.sections ↔ title = "general" ∨ title = "credential" ∨ title = "helper" ∨ title = "build" := by
  simp [Setting.sections]

theorem bare_title (ht : title ∈ Setting.sections) : title.toList ≠ [] ∧ ∀ c ∈ title.toList, Toml.isBare c := by
  have hbare : title.toList ≠ [] ∧ title.toList.all Toml.isBare := by
    rcases mem_sections_iff.1 ht with rfl | rfl | rfl | rfl <;> decide
  exact ⟨hbare.1, List.all_eq_true.1 hbare.2⟩

theorem nodup_names (ht : title ∈ Setting.sections) : ((Setting.ofSection title).map (·.name)).Nodup := by
  rcases mem_sections_iff.1 ht with rfl | rfl | rfl | rfl <;> decide

variable {statements : List Toml.Statement}

theorem says_line (h : s.Fits) (setting : Setting) (hrest : Says rest statements) :
    Says (s.lineOf setting ++ rest)
      (.assign ⟨[], setting.name⟩ (setting.valueOf (s.get setting)) :: statements) := by
  obtain ⟨hne, hb⟩ := bare_name setting
  have hvalue : Toml.readValue Toml.depthLimit _ = some (_, '\n' :: rest) := readValue_writeValue (h setting)
  have hread := Toml.readStatement_assign hne hb hvalue
  have hshape : s.lineOf setting ++ rest = setting.name.toList ++
      ' ' :: '=' :: ' ' :: (writeValue (setting.valueOf (s.get setting)) ++ '\n' :: rest) := by
    simp [lineOf]
  rw [String.ofList_toList] at hread
  rw [hshape]
  obtain ⟨c, t, hc⟩ := List.exists_cons_of_ne_nil hne
  rw [hc, List.cons_append] at hread ⊢
  exact hrest.line (Toml.endsGap_of_isBare (hb c (hc ▸ .head _))) hread (by simp; omega)

theorem says_lines (h : s.Fits) (settings : List Setting) (hrest : Says rest statements) :
    Says ((settings.map s.lineOf).flatten ++ rest)
      ((settings.map fun setting => .assign ⟨[], setting.name⟩ (setting.valueOf (s.get setting))) ++ statements) := by
  induction settings with
  | nil => exact hrest
  | cons setting settings ih =>
    rw [List.map_cons, List.flatten_cons, List.append_assoc]
    exact says_line h setting ih

theorem says_section (h : s.Fits) (ht : title ∈ Setting.sections) (hrest : Says rest statements) :
    Says (s.sectionOf title ++ rest) (Toml.sectionStatements title (s.pairsOf title) ++ statements) := by
  obtain ⟨hne, hb⟩ := bare_title ht
  have hlines := says_lines h (Setting.ofSection title) hrest
  have hread := Toml.readStatement_table hne hb (((Setting.ofSection title).map s.lineOf).flatten ++ rest)
  rw [String.ofList_toList] at hread
  simp only [sectionOf, Toml.sectionStatements, pairsOf, List.map_map, List.cons_append, List.append_assoc,
    List.nil_append]
  exact Says.line (by decide) hread (by simp; omega) hlines

theorem says_sections (h : s.Fits) {titles : List String} (ht : ∀ title ∈ titles, title ∈ Setting.sections) :
    Says (['\n'].intercalate (titles.map s.sectionOf))
      (titles.flatMap fun title => Toml.sectionStatements title (s.pairsOf title)) := by
  match titles with
  | [] => exact Toml.says_nil
  | [title] => simpa using says_section h (ht title (.head _)) Toml.says_nil
  | first :: second :: more =>
    obtain ⟨hfirst, hmore⟩ := List.forall_mem_cons.1 ht
    have hsay := says_section h hfirst (says_sections h hmore).blank
    simpa [List.intercalate_cons_cons] using hsay

/-- The text describes all sections, and all that they say. -/
theorem parse_text (h : s.Fits) :
    Toml.parse (String.ofList s.text) = some (s.sectionsOf.map fun p => (p.1, .table p.2)) := by
  have hsays : Says s.text (s.sectionsOf.flatMap fun p => Toml.sectionStatements p.1 p.2) := by
    rw [sectionsOf, List.flatMap_map]
    exact says_sections h fun _ ht => ht
  have hmark : s.text.head? ≠ some '\uFEFF' := by
    show some '[' ≠ _
    decide
  rw [Toml.parse_of_says hsays hmark]
  refine Toml.entriesOf?_sections ?_ ?_
  · simp only [sectionsOf, List.map_map, Function.comp_def, List.map_id']
    decide
  · intro p hp
    obtain ⟨title, ht, rfl⟩ := List.mem_map.1 hp
    simpa only [pairsOf, List.map_map, Function.comp_def] using nodup_names ht

/-! ## Reading -/

section
variable {α β : Type} {k : α → String} {g : α → β} {a : α} {l : List α}

theorem lookup_map (hd : (l.map k).Nodup) (ha : a ∈ l) :
    (l.map fun b => (k b, g b)).lookup (k a) = some (g a) := by
  induction l with
  | nil => cases ha
  | cons b l ih =>
    obtain ⟨hnew, hd⟩ := List.nodup_cons.1 hd
    rw [List.map_cons, List.lookup_cons]
    rcases List.mem_cons.1 ha with rfl | ha
    · simp
    · have hne : k a ≠ k b := fun he => hnew (he ▸ List.mem_map_of_mem ha)
      simp only [beq_false_of_ne hne, ih hd ha]

end

/-- A text that describes settings says of each what they say. -/
theorem follow_sectionsOf (s u : Settings) (setting : Setting) :
    follow (s.sectionsOf.map fun p => (p.1, .table p.2)) u setting = some (u.put setting (s.get setting)) := by
  have hsection : (s.sectionsOf.map fun p => (p.1, Value.table p.2)).lookup setting.sectionName =
      some (.table (s.pairsOf setting.sectionName)) := by
    rw [sectionsOf, List.map_map]
    exact lookup_map (k := id) (g := fun title => Value.table (s.pairsOf title)) (by decide) (mem_sections setting)
  have hmember : (s.pairsOf setting.sectionName).lookup setting.name = some (setting.valueOf (s.get setting)) :=
    lookup_map (nodup_names (mem_sections setting)) (mem_ofSection setting)
  rw [follow, hsection]
  simp only [isSection, Bool.not_true, Bool.false_eq_true, if_false, member?, hmember]
  exact setting.ofValue?_valueOf u _

theorem foldlM_follow (s : Settings) (settings : List Setting) (u : Settings) :
    ∃ w, settings.foldlM (follow (s.sectionsOf.map fun p => (p.1, .table p.2))) u = some w ∧
      ∀ setting, w.get setting = if setting ∈ settings then s.get setting else u.get setting := by
  induction settings generalizing u with
  | nil => exact ⟨u, rfl, by simp⟩
  | cons first settings ih =>
    obtain ⟨w, hw, hget⟩ := ih (u.put first (s.get first))
    refine ⟨w, by rw [List.foldlM_cons, follow_sectionsOf, Option.bind_eq_bind, Option.bind_some, hw], ?_⟩
    intro setting
    rw [hget]
    by_cases hf : setting = first
    · subst hf
      simp
    · simp [hf, get_put_of_ne hf]

theorem parse?_of_fits (h : s.Fits) : parse? (String.ofList s.text) = some s := by
  -- Every setting is followed, so that nothing is left of the settings that reading begins with.
  obtain ⟨w, hw, hget⟩ := foldlM_follow s Setting.all {}
  have hws : w = s := ext_get fun setting => by rw [hget, if_pos setting.mem_all]
  rw [parse?, parse_text h, Option.bind_eq_bind, Option.bind_some, hw, hws]

/-- What was written is read again. -/
theorem parse?_write? {text : String} (h : s.write? = some text) : parse? text = some s := by
  have hfits := fits_of_write? h
  cases (write?_of_fits hfits).symm.trans h
  exact parse?_of_fits hfits

/-! ## What any text says -/

/-- What a section says of a setting is in range if all in it is. -/
theorem bounded_of_member? {v w : Value} (hb : v.Bounded) (h : member? setting v = some w) : w.Bounded := by
  cases hb with
  | table hb =>
    obtain ⟨front, back, rfl, -⟩ := List.lookup_eq_some_iff.1 h
    exact hb (setting.name, w) (by simp)
  | array hb => exact hb w (List.mem_of_getElem? h)
  | _ => cases h

theorem fits_of_follow {entries : List (String × Value)} (hb : ∀ e ∈ entries, e.2.Bounded) (hs : s.Fits)
    (h : follow entries s setting = some u) : u.Fits := by
  unfold follow at h
  split at h
  · exact Option.some.inj h ▸ hs
  · rename_i v hv
    obtain ⟨front, back, rfl, -⟩ := List.lookup_eq_some_iff.1 hv
    have hv : v.Bounded := hb (setting.sectionName, v) (by simp)
    split at h
    · cases h
    · split at h
      · exact Option.some.inj h ▸ hs
      · rename_i hw
        obtain ⟨w, rfl, hw⟩ := Setting.put_of_ofValue? (bounded_of_member? hv hw) h
        exact hs.put hw

theorem fits_of_parse? {text : String} (h : parse? text = some s) : s.Fits := by
  obtain ⟨entries, hentries, h⟩ := Option.bind_eq_some_iff.1 h
  have hb := Toml.bounded_of_parse hentries
  exact Toml.foldlM_keeps (P := Fits) (Q := fun _ => True) (fun _ _ _ hs _ hf => fits_of_follow hb hs hf) fits_default
    (fun _ _ => trivial) h

end BuildCredentials.Settings
