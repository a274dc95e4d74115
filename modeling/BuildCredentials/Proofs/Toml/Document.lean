import BuildCredentials.Toml.Document

/-!
# Tables under headers

A text that opens one table after another, each under a name of its own, and gives distinct names in it values
describes just these tables (`entriesOf?_sections`).
-/

set_option autoImplicit false

namespace BuildCredentials.Toml

/-- A header and the lines under it. -/
def sectionStatements (title : String) (pairs : List (String × Value)) : List Statement :=
  .table ⟨[], title⟩ :: pairs.map fun p => .assign ⟨[], p.1⟩ p.2

/-- The values of names as what stands at these names. -/
def valueEntries (pairs : List (String × Value)) : Entries := pairs.map fun p => (p.1, .value p.2)

theorem toValues_valueEntries (pairs : List (String × Value)) : toValues (valueEntries pairs) = pairs := by
  induction pairs with
  | nil => rfl
  | cons p pairs ih => exact congrArg (p :: ·) ih

variable {entries front inner : Entries} {name title : String} {i : Item} {p : Progress}

namespace Entries

theorem set_of_lookup_none (h : entries.lookup name = none) : entries.set name i = entries ++ [(name, i)] := by
  induction entries with
  | nil => rfl
  | cons e entries ih =>
    rw [List.lookup_eq_none_iff, List.forall_mem_cons] at h
    have hne : e.1 ≠ name := fun he => by simp [he] at h
    rw [set, if_neg hne, ih (List.lookup_eq_none_iff.2 h.2), List.cons_append]

/-- What stands at the last name is put in its place. -/
theorem set_last (h : front.lookup name = none) (j : Item) :
    Entries.set name i (front ++ [(name, j)]) = front ++ [(name, i)] := by
  induction front with
  | nil => simp [set]
  | cons e front ih =>
    rw [List.lookup_eq_none_iff, List.forall_mem_cons] at h
    have hne : e.1 ≠ name := fun he => by simp [he] at h
    rw [List.cons_append, set, if_neg hne, ih (List.lookup_eq_none_iff.2 h.2), List.cons_append]

theorem lookup_last (h : front.lookup name = none) (j : Item) : (front ++ [(name, j)]).lookup name = some j := by
  simp [List.lookup_append, h]

end Entries

/-! ## Steps -/

theorem step_table (h : p.entries.lookup title = none) :
    p.step (.table ⟨[], title⟩) = some ⟨p.entries ++ [(title, .table .header [])], [title]⟩ := by
  simp [Progress.step, Entries.at, Entries.openTable, h, Entries.set_of_lookup_none h]

theorem step_assign (ht : front.lookup title = none) (hn : inner.lookup name = none) (v : Value) :
    Progress.step ⟨front ++ [(title, .table .header inner)], [title]⟩ (.assign ⟨[], name⟩ v) =
      some ⟨front ++ [(title, .table .header (inner ++ [(name, .value v)]))], [title]⟩ := by
  simp [Progress.step, Entries.at, Entries.lookup_last ht, Entries.assign, hn, Entries.set_of_lookup_none hn,
    Entries.set_last ht]

/-- The lines under a header add to the table that it opened. -/
theorem foldlM_assigns (ht : front.lookup title = none) {pairs : List (String × Value)}
    (hfresh : ∀ p ∈ pairs, inner.lookup p.1 = none) (hd : (pairs.map (·.1)).Nodup) :
    (pairs.map fun p => .assign ⟨[], p.1⟩ p.2).foldlM Progress.step
        ⟨front ++ [(title, .table .header inner)], [title]⟩ =
      some ⟨front ++ [(title, .table .header (inner ++ valueEntries pairs))], [title]⟩ := by
  induction pairs generalizing inner with
  | nil => simp [valueEntries]
  | cons p pairs ih =>
    obtain ⟨hp, hfresh⟩ := List.forall_mem_cons.1 hfresh
    obtain ⟨hnew, hd⟩ := List.nodup_cons.1 hd
    -- The other names are still free in the table that has one more.
    have hstill : ∀ q ∈ pairs, (inner ++ [(p.1, Item.value p.2)]).lookup q.1 = none := by
      intro q hq
      have hne : q.1 ≠ p.1 := fun he => hnew (List.mem_map.2 ⟨q, hq, he⟩)
      simp [List.lookup_append, hfresh q hq, hne]
    rw [List.map_cons, List.foldlM_cons, step_assign ht hp, Option.bind_eq_bind, Option.bind_some, ih hstill hd]
    simp [valueEntries]

theorem foldlM_section (ht : p.entries.lookup title = none) {pairs : List (String × Value)}
    (hd : (pairs.map (·.1)).Nodup) :
    (sectionStatements title pairs).foldlM Progress.step p =
      some ⟨p.entries ++ [(title, .table .header (valueEntries pairs))], [title]⟩ := by
  rw [sectionStatements, List.foldlM_cons, step_table ht, Option.bind_eq_bind, Option.bind_some,
    foldlM_assigns ht (fun _ _ => rfl) hd, List.nil_append]

/-! ## Whole texts -/

theorem foldlM_sections {sections : List (String × List (String × Value))}
    (hfresh : ∀ s ∈ sections, p.entries.lookup s.1 = none) (hd : (sections.map (·.1)).Nodup)
    (hpairs : ∀ s ∈ sections, (s.2.map (·.1)).Nodup) :
    ∃ current, (sections.flatMap fun s => sectionStatements s.1 s.2).foldlM Progress.step p =
      some ⟨p.entries ++ sections.map fun s => (s.1, .table .header (valueEntries s.2)), current⟩ := by
  induction sections generalizing p with
  | nil => exact ⟨p.current, by simp⟩
  | cons s sections ih =>
    obtain ⟨hs, hfresh⟩ := List.forall_mem_cons.1 hfresh
    obtain ⟨hnew, hd⟩ := List.nodup_cons.1 hd
    obtain ⟨hnames, hpairs⟩ := List.forall_mem_cons.1 hpairs
    have hstill : ∀ t ∈ sections,
        (p.entries ++ [(s.1, Item.table .header (valueEntries s.2))]).lookup t.1 = none := by
      intro t ht
      have hne : t.1 ≠ s.1 := fun he => hnew (List.mem_map.2 ⟨t, ht, he⟩)
      simp [List.lookup_append, hfresh t ht, hne]
    obtain ⟨current, hcurrent⟩ := ih (p := ⟨_, [s.1]⟩) hstill hd hpairs
    refine ⟨current, ?_⟩
    rw [List.flatMap_cons, List.foldlM_append, foldlM_section hs hnames, Option.bind_eq_bind, Option.bind_some, hcurrent]
    simp

theorem toValues_tables (sections : List (String × List (String × Value))) :
    toValues (sections.map fun s => (s.1, .table .header (valueEntries s.2))) =
      sections.map fun s => (s.1, .table s.2) := by
  induction sections with
  | nil => rfl
  | cons s sections ih => simp [toValues, Item.toValue, toValues_valueEntries, ih]

theorem entriesOf?_sections {sections : List (String × List (String × Value))} (hd : (sections.map (·.1)).Nodup)
    (hpairs : ∀ s ∈ sections, (s.2.map (·.1)).Nodup) :
    entriesOf? (sections.flatMap fun s => sectionStatements s.1 s.2) = some (sections.map fun s => (s.1, .table s.2)) := by
  obtain ⟨current, hcurrent⟩ := foldlM_sections (p := {}) (fun _ _ => rfl) hd hpairs
  rw [entriesOf?, hcurrent, Option.map_some, List.nil_append, toValues_tables]

end BuildCredentials.Toml
