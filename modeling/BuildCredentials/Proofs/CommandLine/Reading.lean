import BuildCredentials.Proofs.CommandLine.Words
import BuildCredentials.Proofs.Results

/-!
# What words are read as

Whatever words are read as a command, it is a proper one (`Command.proper_of_read`): each step of reading keeps what is
given fit for its argument, and the checks at the end of each level do the rest. With the words of commands this says
just which commands can be said (`Command.exists_read_iff`).
-/

set_option autoImplicit false

namespace BuildCredentials.CommandLine

/-- A context that was given does not look like an option. -/
def PlainContext (p : Argument × List String) : Prop := p.1 = .context → ∀ v ∈ p.2, IsPlain v

/-- What a level was given is fit for its arguments. -/
structure Scan.Sound (s : Scan) : Prop where
  given : ∀ p ∈ s.given, (p.1.takesValue → p.2 ≠ []) ∧ Scan.fits p.1 p.2 ∧ PlainContext p
  pending : ∀ p ∈ s.pending?, PlainContext p

section
variable {environment? : Option String} {level : Level} {s t : Scan} {w : String} {a : Argument}
  {values : List String}

/-! ## One word -/

theorem record_of_ok (h : s.record a values = .ok t) :
    ((a.takesValue → values ≠ []) ∧ Scan.fits a values) ∧ t = { s with given := s.given ++ [(a, values)] } := by
  unfold Scan.record at h
  split at h
  · cases h
  · rename_i harity
    split at h
    · cases h
    · split at h
      · cases h
      · rename_i hfits
        cases h
        exact ⟨⟨fun hv he => harity ⟨hv, he⟩, by simpa using hfits⟩, rfl⟩

theorem sound_empty : Scan.Sound {} := ⟨List.forall_mem_nil _, fun _ h => nomatch h⟩

namespace Scan.Sound

theorem record (hs : s.Sound) (hp : PlainContext (a, values)) (h : s.record a values = .ok t) : t.Sound := by
  obtain ⟨⟨harity, hfits⟩, rfl⟩ := record_of_ok h
  refine ⟨fun p hmem => ?_, hs.pending⟩
  rcases List.mem_append.1 hmem with hmem | hmem
  · exact hs.given p hmem
  · cases List.mem_singleton.1 hmem
    exact ⟨harity, hfits, hp⟩

/-- Another argument may be open. -/
theorem of_pending {p? : Option (Argument × List String)} (hs : s.Sound) (hp : ∀ p ∈ p?, PlainContext p)
    (awaiting ended : Bool) (placed : Nat) : Scan.Sound ⟨s.given, p?, awaiting, ended, placed⟩ := ⟨hs.given, hp⟩

theorem settle (hs : s.Sound) (h : s.settle = .ok t) : t.Sound := by
  unfold Scan.settle at h
  split at h
  · cases h
    exact hs
  · rename_i p hp
    have hnone : ∀ p ∈ (none : Option (Argument × List String)), PlainContext p := nofun
    have hclosed : Scan.Sound ⟨s.given, none, false, s.ended, s.placed⟩ := hs.of_pending hnone _ _ _
    exact hclosed.record (hs.pending _ hp) h

theorem take (hs : s.Sound) (ha : a ≠ .context) (h : s.take level a values = .ok t) : t.Sound := by
  obtain ⟨u, hu, h⟩ := bind_eq_ok.1 h
  have hu := hs.settle hu
  have hp : PlainContext (a, values) := fun hc => absurd hc ha
  cases a with
  | help | version => cases h
  | _ => exact hu.record hp h

theorem await (hs : s.Sound) (ha : a ≠ .context) (h : s.await a = .ok t) : t.Sound := by
  obtain ⟨u, hu, h⟩ := bind_eq_ok.1 h
  cases h
  refine (hs.settle hu).of_pending (fun p hp => ?_) _ _ _
  cases hp
  exact fun hc => absurd hc ha

theorem ne_context_of_lookup {α : Type} [BEq α] [LawfulBEq α] {names : List (α × Argument)} {name : α}
    (hn : ∀ p ∈ names, p.2 ≠ .context) (h : names.lookup name = some a) : a ≠ .context := by
  obtain ⟨before, after, rfl, -⟩ := List.lookup_eq_some_iff.1 h
  exact hn (name, a) (by simp)

theorem ne_context_of_long? {name : String} (h : level.long? name = some a) : a ≠ .context :=
  ne_context_of_lookup (by cases level <;> decide) h

theorem ne_context_of_short? {letter : Char} (h : level.short? letter = some a) : a ≠ .context :=
  ne_context_of_lookup (by cases level <;> decide) h

theorem long {name : String} {attached? : Option String} (hs : s.Sound) (h : s.long level name attached? = .ok t) :
    t.Sound := by
  unfold Scan.long at h
  split at h
  · cases h
  · rename_i hl
    split at h
    · exact hs.take (ne_context_of_long? hl) h
    · cases h
  · rename_i hl
    split at h
    · exact hs.await (ne_context_of_long? hl) h
    · exact hs.take (ne_context_of_long? hl) h

theorem short {letters : List Char} (hs : s.Sound) (h : s.short level letters = .ok t) : t.Sound := by
  induction letters generalizing s with
  | nil =>
    cases h
    exact hs
  | cons c rest ih =>
    rw [Scan.short] at h
    split at h
    · cases h
    · rename_i hl
      have ha := ne_context_of_short? hl
      split at h
      · obtain ⟨u, hu, h⟩ := bind_eq_ok.1 h
        exact ih (hs.take ha hu) h
      · split at h
        · exact hs.await ha h
        · exact hs.take ha h
        · exact hs.take ha h

/-- Behind two dashes there is no place for a context. -/
theorem place (hs : s.Sound) (hw : s.ended = false → IsPlain w) (h : s.place level w = .ok t) : t.Sound := by
  unfold Scan.place at h
  split at h
  · rename_i b _ hb
    have hne : b ≠ .context := by
      cases level with
      | build =>
        cases hb
        decide
      | _ => cases hb
    have hplain (values : List String) : ∀ p ∈ some (b, values), PlainContext p := by
      intro p hp
      cases hp
      exact fun hc => absurd hc hne
    split at h
    · split at h
      · cases h
        exact hs.of_pending (hplain _) _ _ _
      · obtain ⟨u, hu, rfl⟩ := map_eq_ok.1 h
        exact (hs.settle hu).of_pending (hplain _) _ _ _
    · cases h
      exact hs.of_pending (hplain _) _ _ _
  · rename_i hrest
    split at h
    · rename_i b hb
      obtain ⟨u, hu, rfl⟩ := map_eq_ok.1 h
      refine (hs.settle hu).of_pending (fun p hp hc => ?_) _ _ _
      cases hp
      -- Only a build has a place for a context, and all words behind its two dashes are for the engine.
      have hbuild : level = .build := by
        have hmem : .context ∈ level.places := hc ▸ List.mem_of_getElem? hb
        cases level <;> first | rfl | exact absurd hmem (by decide)
      rw [List.forall_mem_singleton]
      refine hw ?_
      cases he : s.ended with
      | false => rfl
      | true => exact (hrest .engineArgs he (hbuild ▸ rfl)).elim
    · split at h <;> cases h

theorem isPlain_of_toList (hl : ∀ c cs, w.toList = '-' :: c :: cs → False) : IsPlain w := by
  cases hcs : w.toList with
  | nil => exact .inr (by simp [hcs])
  | cons c cs =>
    by_cases hc : c = '-'
    · subst hc
      cases cs with
      | nil => exact .inl (String.toList_inj.1 hcs)
      | cons d cs => exact (hl d cs hcs).elim
    · exact .inr (by simp [hcs, hc])

/-- A word keeps what is given fit. -/
theorem word (hs : s.Sound) (h : s.word level w = .ok t) : t.Sound := by
  unfold Scan.word at h
  dsimp only at h
  split at h
  · rename_i he
    exact hs.place (fun hn => absurd (hn.symm.trans he) (by decide)) h
  · split at h
    · cases h
      exact hs.of_pending hs.pending _ _ _
    · exact hs.long h
    · exact hs.short h
    · rename_i hl
      have hplain : IsPlain w := isPlain_of_toList hl
      split at h
      · cases h
        refine hs.of_pending (fun p hp hc v hv => ?_) _ _ _
        obtain ⟨q, hq, rfl⟩ := Option.map_eq_some_iff.1 hp
        rcases List.mem_append.1 hv with hv | hv
        · exact hs.pending q hq hc v hv
        · cases List.mem_singleton.1 hv
          exact hplain
      · exact hs.place (fun _ => hplain) h

end Scan.Sound

/-! ## Levels -/

/-- What the check of a level says. -/
structure Checked (environment? : Option String) (level : Level) (s : Scan) : Prop where
  path : s.has .settingsPath = true ∨ environment? ≠ some ""
  conflicts : ∀ c ∈ level.conflicts, s.has c.1 = false ∨ s.has c.2 = false

theorem check_of_ok {entered : Bool} (h : s.check level environment? entered = .ok t) :
    s.settle = .ok t ∧ Checked environment? level t := by
  obtain ⟨u, hu, h⟩ := bind_eq_ok.1 h
  dsimp only at h
  split at h
  · cases h
  · rename_i hpath
    split at h
    · split at h <;> cases h
    · split at h
      · cases h
      · rename_i hconflicts
        split at h
        · cases h
        · cases h
          refine ⟨hu, ?_, fun c hc => ?_⟩
          · by_cases hp : t.has .settingsPath = true
            · exact .inl hp
            · exact .inr fun he => hpath ⟨by simp [hp], he⟩
          · have hboth : ¬(t.has c.1 && t.has c.2) = true := fun hb => hconflicts (List.any_eq_true.2 ⟨c, hc, hb⟩)
            cases hfirst : t.has c.1 with
            | false => exact .inl rfl
            | true => exact .inr (by simpa [hfirst] using hboth)

/-- A level that was read through. -/
def Read (environment? : Option String) (l : Level × Scan) : Prop := l.2.Sound ∧ Checked environment? l.1 l.2

theorem read_of_check {entered : Bool} (hs : s.Sound) (h : s.check level environment? entered = .ok t) :
    Read environment? (level, t) := by
  obtain ⟨hsettle, hchecked⟩ := check_of_ok h
  exact ⟨hs.settle hsettle, hchecked⟩

/-- All levels are read through, whatever the words. -/
theorem read_of_scan_ok {words : List String} {levels : List (Level × Scan)} (hs : s.Sound)
    (h : scan environment? level s words = .ok levels) : levels ≠ [] ∧ ∀ l ∈ levels, Read environment? l := by
  induction words generalizing level s levels with
  | nil =>
    obtain ⟨t, ht, rfl⟩ := map_eq_ok.1 h
    exact ⟨List.cons_ne_nil _ _, List.forall_mem_singleton.2 (read_of_check hs ht)⟩
  | cons w words ih =>
    rw [scan] at h
    split at h
    · cases h
    · split at h
      · obtain ⟨below, hbelow, h⟩ := bind_eq_ok.1 h
        obtain ⟨t, ht, h⟩ := bind_eq_ok.1 h
        cases h
        exact ⟨List.cons_ne_nil _ _, List.forall_mem_cons.2 ⟨read_of_check hs ht, (ih sound_empty hbelow).2⟩⟩
      · obtain ⟨t, ht, h⟩ := bind_eq_ok.1 h
        exact ih (hs.word ht) h

/-! ## Commands -/

theorem mem_of_value? {v : String} (h : s.value? a = some v) : ∃ values, (a, values) ∈ s.given ∧ v ∈ values := by
  rw [Scan.value?, Scan.values] at h
  cases hl : s.given.lookup a with
  | none =>
    rw [hl] at h
    cases h
  | some values =>
    obtain ⟨before, after, hgiven, -⟩ := List.lookup_eq_some_iff.1 hl
    rw [hl] at h
    exact ⟨values, by simp [hgiven], List.mem_of_head? h⟩

theorem value?_ne_empty (hs : s.Sound) (ha : a.taking = .path) : s.value? a ≠ some "" := by
  intro h
  obtain ⟨values, hmem, hv⟩ := mem_of_value? h
  have hfits := (hs.given _ hmem).2.1
  simp only [Scan.fits, ha, ne_eq, not_true_eq_false, decide_false, Bool.false_or] at hfits
  exact absurd (List.all_eq_true.1 hfits _ hv) (by decide)

/-- An argument that takes a value and was given has one. -/
theorem value?_ne_none (hs : s.Sound) (ha : a.takesValue) (h : s.has a = true) : s.value? a ≠ none := by
  obtain ⟨p, hmem, hp⟩ := List.any_eq_true.1 h
  have hp : p.1 = a := of_decide_eq_true hp
  cases hl : s.given.lookup a with
  | none => exact absurd (List.lookup_eq_none_iff.1 hl p hmem) (by simp [hp])
  | some values =>
    obtain ⟨before, after, hgiven, -⟩ := List.lookup_eq_some_iff.1 hl
    have harity : values ≠ [] := (hs.given (a, values) (by simp [hgiven])).1 ha
    rw [Scan.value?, Scan.values, hl]
    simpa using harity

namespace Command

variable {words : List String} {c : Command} {levels : List (Level × Scan)}

theorem verbosityOf_le (levels : List (Level × Scan)) : verbosityOf levels ≤ Scan.countLimit := by
  show ((levels.map fun l => l.2.count .verbose).filter (0 < ·)).getLast?.getD 0 ≤ Scan.countLimit
  generalize hcounts : (levels.map fun l => l.2.count .verbose) = counts
  cases hlast : (counts.filter (0 < ·)).getLast? with
  | none => exact Nat.zero_le _
  | some n =>
    have hmem : n ∈ counts := (List.mem_filter.1 (List.mem_of_getLast? hlast)).1
    rw [← hcounts] at hmem
    obtain ⟨l, -, rfl⟩ := List.mem_map.1 hmem
    exact Nat.min_le_left _ _

theorem settingsPathOf_ne (hread : ∀ l ∈ levels, Read environment? l) (hne : levels ≠ []) :
    (settingsPathOf levels).or environment? ≠ some "" := by
  show (levels.filterMap fun l => l.2.value? .settingsPath).getLast?.or environment? ≠ some ""
  generalize hpaths : (levels.filterMap fun l => l.2.value? .settingsPath) = paths
  cases hlast : paths.getLast? with
  | none =>
    -- No level gives a path, so that the check of the first one looked at the environment.
    rw [List.getLast?_eq_none_iff.1 hlast, List.filterMap_eq_nil_iff] at hpaths
    obtain ⟨l, others, rfl⟩ := List.exists_cons_of_ne_nil hne
    obtain ⟨hs, hchecked⟩ := hread l (.head _)
    rcases hchecked.path with hp | he
    · exact absurd (hpaths l (.head _)) (value?_ne_none hs rfl hp)
    · exact he
  | some path =>
    have hmem := List.mem_of_getLast? hlast
    rw [← hpaths] at hmem
    obtain ⟨l, hl, hpath⟩ := List.mem_filterMap.1 hmem
    have hne := value?_ne_empty (hread l hl).1 (show Argument.settingsPath.taking = .path from rfl)
    intro he
    cases he
    exact hne hpath

theorem proper_ofScan {l : Level × Scan} {o : BuildOptions} (hread : Read environment? l)
    (h : Action.ofScan l.1 l.2 = .build o) : o.Proper := by
  obtain ⟨level, s⟩ := l
  obtain ⟨hs, hchecked⟩ := hread
  cases level with
  | build =>
    cases h
    have hcontext : (s.value? .context).getD "." ≠ "" ∧ IsPlain ((s.value? .context).getD ".") := by
      cases hv : s.value? .context with
      | none => exact ⟨by decide, .inr (by decide)⟩
      | some v =>
        obtain ⟨values, hmem, hmv⟩ := mem_of_value? hv
        refine ⟨?_, (hs.given _ hmem).2.2 rfl v hmv⟩
        rintro rfl
        exact value?_ne_empty hs rfl hv
    refine ⟨value?_ne_empty hs rfl, value?_ne_empty hs rfl, hcontext.1, hcontext.2, ?_⟩
    rcases hchecked.conflicts _ (.head _) with hnone | hnone
    · exact .inl (value?_eq_none hnone)
    · exact .inr (value?_eq_none hnone)
  | _ => cases h

/-- A command that is read is one that can be meant. -/
theorem proper_of_read (h : Command.read words environment? = .ok c) : c.Proper := by
  obtain ⟨levels, hscan, h⟩ := bind_eq_ok.1 h
  obtain ⟨hne, hread⟩ := read_of_scan_ok sound_empty hscan
  obtain ⟨last, hlast⟩ := Option.ne_none_iff_exists'.1 (mt List.getLast?_eq_none_iff.1 hne)
  rw [hlast] at h
  cases h
  exact ⟨verbosityOf_le levels, settingsPathOf_ne hread hne,
    fun o ho => proper_ofScan (hread last (List.mem_of_getLast? hlast)) ho⟩

/-- Just what can be meant can be said, where the environment says nothing. -/
theorem exists_read_iff : (∃ words, Command.read words none = .ok c) ↔ c.Proper := by
  constructor
  · rintro ⟨words, h⟩
    exact proper_of_read h
  · intro hc
    have hread : Command.read c.words none = .ok { c with settingsPath? := c.settingsPath?.or none } :=
      read_words hc nofun
    rw [Option.or_none] at hread
    exact ⟨c.words, hread⟩

end Command

end

end BuildCredentials.CommandLine
