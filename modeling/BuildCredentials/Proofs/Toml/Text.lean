import BuildCredentials.Proofs.Text.Cutting
import BuildCredentials.Toml.Text

/-!
# Texts in quotes are read as they were written

A text is written in one of four forms, and each is read as that text (`read_write`), whatever characters it has.
What comes behind it has only to begin with no quote: three quotes end a text of several lines, and of more that
stand together up to two belong to it (`closing?_run`).
-/

set_option autoImplicit false

namespace BuildCredentials.Toml.Text

open BuildCredentials.Text (cut_append)

variable {c q : Char} {cs s rest : List Char}

/-! ## Escapes -/

theorem hexNumber?_fourDigits :
    ∀ n < 128, (fourDigits n).length = 4 ∧ hexNumber? 0 (fourDigits n) = some n := by
  decide

theorem readNumber_fourDigits (h : isPlain c = false) (s : List Char) :
    readNumber 4 (fourDigits c.toNat ++ s) = some (c, s) := by
  have hlt : c.toNat < 128 := by
    simp only [isPlain, Bool.or_eq_false_iff, Bool.and_eq_false_iff, decide_eq_false_iff_not] at h
    omega
  obtain ⟨hlength, hnumber⟩ := hexNumber?_fourDigits _ hlt
  have hvalid : c.toNat.isValidChar := c.valid
  simp [readNumber, hlength, hnumber, hvalid]

/-- What stands behind a backslash for a character: it begins with no blank and no end of a line. -/
structure Escapes (e : List Char) (c : Char) : Prop where
  reads : ∀ s, readEscape (e ++ s) = some (c, s)
  head : ∃ x t, e = x :: t ∧ isSpace x = false ∧ x ≠ '\n' ∧ x ≠ '\r'

theorem Escapes.simple {x : Char} (h : simpleEscape? x = some c) (hs : isSpace x = false) (hn : x ≠ '\n')
    (hr : x ≠ '\r') : Escapes [x] c :=
  ⟨fun s => by simp [readEscape, h], x, [], rfl, hs, hn, hr⟩

/-- A character stands for itself or is escaped. -/
theorem escapeChar_cases (c : Char) :
    escapeChar c = [c] ∧ isPlain c ∧ c ≠ '\\' ∨ ∃ e, escapeChar c = '\\' :: e ∧ Escapes e c := by
  by_cases hslash : c = '\\'
  · subst hslash
    exact .inr ⟨_, rfl, .simple rfl rfl (by decide) (by decide)⟩
  by_cases hback : c.toNat = 8
  · obtain rfl : c = '\x08' := Char.toNat_inj.1 hback
    exact .inr ⟨_, rfl, .simple rfl rfl (by decide) (by decide)⟩
  by_cases htab : c = '\t'
  · subst htab
    exact .inr ⟨_, rfl, .simple rfl rfl (by decide) (by decide)⟩
  by_cases hfeed : c.toNat = 12
  · obtain rfl : c = '\x0c' := Char.toNat_inj.1 hfeed
    exact .inr ⟨_, rfl, .simple rfl rfl (by decide) (by decide)⟩
  by_cases hreturn : c = '\r'
  · subst hreturn
    exact .inr ⟨_, rfl, .simple rfl rfl (by decide) (by decide)⟩
  cases hplain : isPlain c with
  | true => exact .inl ⟨by simp [escapeChar, hslash, hback, htab, hfeed, hreturn, hplain], rfl, hslash⟩
  | false =>
    refine .inr ⟨'u' :: fourDigits c.toNat, by simp [escapeChar, hslash, hback, htab, hfeed, hreturn, hplain], ?_,
      'u', _, rfl, rfl, by decide, by decide⟩
    intro s
    exact readNumber_fourDigits hplain s

/-! ## Texts on one line -/

theorem readBasic_plain (h : isPlain c) (hquote : c ≠ '"') (hslash : c ≠ '\\') (s : List Char) :
    readBasic (c :: s) = push c (readBasic s) := by
  rw [readBasic, if_neg hquote, if_neg hslash, if_pos h]

theorem readBasic_escape {e : List Char} (h : Escapes e c) (s : List Char) :
    readBasic ('\\' :: (e ++ s)) = push c (readBasic s) := by
  rw [readBasic, if_neg (by decide), if_pos rfl]
  split
  · rename_i x after he
    obtain ⟨rfl, rfl⟩ := Prod.mk.injEq .. ▸ Option.some_inj.1 ((h.reads s).symm.trans he)
    rfl
  · rename_i he
    cases (h.reads s).symm.trans he

theorem readBasic_writeBasic (cs rest : List Char) :
    readBasic (writeBasic cs ++ '"' :: rest) = some (cs, rest) := by
  induction cs with
  | nil => rw [writeBasic, List.flatMap_nil, List.nil_append, readBasic, if_pos rfl]
  | cons c cs ih =>
    have hrest (w : List Char) (h : readBasic (w ++ (writeBasic cs ++ '"' :: rest)) =
        push c (readBasic (writeBasic cs ++ '"' :: rest))) :
        readBasic (w ++ writeBasic cs ++ '"' :: rest) = some (c :: cs, rest) := by
      rw [List.append_assoc, h, ih]
      rfl
    rw [writeBasic, List.flatMap_cons]
    apply hrest
    split
    · rename_i hquote
      subst hquote
      exact readBasic_escape (.simple rfl rfl (by decide) (by decide)) _
    · split
      · rename_i hline
        subst hline
        exact readBasic_escape (.simple rfl rfl (by decide) (by decide)) _
      · rename_i hquote _
        rcases escapeChar_cases c with ⟨hself, hplain, hslash⟩ | ⟨e, hescape, h⟩
        · rw [hself]
          exact readBasic_plain hplain hquote hslash _
        · rw [hescape]
          exact readBasic_escape h _

theorem readLiteral_append (h : ∀ c ∈ cs, isPlain c ∧ c ≠ '\'') :
    readLiteral (cs ++ '\'' :: rest) = some (cs, rest) := by
  induction cs with
  | nil => rw [List.nil_append, readLiteral, if_pos rfl]
  | cons c cs ih =>
    obtain ⟨⟨hplain, hquote⟩, h⟩ := List.forall_mem_cons.1 h
    rw [List.cons_append, readLiteral, if_neg hquote, if_pos hplain, ih h]
    rfl

/-! ## Quotes within a text of several lines -/

theorem takeWhile_quotes (k : Nat) (hs : s.head? ≠ some q) :
    (List.replicate k q ++ s).takeWhile (· = q) = List.replicate k q := by
  refine (cut_append (by simp) fun y hy => ?_).1
  simp only [decide_eq_false_iff_not]
  rintro rfl
  exact hs hy

theorem closing?_few {k : Nat} (hk : k < 3) (hs : s.head? ≠ some q) :
    closing? q (List.replicate k q ++ s) = none := by
  simp only [closing?, takeWhile_quotes k hs, List.length_replicate, if_pos hk]

/-- Three quotes end a text, and up to two before them belong to it. -/
theorem closing?_run {k : Nat} (hk : k ≤ 2) (hr : rest.head? ≠ some q) :
    closing? q (List.replicate k q ++ ([q, q, q] ++ rest)) = some (List.replicate k q, rest) := by
  have hquotes : List.replicate k q ++ ([q, q, q] ++ rest) = List.replicate (k + 3) q ++ rest := by
    rw [← List.append_assoc, ← List.replicate_append_replicate]
    rfl
  have hextra : min 2 (k + 3 - 3) = k := by omega
  simp only [hquotes, closing?, takeWhile_quotes (k + 3) hr, List.length_replicate, hextra]
  rw [if_neg (by omega), List.drop_left' List.length_replicate]

/-- The quotes at the front of what is written for a text are at most so many: either they are all of the text, or
something else comes behind them. -/
inductive Front (q : Char) (most : Nat) (cs : List Char) : List Char → Prop
  | all {k : Nat} : k ≤ most → cs = List.replicate k q → Front q most cs (List.replicate k q)
  | stops {k : Nat} {t : List Char} : k ≤ most → t ≠ [] → t.head? ≠ some q → Front q most cs (List.replicate k q ++ t)

theorem Front.cons {most : Nat} {w : List Char} (h : Front q most cs w) : Front q (most + 1) (q :: cs) (q :: w) := by
  cases h with
  | @all k hk hcs =>
    rw [← List.replicate_succ]
    exact .all (Nat.succ_le_succ hk) (by rw [hcs, List.replicate_succ])
  | @stops k t hk hne ht =>
    rw [← List.cons_append, ← List.replicate_succ]
    exact .stops (Nat.succ_le_succ hk) hne ht

theorem Front.mono {most most' : Nat} {w : List Char} (h : Front q most cs w) (hle : most ≤ most') :
    Front q most' cs w := by
  cases h with
  | all hk hcs => exact .all (hk.trans hle) hcs
  | stops hk hne ht => exact .stops (hk.trans hle) hne ht

/-- Nothing ends a text within it. -/
theorem Front.closing? {w : List Char} (h : Front q 2 cs w) (hr : rest.head? ≠ some q) :
    Text.closing? q (w ++ ([q, q, q] ++ rest)) = some (cs, rest) ∨ Text.closing? q (w ++ ([q, q, q] ++ rest)) = none := by
  cases h with
  | all hk hcs => exact .inl (hcs ▸ closing?_run hk hr)
  | stops hk hne ht =>
    rw [List.append_assoc]
    refine .inr (closing?_few (Nat.lt_succ_of_le hk) ?_)
    obtain ⟨x, t, rfl⟩ := List.exists_cons_of_ne_nil hne
    exact ht

theorem front_writeLines (cs : List Char) {seen : Nat} (hs : seen ≤ 2) :
    Front '"' (2 - seen) cs (writeLines seen cs) := by
  induction cs generalizing seen with
  | nil => exact .all (k := 0) (Nat.zero_le _) rfl
  | cons c cs ih =>
    rw [writeLines]
    split
    · rename_i hquote
      subst hquote
      split
      · exact .stops (k := 0) (Nat.zero_le _) (by simp) (by simp)
      · have hmost : 2 - seen = 2 - (seen + 1) + 1 := by omega
        rw [hmost]
        exact (ih (by omega)).cons
    · rename_i hquote
      split
      · exact .stops (k := 0) (Nat.zero_le _) (by simp) (by simp)
      · rcases escapeChar_cases c with ⟨hself, -⟩ | ⟨e, hescape, -⟩
        · rw [hself]
          exact .stops (k := 0) (Nat.zero_le _) (by simp) (by simpa using hquote)
        · rw [hescape]
          exact .stops (k := 0) (Nat.zero_le _) (by simp) (by simp)

theorem front_of_longestRun {seen : Nat} (hs : seen ≤ 2) (h : longestRun q seen cs ≤ 2) :
    Front q (2 - seen) cs cs := by
  induction cs generalizing seen with
  | nil => exact .all (k := 0) (Nat.zero_le _) rfl
  | cons c cs ih =>
    rw [longestRun] at h
    split at h
    · rename_i hquote
      subst hquote
      have hmost : 2 - seen = 2 - (seen + 1) + 1 := by omega
      rw [hmost]
      exact (ih (by omega) (by omega)).cons
    · rename_i hquote
      exact .stops (k := 0) (Nat.zero_le _) (by simp) (by simpa using hquote)

/-! ## Texts on several lines -/

theorem lineEnd?_plain (h : isPlain c) (s : List Char) : lineEnd? (c :: s) = none := by
  have hn : c ≠ '\n' := by
    rintro rfl
    cases h
  have hr : c ≠ '\r' := by
    rintro rfl
    cases h
  simp only [lineEnd?, if_neg hn, if_neg hr]

theorem readBasicLines_quote (h : closing? '"' ('"' :: s) = none) :
    readBasicLines ('"' :: s) = push '"' (readBasicLines s) := by
  rw [readBasicLines, if_pos rfl, h]

theorem readBasicLines_closing (h : closing? '"' ('"' :: s) = some (cs, rest)) :
    readBasicLines ('"' :: s) = some (cs, rest) := by
  rw [readBasicLines, if_pos rfl, h]

theorem readBasicLines_plain (h : isPlain c) (hquote : c ≠ '"') (hslash : c ≠ '\\') (s : List Char) :
    readBasicLines (c :: s) = push c (readBasicLines s) := by
  rw [readBasicLines, if_neg hquote, if_neg hslash]
  split
  · rename_i after hl
    cases (lineEnd?_plain h s).symm.trans hl
  · rw [if_pos h]

theorem readBasicLines_line (s : List Char) : readBasicLines ('\n' :: s) = push '\n' (readBasicLines s) := by
  rw [readBasicLines, if_neg (by decide), if_neg (by decide)]
  rfl

theorem readBasicLines_escape {e : List Char} (h : Escapes e c) (s : List Char) :
    readBasicLines ('\\' :: (e ++ s)) = push c (readBasicLines s) := by
  obtain ⟨x, t, rfl, hspace, hn, hr⟩ := h.head
  have hcontinues : continuation? (x :: t ++ s) = none := by
    simp [continuation?, lineEnd?, hspace, hn, hr]
  rw [readBasicLines, if_neg (by decide), if_pos rfl]
  split
  · rename_i after hc
    cases hcontinues.symm.trans hc
  · split
    · rename_i y after he
      obtain ⟨rfl, rfl⟩ := Prod.mk.injEq .. ▸ Option.some_inj.1 ((h.reads s).symm.trans he)
      rfl
    · rename_i he
      cases (h.reads s).symm.trans he

theorem readBasicLines_writeLines (hr : rest.head? ≠ some '"') (cs : List Char) {seen : Nat} (hs : seen ≤ 2) :
    readBasicLines (writeLines seen cs ++ (['"', '"', '"'] ++ rest)) = some (cs, rest) := by
  induction cs generalizing seen with
  | nil => exact readBasicLines_closing (closing?_run (k := 0) (Nat.zero_le 2) hr)
  | cons c cs ih =>
    have hpush {w : List Char} {seen : Nat} (hs : seen ≤ 2)
        (h : readBasicLines (w ++ (writeLines seen cs ++ (['"', '"', '"'] ++ rest))) =
          push c (readBasicLines (writeLines seen cs ++ (['"', '"', '"'] ++ rest)))) :
        readBasicLines (w ++ writeLines seen cs ++ (['"', '"', '"'] ++ rest)) = some (c :: cs, rest) := by
      rw [List.append_assoc, h, ih hs]
      rfl
    by_cases hquote : c = '"'
    · subst hquote
      by_cases hseen : seen = 2
      · rw [writeLines, if_pos rfl, if_pos hseen]
        exact hpush (w := ['\\', '"']) (Nat.zero_le 2)
          (readBasicLines_escape (e := ['"']) (.simple rfl rfl (by decide) (by decide)) _)
      · have hfront := (front_writeLines ('"' :: cs) hs).mono (Nat.sub_le 2 seen)
        rw [writeLines, if_pos rfl, if_neg hseen] at hfront ⊢
        rcases hfront.closing? hr with hclosing | hopen
        · exact readBasicLines_closing hclosing
        · exact hpush (w := ['"']) (by omega) (readBasicLines_quote hopen)
    · by_cases hline : c = '\n'
      · subst hline
        rw [writeLines, if_neg (by decide), if_pos rfl]
        exact hpush (w := ['\n']) (Nat.zero_le 2) (readBasicLines_line _)
      · rw [writeLines, if_neg hquote, if_neg hline]
        apply hpush (Nat.zero_le 2)
        rcases escapeChar_cases c with ⟨hself, hplain, hslash⟩ | ⟨e, hescape, h⟩
        · rw [hself]
          exact readBasicLines_plain hplain hquote hslash _
        · rw [hescape]
          exact readBasicLines_escape h _

theorem readLiteralLines_quote (h : closing? '\'' ('\'' :: s) = none) :
    readLiteralLines ('\'' :: s) = push '\'' (readLiteralLines s) := by
  rw [readLiteralLines, if_pos rfl, h]

theorem readLiteralLines_closing (h : closing? '\'' ('\'' :: s) = some (cs, rest)) :
    readLiteralLines ('\'' :: s) = some (cs, rest) := by
  rw [readLiteralLines, if_pos rfl, h]

theorem readLiteralLines_other (hquote : c ≠ '\'') (h : isPlain c ∨ c = '\n') (s : List Char) :
    readLiteralLines (c :: s) = push c (readLiteralLines s) := by
  rw [readLiteralLines, if_neg hquote]
  rcases h with hplain | rfl
  · split
    · rename_i after hl
      cases (lineEnd?_plain hplain s).symm.trans hl
    · rw [if_pos hplain]
  · rfl

theorem readLiteralLines_append (hr : rest.head? ≠ some '\'') (hcs : ∀ c ∈ cs, isPlain c ∨ c = '\n') {seen : Nat}
    (hs : seen ≤ 2) (hrun : longestRun '\'' seen cs ≤ 2) :
    readLiteralLines (cs ++ (['\'', '\'', '\''] ++ rest)) = some (cs, rest) := by
  induction cs generalizing seen with
  | nil => exact readLiteralLines_closing (closing?_run (k := 0) (Nat.zero_le 2) hr)
  | cons c cs ih =>
    have hfront := (front_of_longestRun hs hrun).mono (Nat.sub_le 2 seen)
    obtain ⟨hc, hrest⟩ := List.forall_mem_cons.1 hcs
    rw [longestRun] at hrun
    by_cases hquote : c = '\''
    · subst hquote
      rw [if_pos rfl] at hrun
      rcases hfront.closing? hr with hclosing | hopen
      · exact readLiteralLines_closing hclosing
      · have hread := ih hrest (show seen + 1 ≤ 2 by omega) (by omega)
        exact (readLiteralLines_quote hopen).trans (congrArg (push '\'') hread)
    · rw [if_neg hquote] at hrun
      rw [List.cons_append, readLiteralLines_other hquote hc, ih hrest (Nat.zero_le 2) hrun]
      rfl

/-! ## The four forms -/

theorem not_mem_of_longestRun {seen : Nat} (h : longestRun q seen cs = 0) : q ∉ cs := by
  induction cs generalizing seen with
  | nil => simp
  | cons c cs ih =>
    rw [longestRun] at h
    split at h
    · omega
    · rename_i hne
      simpa [Ne.symm hne] using ih h

theorem plain_of_no_controls (h : cs.any needsEscape = false) : ∀ c ∈ cs, isPlain c ∨ c = '\n' := by
  intro c hc
  have hescape : needsEscape c = false := by simpa using List.any_eq_false.1 h c hc
  by_cases hline : c = '\n'
  · exact .inr hline
  · exact .inl (by simpa [needsEscape, hline] using hescape)

theorem of_form_literal (h : form cs = .literal) : ∀ c ∈ cs, isPlain c ∧ c ≠ '\'' := by
  have hform : cs.any needsEscape = false ∧ cs.contains '\n' = false ∧ longestRun '\'' 0 cs = 0 := by
    unfold form at h
    grind
  obtain ⟨hcontrols, hlines, hrun⟩ := hform
  intro c hc
  have hquote : c ≠ '\'' := fun he => not_mem_of_longestRun hrun (he ▸ hc)
  rcases plain_of_no_controls hcontrols c hc with hplain | rfl
  · exact ⟨hplain, hquote⟩
  · simp [hc] at hlines

theorem of_form_literalLines (h : form cs = .literalLines) :
    (∀ c ∈ cs, isPlain c ∨ c = '\n') ∧ longestRun '\'' 0 cs ≤ 2 := by
  have hform : cs.any needsEscape = false ∧ longestRun '\'' 0 cs ≤ 2 := by
    unfold form at h
    grind
  exact ⟨plain_of_no_controls hform.1, hform.2⟩

theorem afterTriple?_quotes (q : Char) (s : List Char) : afterTriple? q ([q, q, q] ++ s) = some s := by
  simp [afterTriple?]

theorem afterTriple?_other (h : c ≠ q) (s : List Char) : afterTriple? q (c :: s) = none := by
  simp [afterTriple?, h.symm]

/-- No text on one line begins with three quotes. -/
theorem afterTriple?_single (hs : s.head? ≠ some q) (hr : rest.head? ≠ some q) :
    afterTriple? q (q :: (s ++ q :: rest)) = none := by
  cases s with
  | nil =>
    cases rest with
    | nil => simp [afterTriple?]
    | cons d rest => simpa [afterTriple?] using fun h => hr (by simp [h])
  | cons d s => simpa [afterTriple?] using fun h => absurd (by simp [h]) hs

theorem head?_writeBasic (cs : List Char) : (writeBasic cs).head? ≠ some '"' := by
  cases cs with
  | nil => simp [writeBasic]
  | cons c cs =>
    rw [writeBasic, List.flatMap_cons]
    split
    · simp
    · rename_i hquote
      split
      · simp
      · rcases escapeChar_cases c with ⟨hself, -⟩ | ⟨e, hescape, -⟩
        · simpa [hself] using hquote
        · simp [hescape]

/-- A text that is written on several lines begins on a new one, unless it has but one. -/
theorem dropLineEnd_opening {w : List Char} (h : '\n' ∉ cs → lineEnd? w = none) :
    dropLineEnd (opening cs ++ w) = w := by
  unfold opening
  split
  · rfl
  · rename_i hlines
    rw [List.nil_append, dropLineEnd, h (by simpa using hlines)]
    rfl

theorem lineEnd?_writeLines (hline : '\n' ∉ cs) (s : List Char) :
    lineEnd? (writeLines 0 cs ++ (['"', '"', '"'] ++ s)) = none := by
  cases cs with
  | nil => rfl
  | cons c cs =>
    rw [writeLines]
    split
    · rfl
    · split
      · rename_i he
        simp [he] at hline
      · rcases escapeChar_cases c with ⟨hself, hplain, -⟩ | ⟨e, hescape, -⟩
        · rw [hself]
          exact lineEnd?_plain hplain _
        · rw [hescape]
          rfl

theorem lineEnd?_literal (hline : '\n' ∉ cs) (hcs : ∀ c ∈ cs, isPlain c ∨ c = '\n') (s : List Char) :
    lineEnd? (cs ++ (['\'', '\'', '\''] ++ s)) = none := by
  cases cs with
  | nil => rfl
  | cons c cs =>
    rcases hcs c (.head _) with hplain | rfl
    · exact lineEnd?_plain hplain _
    · simp at hline

/-- What is written for a text is read as that text, and no more than that is read. -/
theorem read_write (cs : List Char) (hr : ∀ c ∈ rest.head?, c ≠ '"' ∧ c ≠ '\'') :
    read (write cs ++ rest) = some (cs, rest) := by
  have hdouble : rest.head? ≠ some '"' := fun h => (hr _ h).1 rfl
  have hsingle : rest.head? ≠ some '\'' := fun h => (hr _ h).2 rfl
  unfold write
  cases hform : form cs with
  | basic =>
    have hstart := afterTriple?_single (head?_writeBasic cs) hdouble
    have hother : afterTriple? '\'' ('"' :: (writeBasic cs ++ '"' :: rest)) = none := afterTriple?_other (by decide) _
    simp only [List.cons_append, List.append_assoc, List.nil_append]
    rw [read, hstart, hother]
    exact readBasic_writeBasic cs rest
  | literal =>
    have hcs := of_form_literal hform
    have hhead : cs.head? ≠ some '\'' := fun h => (hcs _ (List.mem_of_mem_head? h)).2 rfl
    have hstart := afterTriple?_single hhead hsingle
    have hother : afterTriple? '"' ('\'' :: (cs ++ '\'' :: rest)) = none := afterTriple?_other (by decide) _
    simp only [List.cons_append, List.append_assoc, List.nil_append]
    rw [read, hstart, hother]
    exact readLiteral_append hcs
  | basicLines =>
    simp only [List.append_assoc, read, afterTriple?_quotes]
    rw [dropLineEnd_opening fun hline => lineEnd?_writeLines hline _]
    exact readBasicLines_writeLines hdouble cs (Nat.zero_le 2)
  | literalLines =>
    obtain ⟨hcs, hrun⟩ := of_form_literalLines hform
    have hother (s : List Char) : afterTriple? '"' (['\'', '\'', '\''] ++ s) = none := afterTriple?_other (by decide) _
    simp only [List.append_assoc, read, hother, afterTriple?_quotes]
    rw [dropLineEnd_opening fun hline => lineEnd?_literal hline hcs _]
    exact readLiteralLines_append hsingle hcs (Nat.zero_le 2) hrun

end BuildCredentials.Toml.Text
