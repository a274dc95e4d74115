import BuildCredentials.Proofs.Toml.Scalar
import BuildCredentials.Proofs.Toml.Text
import BuildCredentials.Toml.Statement

/-!
# Lists and lines are read as they were written

A list of texts is read whether it stands on one line or gives each text one of its own (`readItems_lines`). A line
opens a table or gives a key a value (`readStatement_table`, `readStatement_assign`), and a text that consists of
such lines says what its lines say (`Says`).
-/

set_option autoImplicit false

namespace BuildCredentials.Toml

variable {c : Char} {s rest name : List Char} {v : Value} {depth : Nat}

/-! ## Gaps -/

/-- A character at which a gap ends: no blank, no end of a line and no comment begins with it. -/
def EndsGap (c : Char) : Prop := isSpace c = false ∧ c ≠ '\n' ∧ c ≠ '\r' ∧ c ≠ '#'

instance (c : Char) : Decidable (EndsGap c) := inferInstanceAs (Decidable (_ ∧ _))

theorem EndsGap.lineEnd? (h : EndsGap c) (s : List Char) : lineEnd? (c :: s) = none := by
  simp only [Toml.lineEnd?, if_neg h.2.1, if_neg h.2.2.1]

theorem skipBlankLines_line (s : List Char) : skipBlankLines ('\n' :: s) = skipBlankLines s := by
  rw [skipBlankLines]
  rfl

theorem skipBlankLines_space (s : List Char) : skipBlankLines (' ' :: s) = skipBlankLines s := by
  rw [skipBlankLines]
  rfl

theorem skipBlankLines_ends (h : EndsGap c) (s : List Char) : skipBlankLines (c :: s) = c :: s := by
  rw [skipBlankLines]
  split
  · rename_i after hl
    cases (h.lineEnd? s).symm.trans hl
  · simp [h.1]

theorem skipComment_ends (h : EndsGap c) (s : List Char) : skipComment (c :: s) = c :: s := by
  unfold skipComment
  split
  · rename_i he
    cases he
    exact absurd rfl h.2.2.2
  · rfl

theorem skipGap_ends (h : EndsGap c) (s : List Char) : skipGap (c :: s) = c :: s := by
  rw [skipGap]
  simp [skipBlankLines_ends h, skipComment_ends h]

/-- A new line may begin with blanks. -/
theorem skipGap_line (h : EndsGap c) (k : Nat) (s : List Char) :
    skipGap ('\n' :: (List.replicate k ' ' ++ c :: s)) = c :: s := by
  have hblanks : skipBlankLines (List.replicate k ' ' ++ c :: s) = c :: s := by
    induction k with
    | zero => exact skipBlankLines_ends h s
    | succ k ih => rw [List.replicate_succ, List.cons_append, skipBlankLines_space, ih]
  rw [skipGap]
  simp only [skipBlankLines_line, hblanks, skipComment_ends h]
  rw [if_pos (by simp only [List.length_cons, List.length_append]; omega), skipGap_ends h]

/-! ## Words, texts and lists of texts -/

theorem readValue_word {word : List Char} (hne : word ≠ []) (hword : ∀ c ∈ word, Scalar.isWordChar c)
    (hr : ∀ c ∈ rest.head?, Scalar.isWordChar c = false ∧ c ≠ ' ') (hv : Scalar.ofWord? word = some v) :
    readValue depth (word ++ rest) = some (v, rest) := by
  have hread := Scalar.read_word hword hr hv
  obtain ⟨c, t, rfl⟩ := List.exists_cons_of_ne_nil hne
  have hc {d : Char} (hd : Scalar.isWordChar d = false) : c ≠ d := by
    rintro rfl
    cases hd.symm.trans (hword c (.head _))
  rw [List.cons_append] at hread ⊢
  unfold readValue
  rw [if_neg (not_or.2 ⟨hc rfl, hc rfl⟩), if_neg (hc rfl), if_neg (hc rfl), hread]

theorem exists_quote_write (cs : List Char) : ∃ q t, Text.write cs = q :: t ∧ (q = '"' ∨ q = '\'') := by
  unfold Text.write
  split
  · exact ⟨_, _, rfl, .inl rfl⟩
  · exact ⟨_, _, rfl, .inr rfl⟩
  · exact ⟨_, _, rfl, .inl rfl⟩
  · exact ⟨_, _, rfl, .inr rfl⟩

theorem readValue_text (text : String) (hr : ∀ c ∈ rest.head?, c ≠ '"' ∧ c ≠ '\'') :
    readValue depth (Text.write text.toList ++ rest) = some (.text text, rest) := by
  have hread := Text.read_write text.toList hr
  obtain ⟨q, t, hw, hq⟩ := exists_quote_write text.toList
  rw [hw, List.cons_append] at hread ⊢
  unfold readValue
  rw [if_pos hq, hread]
  simp

section
variable {item : List Char → Reading Value}

theorem readValue_array {vs : List Value} (h : readItems (readValue depth) (s.length + 1) s = some (vs, rest)) :
    readValue (depth + 1) ('[' :: s) = some (.array vs, rest) := by
  unfold readValue
  rw [if_neg (by decide), if_pos rfl]
  simp only [h, Option.map_some]

theorem readItems_closing (h : skipGap s = ']' :: rest) (fuel : Nat) :
    readItems item (fuel + 1) s = some ([], rest) := by
  simp only [readItems, h]

variable {after left s' : List Char} {vs : List Value} {fuel : Nat}

theorem readItems_last (h : skipGap s = c :: after) (hc : c ≠ ']') (hitem : item (c :: after) = some (v, rest))
    (hr : skipGap rest = ']' :: left) : readItems item (fuel + 1) s = some ([v], left) := by
  rw [readItems, h]
  split
  · rename_i he
    cases he
    exact absurd rfl hc
  · simp [hitem, hr]

theorem readItems_comma (h : skipGap s = c :: after) (hc : c ≠ ']') (hitem : item (c :: after) = some (v, rest))
    (hr : skipGap rest = ',' :: left) (hmore : readItems item fuel left = some (vs, s')) :
    readItems item (fuel + 1) s = some (v :: vs, s') := by
  rw [readItems, h]
  split
  · rename_i he
    cases he
    exact absurd rfl hc
  · simp [hitem, hr, hmore]

end

theorem endsGap_of_quote {q : Char} (h : q = '"' ∨ q = '\'') : EndsGap q ∧ q ≠ ']' := by
  rcases h with rfl | rfl <;> decide

/-- A list that gives each text a line of its own, with blanks before it and a comma behind it. -/
theorem readItems_lines (k : Nat) (items : List String) {fuel : Nat} (hf : items.length < fuel) :
    readItems (readValue depth) fuel ('\n' :: (items.flatMap (fun item =>
      List.replicate k ' ' ++ Text.write item.toList ++ [',', '\n']) ++ ']' :: rest)) = some (items.map .text, rest) := by
  induction items generalizing fuel with
  | nil =>
    obtain ⟨fuel, rfl⟩ : ∃ f, fuel = f + 1 := ⟨fuel - 1, by simp at hf; omega⟩
    exact readItems_closing (skipGap_line (c := ']') (by decide) 0 rest) fuel
  | cons item items ih =>
    obtain ⟨fuel, rfl⟩ : ∃ f, fuel = f + 1 := ⟨fuel - 1, by simp at hf; omega⟩
    obtain ⟨q, t, hwrite, hq⟩ := exists_quote_write item.toList
    obtain ⟨hgap, hclosing⟩ := endsGap_of_quote hq
    obtain ⟨more, hmore⟩ : ∃ more, more = items.flatMap (fun item =>
      List.replicate k ' ' ++ Text.write item.toList ++ [',', '\n']) ++ ']' :: rest := ⟨_, rfl⟩
    have hread : readValue depth (Text.write item.toList ++ ',' :: '\n' :: more) = some (.text item, _) :=
      readValue_text item (by simp)
    rw [List.flatMap_cons, List.append_assoc, ← hmore]
    rw [hwrite, List.cons_append] at hread
    simp only [hwrite, List.append_assoc, List.cons_append, List.nil_append]
    exact readItems_comma (skipGap_line hgap k _) hclosing hread (skipGap_ends (by decide) _)
      (hmore ▸ ih (by simpa using hf))

/-! ## Keys -/

theorem ne_of_isBare {d : Char} (h : isBare c) (hd : isBare d = false) : c ≠ d := by
  rintro rfl
  rw [h] at hd
  cases hd

theorem isSpace_of_isBare (h : isBare c) : isSpace c = false := by
  simp [isSpace, ne_of_isBare (d := ' ') h (by decide), ne_of_isBare (d := '\t') h (by decide)]

theorem endsGap_of_isBare (h : isBare c) : EndsGap c :=
  ⟨isSpace_of_isBare h, ne_of_isBare h (by decide), ne_of_isBare h (by decide), ne_of_isBare h (by decide)⟩

/-- A name without quotes, behind which no other name of the key stands. -/
theorem readKey_bare (hne : name ≠ []) (hb : ∀ c ∈ name, isBare c) (hr : ∀ c ∈ rest.head?, isBare c = false)
    (hpoint : (skipSpaces rest).head? ≠ some '.') :
    readKey (name ++ rest) = some (⟨[], String.ofList name⟩, skipSpaces rest) := by
  obtain ⟨htake, hdrop⟩ := Text.cut_append hb hr
  obtain ⟨c, t, rfl⟩ := List.exists_cons_of_ne_nil hne
  have hc : isBare c := hb c (.head _)
  have hskip : skipSpaces (c :: t ++ rest) = c :: t ++ rest := by
    simp [skipSpaces, isSpace_of_isBare hc]
  have hname : readName (c :: t ++ rest) = some (c :: t, rest) := by
    rw [List.cons_append] at htake hdrop ⊢
    rw [readName, if_neg (ne_of_isBare hc (by decide)), if_neg (ne_of_isBare hc (by decide)), if_pos hc, htake, hdrop]
  have hnames : readNames nameLimit (c :: t ++ rest) = some ([String.ofList (c :: t)], skipSpaces rest) := by
    show readNames (78 + 1) _ = _
    rw [readNames, hskip, hname]
    simp only [Option.bind_eq_bind, Option.bind_some]
    split
    · rename_i he
      exact absurd (congrArg List.head? he) hpoint
    · rfl
  rw [readKey, hnames]
  rfl

/-! ## Lines -/

theorem endLine?_line (s : List Char) : endLine? ('\n' :: s) = some s := rfl

theorem readStatement_table (hne : name ≠ []) (hb : ∀ c ∈ name, isBare c) (rest : List Char) :
    readStatement ('[' :: (name ++ ']' :: '\n' :: rest)) = some (.table ⟨[], String.ofList name⟩, rest) := by
  have hkey : readKey (name ++ ']' :: '\n' :: rest) = some (⟨[], String.ofList name⟩, ']' :: '\n' :: rest) :=
    readKey_bare hne hb (by simp; decide) (by simp [skipSpaces, isSpace])
  obtain ⟨c, t, rfl⟩ := List.exists_cons_of_ne_nil hne
  have hopen : c ≠ '[' := ne_of_isBare (hb c (.head _)) (by decide)
  rw [List.cons_append] at hkey ⊢
  unfold readStatement
  split
  · rename_i he
    simp only [List.cons.injEq] at he
    exact absurd he.2.1 hopen
  · rename_i he
    cases he
    simp [hkey, endLine?_line]
  · rename_i hno
    exact (hno _ rfl).elim

/-- A value begins with no blank. -/
theorem skipSpaces_of_readValue (h : readValue depth s = some (v, rest)) : skipSpaces s = s := by
  cases s with
  | nil => rfl
  | cons c s =>
    suffices hc : isSpace c = false by simp [skipSpaces, hc]
    cases hc : isSpace c with
    | false => rfl
    | true =>
      have hcases : c = ' ' ∨ c = '\t' := by simpa [isSpace] using hc
      unfold readValue at h
      rcases hcases with rfl | rfl
      · cases (Scalar.read_of_not_isWordChar rfl : Scalar.read (' ' :: s) = none).symm.trans h
      · cases (Scalar.read_of_not_isWordChar rfl : Scalar.read ('\t' :: s) = none).symm.trans h

theorem readPair_bare {w after : List Char} (hne : name ≠ []) (hb : ∀ c ∈ name, isBare c)
    (hread : readValue depth w = some (v, after)) :
    readPair (readValue depth) (name ++ ' ' :: '=' :: ' ' :: w) = some ((⟨[], String.ofList name⟩, v), after) := by
  have hkey : readKey (name ++ ' ' :: '=' :: ' ' :: w) = some (⟨[], String.ofList name⟩, '=' :: ' ' :: w) :=
    readKey_bare hne hb (by simp; decide) (by simp [skipSpaces, isSpace])
  have hskip : skipSpaces (' ' :: w) = w := by
    rw [skipSpaces, List.dropWhile_cons_of_pos rfl]
    exact skipSpaces_of_readValue hread
  simp [readPair, hkey, hskip, hread]

theorem readStatement_assign {w : List Char} (hne : name ≠ []) (hb : ∀ c ∈ name, isBare c)
    (hread : readValue depthLimit w = some (v, '\n' :: rest)) :
    readStatement (name ++ ' ' :: '=' :: ' ' :: w) = some (.assign ⟨[], String.ofList name⟩ v, rest) := by
  have hpair := readPair_bare hne hb hread
  obtain ⟨c, t, rfl⟩ := List.exists_cons_of_ne_nil hne
  have hopen : c ≠ '[' := ne_of_isBare (hb c (.head _)) (by decide)
  unfold readStatement
  split
  · rename_i he
    exact absurd (List.cons.inj he).1 hopen
  · rename_i he
    exact absurd (List.cons.inj he).1 hopen
  · rw [hpair]
    rfl

/-! ## Texts -/

/-- A text consists of lines that say as much as these statements, whatever bound on their number is set. -/
def Says (s : List Char) (statements : List Statement) : Prop :=
  ∀ fuel, s.length < fuel → readStatements fuel s = some statements

theorem says_nil : Says [] [] := by
  intro fuel hf
  obtain ⟨fuel, rfl⟩ : ∃ f, fuel = f + 1 := ⟨fuel - 1, by omega⟩
  rfl

theorem Says.blank {statements : List Statement} (h : Says s statements) : Says ('\n' :: s) statements := by
  intro fuel hf
  obtain ⟨fuel, rfl⟩ : ∃ f, fuel = f + 1 := ⟨fuel - 1, by omega⟩
  exact h fuel (by simpa using hf)

/-- A line that begins with no blank and is no comment. -/
theorem Says.line {statement : Statement} {statements : List Statement} (hc : EndsGap c)
    (hread : readStatement (c :: s) = some (statement, rest)) (hlength : rest.length ≤ s.length)
    (h : Says rest statements) : Says (c :: s) (statement :: statements) := by
  intro fuel hf
  obtain ⟨fuel, rfl⟩ : ∃ f, fuel = f + 1 := ⟨fuel - 1, by omega⟩
  have hskip : skipSpaces (c :: s) = c :: s := by simp [skipSpaces, hc.1]
  have hend : endLine? (c :: s) = none := by
    rw [endLine?, hskip, skipComment_ends hc]
    exact hc.lineEnd? s
  have hmore := h fuel (by simp at hf; omega)
  rw [readStatements, hskip]
  simp [hend, hread, hmore]

theorem parse_of_says {statements : List Statement} (h : Says s statements) (hmark : s.head? ≠ some '\uFEFF') :
    parse (String.ofList s) = entriesOf? statements := by
  have hdrop : dropMark s = s := by
    unfold dropMark
    split
    · exact absurd rfl hmark
    · rfl
  simp [parse, hdrop, h _ (Nat.lt_succ_self _)]

end BuildCredentials.Toml
