import BuildCredentials.Toml.Statement

/-!
# The range of whole numbers

Whole numbers are read with 64 bits and a sign, wherever they stand: no text has a value with a greater one
(`bounded_of_parse`). The statement is carried from words through lists, tables on one line and statements to the
entries of the whole text.
-/

set_option autoImplicit false

namespace BuildCredentials.Toml

/-- No whole number in a value is too great for 64 bits with a sign. -/
inductive Value.Bounded : Value → Prop
  | boolean (b : Bool) : Bounded (.boolean b)
  | integer {n : Int} : n ≤ Int64.maxValue.toInt → Bounded (.integer n)
  | float : Bounded .float
  | datetime : Bounded .datetime
  | text (s : String) : Bounded (.text s)
  | array {items : List Value} : (∀ v ∈ items, Bounded v) → Bounded (.array items)
  | table {entries : List (String × Value)} : (∀ e ∈ entries, Bounded e.2) → Bounded (.table entries)

variable {v : Value} {s rest : List Char} {fuel : Nat} {item : List Char → Reading Value}

/-! ## Words -/

namespace Scalar

theorem le_of_inRange? {m n : Int} (h : inRange? m = some n) : n ≤ Int64.maxValue.toInt := by
  unfold inRange? at h
  split at h
  · rename_i hm
    exact Option.some.inj h ▸ hm.2
  · cases h

theorem le_of_integer? {word : List Char} {n : Int} (h : integer? word = some n) : n ≤ Int64.maxValue.toInt := by
  unfold integer? at h
  split at h
  all_goals
    obtain ⟨_, -, h⟩ := Option.bind_eq_some_iff.1 h
    exact le_of_inRange? h

theorem bounded_of_ofWord? {word : List Char} (h : ofWord? word = some v) : v.Bounded := by
  unfold ofWord? at h
  split at h
  · exact Option.some.inj h ▸ .boolean true
  · split at h
    · exact Option.some.inj h ▸ .boolean false
    · split at h
      · rename_i n hn
        exact Option.some.inj h ▸ .integer (le_of_integer? hn)
      · split at h
        · exact Option.some.inj h ▸ .float
        · split at h
          · exact Option.some.inj h ▸ .datetime
          · cases h

theorem bounded_of_read (h : read s = some (v, rest)) : v.Bounded := by
  have hword {word after : List Char} (h : (ofWord? word).map (·, after) = some (v, rest)) : v.Bounded := by
    obtain ⟨w, hw, he⟩ := Option.map_eq_some_iff.1 h
    cases he
    exact bounded_of_ofWord? hw
  unfold read at h
  simp only at h
  split at h
  · split at h
    · split at h
      · cases h
        exact .datetime
      · cases h
    · exact hword h
  · exact hword h

end Scalar

/-! ## Tables -/

/-- No value in an item of a table has too great a number. -/
inductive Item.Bounded : Item → Prop
  | value {v : Value} : v.Bounded → Bounded (.value v)
  | table {origin : Origin} {entries : List (String × Item)} :
      (∀ e ∈ entries, Bounded e.2) → Bounded (.table origin entries)
  | tables {earlier : List (List (String × Item))} {last : List (String × Item)} :
      (∀ entries ∈ earlier, ∀ e ∈ entries, Bounded e.2) → (∀ e ∈ last, Bounded e.2) → Bounded (.tables earlier last)

namespace Entries

/-- No value in entries has too great a number. -/
def Bounded (entries : Entries) : Prop := ∀ e ∈ entries, e.2.Bounded

variable {entries after : Entries} {name last : String} {names : List String} {i : Item}

theorem bounded_nil : Bounded [] := fun _ h => by cases h

theorem Bounded.lookup (h : entries.Bounded) (hi : List.lookup name entries = some i) : i.Bounded := by
  obtain ⟨front, back, rfl, -⟩ := List.lookup_eq_some_iff.1 hi
  exact h (name, i) (by simp)

theorem mem_set {e : String × Item} (h : e ∈ entries.set name i) : e = (name, i) ∨ e ∈ entries := by
  induction entries with
  | nil => exact .inl (List.mem_singleton.1 h)
  | cons other entries ih =>
    rw [set] at h
    split at h
    · rcases List.mem_cons.1 h with rfl | h
      · exact .inl rfl
      · exact .inr (.tail _ h)
    · rcases List.mem_cons.1 h with rfl | h
      · exact .inr (.head _)
      · exact (ih h).imp_right (.tail _)

theorem Bounded.set (h : entries.Bounded) (hi : i.Bounded) (name : String) : (entries.set name i).Bounded := by
  intro e he
  rcases mem_set he with rfl | he
  · exact hi
  · exact h e he

/-- What a table at a name is changed to is put in its place. -/
theorem Bounded.map_set {inner? : Option Entries} {wrap : Entries → Item} (h : entries.Bounded)
    (hinner : ∀ inner, inner? = some inner → (wrap inner).Bounded)
    (ha : inner?.map (fun es => entries.set name (wrap es)) = some after) : after.Bounded := by
  obtain ⟨inner, hi, rfl⟩ := Option.map_eq_some_iff.1 ha
  exact h.set (hinner inner hi) name

theorem Bounded.assign (h : entries.Bounded) (hv : v.Bounded) (ha : entries.assign names last v = some after) :
    after.Bounded := by
  induction names generalizing entries after with
  | nil =>
    rw [Entries.assign] at ha
    split at ha
    · exact Option.some.inj ha ▸ h.set (.value hv) last
    · cases ha
  | cons name names ih =>
    rw [Entries.assign] at ha
    split at ha
    · exact h.map_set (fun inner hi => .table (ih bounded_nil hi)) ha
    · rename_i inner hl
      cases h.lookup hl with
      | table hinner => exact h.map_set (fun _ hi => .table (ih hinner hi)) ha
    · rename_i inner hl
      split at ha
      · cases ha
      · cases h.lookup hl with
        | table hinner => exact h.map_set (fun _ hi => .table (ih hinner hi)) ha
    · rename_i earlier inner hl
      split at ha
      · cases ha
      · cases h.lookup hl with
        | tables hearlier hinner => exact h.map_set (fun _ hi => .tables hearlier (ih hinner hi)) ha
    · cases ha
    · cases ha

theorem Bounded.at {change : Entries → Option Entries}
    (hchange : ∀ es es', es.Bounded → change es = some es' → es'.Bounded) (h : entries.Bounded)
    (ha : Entries.at change entries names = some after) : after.Bounded := by
  induction names generalizing entries after with
  | nil => exact hchange _ _ h ha
  | cons name names ih =>
    rw [Entries.at] at ha
    split at ha
    · exact h.map_set (fun inner hi => .table (ih bounded_nil hi)) ha
    · rename_i hl
      cases h.lookup hl with
      | table hinner => exact h.map_set (fun _ hi => .table (ih hinner hi)) ha
    · rename_i hl
      cases h.lookup hl with
      | tables hearlier hinner => exact h.map_set (fun _ hi => .tables hearlier (ih hinner hi)) ha
    · cases ha

theorem Bounded.openTable (h : entries.Bounded) (ha : entries.openTable last = some after) : after.Bounded := by
  unfold Entries.openTable at ha
  split at ha
  · exact Option.some.inj ha ▸ h.set (.table bounded_nil) last
  · rename_i hl
    cases h.lookup hl with
    | table hinner => exact Option.some.inj ha ▸ h.set (.table hinner) last
  · cases ha

theorem Bounded.openItem (h : entries.Bounded) (ha : entries.openItem last = some after) : after.Bounded := by
  unfold Entries.openItem at ha
  split at ha
  · exact Option.some.inj ha ▸ h.set (.tables (by simp) bounded_nil) last
  · rename_i earlier inner hl
    cases h.lookup hl with
    | tables hearlier hinner =>
      have hall : ∀ es ∈ earlier ++ [inner], ∀ e ∈ es, e.2.Bounded := by
        intro es hes
        rcases List.mem_append.1 hes with hes | hes
        · exact hearlier es hes
        · exact List.mem_singleton.1 hes ▸ hinner
      exact Option.some.inj ha ▸ h.set (.tables hall bounded_nil) last
  · cases ha

end Entries

mutual

theorem Item.Bounded.toValue : ∀ {i : Item}, i.Bounded → i.toValue.Bounded
  | .value _, .value h => h
  | .table _ _, .table h => .table (bounded_toValues h)
  | .tables earlier last, .tables hearlier hlast => .array fun v hv => by
    rcases List.mem_append.1 hv with hv | hv
    · exact bounded_toTables hearlier v hv
    · exact List.mem_singleton.1 hv ▸ .table (bounded_toValues hlast)

theorem bounded_toValues : ∀ {entries : List (String × Item)}, (∀ e ∈ entries, e.2.Bounded) →
    ∀ e ∈ toValues entries, e.2.Bounded
  | (_, _) :: _, h, e, he => by
    obtain ⟨hfirst, hrest⟩ := List.forall_mem_cons.1 h
    rcases List.mem_cons.1 he with rfl | he
    · exact hfirst.toValue
    · exact bounded_toValues hrest e he

theorem bounded_toTables : ∀ {earlier : List (List (String × Item))}, (∀ entries ∈ earlier, ∀ e ∈ entries, e.2.Bounded) →
    ∀ v ∈ toTables earlier, v.Bounded
  | _ :: _, h, v, hv => by
    obtain ⟨hfirst, hrest⟩ := List.forall_mem_cons.1 h
    rcases List.mem_cons.1 hv with rfl | hv
    · exact .table (bounded_toValues hfirst)
    · exact bounded_toTables hrest v hv

end

/-! ## Statements -/

/-- What every step keeps, a run of steps that all succeed keeps. -/
theorem foldlM_keeps {α β : Type} {f : β → α → Option β} {P : β → Prop} {Q : α → Prop}
    (step : ∀ b a b', P b → Q a → f b a = some b' → P b') {l : List α} {b b' : β} (hb : P b) (hl : ∀ a ∈ l, Q a)
    (h : l.foldlM f b = some b') : P b' := by
  induction l generalizing b with
  | nil => exact Option.some.inj h ▸ hb
  | cons a l ih =>
    obtain ⟨ha, hl⟩ := List.forall_mem_cons.1 hl
    rw [List.foldlM_cons] at h
    obtain ⟨mid, hmid, h⟩ := Option.bind_eq_some_iff.1 h
    exact ih (step b a mid hb ha hmid) hl h

/-- A statement gives no value with too great a number. -/
def Statement.Bounded : Statement → Prop
  | .assign _ v => v.Bounded
  | .table _ | .item _ => True

theorem bounded_step {p q : Progress} {statement : Statement} (hp : p.entries.Bounded) (hs : statement.Bounded)
    (h : p.step statement = some q) : q.entries.Bounded := by
  cases statement with
  | table key =>
    obtain ⟨es, hes, h⟩ := Option.bind_eq_some_iff.1 h
    cases h
    exact Entries.Bounded.at (fun _ _ => Entries.Bounded.openTable) hp hes
  | item key =>
    obtain ⟨es, hes, h⟩ := Option.bind_eq_some_iff.1 h
    cases h
    exact Entries.Bounded.at (fun _ _ => Entries.Bounded.openItem) hp hes
  | assign key v =>
    obtain ⟨es, hes, h⟩ := Option.bind_eq_some_iff.1 h
    cases h
    exact Entries.Bounded.at (fun _ _ hb => hb.assign hs) hp hes

theorem bounded_entriesOf? {statements : List Statement} {entries : List (String × Value)}
    (hs : ∀ s ∈ statements, s.Bounded) (h : entriesOf? statements = some entries) : ∀ e ∈ entries, e.2.Bounded := by
  obtain ⟨p, hp, rfl⟩ := Option.map_eq_some_iff.1 h
  exact bounded_toValues (foldlM_keeps (P := (·.entries.Bounded)) (fun _ _ _ => bounded_step) Entries.bounded_nil hs hp)

theorem bounded_tableOfPairs? {pairs : List (Key × Value)} (hpairs : ∀ p ∈ pairs, p.2.Bounded)
    (h : tableOfPairs? pairs = some v) : v.Bounded := by
  obtain ⟨entries, he, rfl⟩ := Option.map_eq_some_iff.1 h
  exact .table (bounded_toValues (foldlM_keeps (P := Entries.Bounded) (Q := (·.2.Bounded))
    (fun _ _ _ hb hv => hb.assign hv) Entries.bounded_nil hpairs he))

/-! ## Lists and tables that are read -/

theorem bounded_of_readItems (hitem : ∀ {s v r}, item s = some (v, r) → v.Bounded) {vs : List Value}
    (h : readItems item fuel s = some (vs, rest)) : ∀ v ∈ vs, v.Bounded := by
  induction fuel generalizing s vs rest with
  | zero => cases h
  | succ fuel ih =>
    rw [readItems] at h
    split at h
    · cases h
      simp
    · obtain ⟨⟨v, after⟩, hv, h⟩ := Option.bind_eq_some_iff.1 h
      simp only at h
      split at h
      · cases h
        simpa using hitem hv
      · obtain ⟨⟨ws, left⟩, hws, h⟩ := Option.bind_eq_some_iff.1 h
        cases h
        exact List.forall_mem_cons.2 ⟨hitem hv, ih hws⟩
      · cases h

theorem bounded_of_readPair (hitem : ∀ {s v r}, item s = some (v, r) → v.Bounded) {pair : Key × Value}
    (h : readPair item s = some (pair, rest)) : pair.2.Bounded := by
  obtain ⟨⟨key, left⟩, -, h⟩ := Option.bind_eq_some_iff.1 h
  simp only at h
  split at h
  · obtain ⟨⟨v, after⟩, hv, h⟩ := Option.bind_eq_some_iff.1 h
    cases h
    exact hitem hv
  · cases h

theorem bounded_of_readPairs (hitem : ∀ {s v r}, item s = some (v, r) → v.Bounded) {pairs : List (Key × Value)}
    (h : readPairs item fuel s = some (pairs, rest)) : ∀ p ∈ pairs, p.2.Bounded := by
  induction fuel generalizing s pairs rest with
  | zero => cases h
  | succ fuel ih =>
    rw [readPairs] at h
    obtain ⟨⟨pair, left⟩, hpair, h⟩ := Option.bind_eq_some_iff.1 h
    simp only at h
    split at h
    · cases h
      simpa using bounded_of_readPair hitem hpair
    · obtain ⟨⟨more, left⟩, hmore, h⟩ := Option.bind_eq_some_iff.1 h
      cases h
      exact List.forall_mem_cons.2 ⟨bounded_of_readPair hitem hpair, ih hmore⟩
    · cases h

theorem bounded_of_readTable (hitem : ∀ {s v r}, item s = some (v, r) → v.Bounded)
    (h : readTable item s = some (v, rest)) : v.Bounded := by
  unfold readTable at h
  split at h
  · cases h
    exact .table (by simp)
  · obtain ⟨⟨pairs, left⟩, hpairs, h⟩ := Option.bind_eq_some_iff.1 h
    obtain ⟨w, hw, h⟩ := Option.bind_eq_some_iff.1 h
    cases h
    exact bounded_tableOfPairs? (bounded_of_readPairs hitem hpairs) hw

theorem bounded_of_readValue {depth : Nat} (h : readValue depth s = some (v, rest)) : v.Bounded := by
  induction depth generalizing s v rest with
  | zero =>
    cases s with
    | nil => cases h
    | cons c s =>
      rw [readValue] at h
      split at h
      · obtain ⟨_, -, h⟩ := Option.map_eq_some_iff.1 h
        cases h
        exact .text _
      · split at h
        · cases h
        · split at h
          · cases h
          · exact Scalar.bounded_of_read h
  | succ depth ih =>
    cases s with
    | nil => cases h
    | cons c s =>
      rw [readValue] at h
      split at h
      · obtain ⟨_, -, h⟩ := Option.map_eq_some_iff.1 h
        cases h
        exact .text _
      · split at h
        · obtain ⟨_, hitems, h⟩ := Option.map_eq_some_iff.1 h
          cases h
          exact .array (bounded_of_readItems ih hitems)
        · split at h
          · exact bounded_of_readTable ih h
          · exact Scalar.bounded_of_read h

theorem bounded_of_readStatement {statement : Statement} (h : readStatement s = some (statement, rest)) :
    statement.Bounded := by
  unfold readStatement at h
  split at h
  · obtain ⟨⟨key, left⟩, -, h⟩ := Option.bind_eq_some_iff.1 h
    split at h
    · obtain ⟨_, -, h⟩ := Option.bind_eq_some_iff.1 h
      cases h
      trivial
    · cases h
  · obtain ⟨⟨key, left⟩, -, h⟩ := Option.bind_eq_some_iff.1 h
    split at h
    · obtain ⟨_, -, h⟩ := Option.bind_eq_some_iff.1 h
      cases h
      trivial
    · cases h
  · obtain ⟨⟨⟨key, v⟩, left⟩, hpair, h⟩ := Option.bind_eq_some_iff.1 h
    obtain ⟨_, -, h⟩ := Option.bind_eq_some_iff.1 h
    cases h
    exact bounded_of_readPair bounded_of_readValue hpair

theorem bounded_of_readStatements {statements : List Statement} (h : readStatements fuel s = some statements) :
    ∀ s ∈ statements, s.Bounded := by
  induction fuel generalizing s statements with
  | zero => cases h
  | succ fuel ih =>
    rw [readStatements] at h
    split at h
    · cases h
      simp
    · split at h
      · exact ih h
      · obtain ⟨⟨statement, left⟩, hstatement, h⟩ := Option.bind_eq_some_iff.1 h
        obtain ⟨more, hmore, h⟩ := Option.bind_eq_some_iff.1 h
        cases h
        exact List.forall_mem_cons.2 ⟨bounded_of_readStatement hstatement, ih hmore⟩

/-- No text gives a key a value with a whole number that 64 bits with a sign do not hold. -/
theorem bounded_of_parse {text : String} {entries : List (String × Value)} (h : parse text = some entries) :
    ∀ e ∈ entries, e.2.Bounded := by
  obtain ⟨statements, hstatements, h⟩ := Option.bind_eq_some_iff.1 h
  exact bounded_entriesOf? (bounded_of_readStatements hstatements) h

end BuildCredentials.Toml
