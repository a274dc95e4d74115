import BuildCredentials.Proofs.FileTree.Making

/-!
# Files that are added to and written

Making directories a second time changes nothing in a tree that has grown since (`makeDirectories_again`). A file
that was added to is there to be added to (`append_of_keeps`), and one that was written has what was written
(`read_of_write`).
-/

set_option autoImplicit false

namespace BuildCredentials.FileTree

variable {t u : FileTree} {path : String} {l : Location} {content bytes : List UInt8}

/-- What an open file at a place would be added to: its content, or nothing if it is missing. -/
inductive Keeps (t : FileTree) (l : Location) : List UInt8 → Prop
  | missing : t.node? l = none → Keeps t l []
  | file {content : List UInt8} : t.node? l = some (.file content) → Keeps t l content

theorem Keeps.ne_directory (h : Keeps t l content) : t.node? l ≠ some .directory := by
  cases h with
  | missing h => simp [h]
  | file h => simp [h]

theorem makeDirectories_again (hm : t.makeDirectories path = (u, .ok ())) :
    Grows t u ∧ ∀ w, Grows u w → w.makeDirectories path = (w, .ok ()) := by
  obtain ⟨hmakes, hagain⟩ := makeDirectories_made hm
  exact ⟨hmakes.grows, fun w hw => hw.makeDirectories hagain⟩

/-! ## The end of a file -/

theorem append_of_keeps (hp : t.locate path = .ok l) (hk : Keeps t l content) (bytes : List UInt8) :
    t.append path bytes = .ok (t.set l (.file (content ++ bytes))) := by
  cases hk with
  | missing hn => simp [append, modify, hp, hn, bind, Except.bind]
  | file hn => simp [append, modify, hp, hn, bind, Except.bind]

theorem read_of_file (hp : t.locate path = .ok l) (hn : t.node? l = some (.file content)) :
    t.read path = .ok content := by
  simp [read, lookup, hp, hn, bind, Except.bind]

theorem isThere_of_read (h : t.read path = .ok content) : t.isThere path = true := by
  obtain ⟨n, hn, -⟩ := bind_eq_ok.1 h
  exact isThere_iff.2 ⟨n, hn⟩

/-! ## The whole of a file -/

theorem write_eq_ok :
    t.write path bytes = .ok u ↔
      ∃ l content, t.locate path = .ok l ∧ Keeps t l content ∧ u = t.set l (.file bytes) := by
  simp only [write, modify, bind_eq_ok]
  constructor
  · rintro ⟨l, hl, hu⟩
    cases hn : t.node? l with
    | none =>
      simp only [hn, Except.ok.injEq] at hu
      exact ⟨l, [], hl, .missing hn, hu.symm⟩
    | some n =>
      cases n with
      | file content =>
        simp only [hn, Except.ok.injEq] at hu
        exact ⟨l, content, hl, .file hn, hu.symm⟩
      | directory | socket => simp [hn] at hu
  · rintro ⟨l, content, hl, hk, rfl⟩
    refine ⟨l, hl, ?_⟩
    cases hk with
    | missing hn => simp [hn]
    | file hn => simp [hn]

theorem read_of_write (h : t.write path bytes = .ok u) : u.read path = .ok bytes := by
  obtain ⟨l, content, hl, hk, rfl⟩ := write_eq_ok.1 h
  exact read_of_file ((grows_set hk.ne_directory _).locate hl) (node?_set_self hk.ne_directory _)

end BuildCredentials.FileTree
