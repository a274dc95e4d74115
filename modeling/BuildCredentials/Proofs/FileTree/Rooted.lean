import BuildCredentials.Proofs.FileTree.Appending

/-!
# Trees with a root

In the trees that there are on a machine, whatever stands in a directory has the directory to stand in (`Rooted`).
Making directories and writing files keeps it so: what is new gets its place in a directory that is there
(`Rooted.makeDirectories`, `Rooted.write`).
-/

set_option autoImplicit false

namespace BuildCredentials.FileTree

variable {t u : FileTree} {l m : Location} {name path : String} {names : List String} {bytes : List UInt8}

/-- Paths start somewhere, and what stands in a directory has the directory to stand in. -/
structure Rooted (t : FileTree) : Prop where
  absolute : t.workdir.toList.head? = some '/'
  here : t.node? t.here = some .directory
  parent : ∀ (l : Location) (name : String), t.node? (l ++ [name]) ≠ none → t.node? l = some .directory

theorem directory_of_begins (h : l <+: t.workdirPlace) : t.node? l = some .directory :=
  if_pos (List.isPrefixOf_iff_prefix.2 h)

/-- Without files the working directory and those above it are there, and nothing else. -/
theorem rooted_of_no_nodes (hw : t.workdir.toList.head? = some '/') (hh : t.here = [])
    (h : ∀ l : Location, t.nodes[l]? = none) : t.Rooted where
  absolute := hw
  here := hh ▸ directory_of_begins List.nil_prefix
  parent l name hthere := by
    rw [node?] at hthere
    split at hthere
    · rename_i hprefix
      exact directory_of_begins ((List.prefix_append l [name]).trans (List.isPrefixOf_iff_prefix.1 hprefix))
    · exact absurd (h _) hthere

namespace Rooted

/-- What is put into a directory that is there stands in it, and whatever stood elsewhere still does. -/
theorem set (hr : t.Rooted) (hl : t.node? l ≠ some .directory)
    (above : ∀ m name, l = m ++ [name] → t.node? m = some .directory) (n : Node) : (t.set l n).Rooted where
  absolute := hr.absolute
  here := (grows_set hl n).directory _ hr.here
  parent m name hthere := by
    refine (grows_set hl n).directory m ?_
    by_cases he : m ++ [name] = l
    · exact above m name he.symm
    · rw [node?_set_of_ne he] at hthere
      exact hr.parent m name hthere

/-! ## Places that names lead to -/

theorem above (hr : t.Rooted) (h : t.node? l = some .directory) : t.node? (t.above l) = some .directory := by
  unfold FileTree.above
  split
  · exact directory_of_begins (List.dropLast_prefix _)
  · split
    · exact directory_of_begins (List.prefix_append root _)
    · rename_i hnil _
      rw [← List.dropLast_concat_getLast hnil] at h
      have hthere : t.node? (l.dropLast ++ [l.getLast hnil]) ≠ none := by simp [h]
      exact hr.parent _ _ hthere

/-- Of the places that a name leads to from a directory, only one right below it can be anything but a directory. -/
theorem child_eq (hr : t.Rooted) (hl : t.node? l = some .directory)
    (hne : t.node? (t.child l name) ≠ some .directory) : t.child l name = l ++ [name] := by
  unfold child at hne ⊢
  split at hne
  · exact absurd (hr.above hl) hne
  · split at hne
    · exact absurd (directory_of_begins List.nil_prefix) hne
    · rename_i hup hplace
      rw [if_neg hup, if_neg hplace]

theorem of_child (hr : t.Rooted) (hup : name ≠ "..") (h : t.node? (t.child l name) ≠ none) :
    t.node? l = some .directory := by
  rw [child, if_neg hup] at h
  split at h
  · rename_i hplace
    exact directory_of_begins (hplace ▸ List.prefix_append l [name])
  · exact hr.parent l name h

theorem above_of_child (hr : t.Rooted) (hl : t.node? l = some .directory)
    (hne : t.node? (t.child l name) ≠ some .directory) :
    ∀ d last, t.child l name = d ++ [last] → t.node? d = some .directory := by
  intro d last he
  rw [hr.child_eq hl hne] at he
  rwa [← (List.append_inj' he rfl).1]

/-- Where names lead to anything but a directory, it stands in one. -/
theorem above_of_follow (hr : t.Rooted) (hl : t.node? l = some .directory) (h : t.follow l names = .ok m)
    (hne : t.node? m ≠ some .directory) : ∀ d last, m = d ++ [last] → t.node? d = some .directory := by
  induction names generalizing l with
  | nil =>
    cases h
    exact absurd hl hne
  | cons name names ih =>
    obtain ⟨-, -, h⟩ := follow_cons_eq_ok.1 h
    by_cases hc : t.node? (t.child l name) = some .directory
    · exact ih hc h
    · cases names with
      | nil =>
        cases h
        exact hr.above_of_child hl hc
      | cons next names => exact absurd (checkDirectory_eq_ok.1 (follow_cons_eq_ok.1 h).1) hc

theorem node?_start (hr : t.Rooted) (path : String) : t.node? (t.start path).1 = some .directory := by
  unfold start
  split
  · exact directory_of_begins List.nil_prefix
  · split
    · exact directory_of_begins (List.prefix_append root _)
    · exact hr.here

/-! ## What operations keep -/

theorem makeWay {r : Except FileFault Unit} (hr : t.Rooted) (hm : t.makeWay l names = (u, r)) : u.Rooted := by
  induction names generalizing t l with
  | nil =>
    cases hm
    exact hr
  | cons name names ih =>
    rcases makeWay_cons_cases t l name names with ⟨f, hf⟩ | ⟨hl, -, ⟨hnone, hnext⟩ | ⟨-, hnext⟩⟩
    · cases hf.symm.trans hm
      exact hr
    · have hne : t.node? (t.child l name) ≠ some .directory := by simp [hnone]
      have habove := hr.above_of_child (checkDirectory_eq_ok.1 hl) hne
      exact ih (hr.set hne habove .directory) (hnext.symm.trans hm)
    · exact ih hr (hnext.symm.trans hm)

theorem makeDirectories {r : Except FileFault Unit} (hr : t.Rooted) (hm : t.makeDirectories path = (u, r)) :
    u.Rooted := by
  unfold FileTree.makeDirectories at hm
  split at hm
  · cases hm
    exact hr
  · exact hr.makeWay hm

theorem write (hr : t.Rooted) (h : t.write path bytes = .ok u) : u.Rooted := by
  obtain ⟨l, content, hl, hk, rfl⟩ := write_eq_ok.1 h
  obtain ⟨-, -, hfollow, -⟩ := locate_eq_ok.1 hl
  exact hr.set hk.ne_directory (hr.above_of_follow (hr.node?_start path) hfollow hk.ne_directory) _

end Rooted

end BuildCredentials.FileTree
