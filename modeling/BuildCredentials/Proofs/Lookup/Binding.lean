import BuildCredentials.Lookup.Socket
import BuildCredentials.Proofs.FileTree.Making

/-!
# What binding a socket does to other files

Main statement: `binding_spares_all_iff_no_file`. A socket is bound at a path, and taken away when the daemon
stops. Directories and all that stands elsewhere stay, and only directories on the way to the path are new, at
whichever step binding fails. What stands at the path itself is taken away before anyone looks at what it is: a file
there is lost (`binding_loses_file`).
-/

set_option autoImplicit false

namespace BuildCredentials

namespace FileTree

variable {t u : FileTree} {path : String}

theorem remove_eq_ok :
    t.remove path = .ok u ↔
      ∃ l n, t.locate path = .ok l ∧ t.node? l = some n ∧ n ≠ .directory ∧ u = t.clear l := by
  simp only [remove, bind_eq_ok]
  constructor
  · rintro ⟨l, hl, hu⟩
    cases hn : t.node? l with
    | none => simp [hn] at hu
    | some n =>
      cases n with
      | directory => simp [hn] at hu
      | file | socket =>
        simp only [hn, Except.ok.injEq] at hu
        exact ⟨l, _, hl, hn, by simp, hu.symm⟩
  · rintro ⟨l, n, hl, hn, hne, rfl⟩
    refine ⟨l, hl, ?_⟩
    cases n with
    | directory => exact absurd rfl hne
    | file | socket => simp [hn]

theorem remove_of_lookup {n : Node} (h : t.lookup path = .ok n) (hne : n ≠ .directory) :
    ∃ u, t.remove path = .ok u := by
  obtain ⟨l, hl, hn⟩ := lookup_eq_ok.1 h
  exact ⟨t.clear l, remove_eq_ok.2 ⟨l, n, hl, hn, hne, rfl⟩⟩

theorem makeSocket_eq_ok {mode : Nat} (h : t.makeSocket path mode = .ok u) :
    ∃ l, t.locate path = .ok l ∧ t.node? l = none ∧ u = t.set l (.socket mode) := by
  unfold makeSocket at h
  split at h
  · cases h
  · obtain ⟨l, hl, hu⟩ := bind_eq_ok.1 h
    cases hn : t.node? l with
    | none =>
      simp only [hn, Except.ok.injEq] at hu
      exact ⟨l, hl, hn, hu.symm⟩
    | some n => simp [hn] at hu

/-- Nothing is at the path of what was taken away. -/
theorem isThere_clear {l : Location} {n : Node} (hl : t.locate path = .ok l) (hn : t.node? l = some n)
    (hne : n ≠ .directory) : (t.clear l).isThere path = false := by
  have hnode : t.node? l ≠ some .directory := by simpa [hn] using hne
  have hlocate : (t.clear l).locate path = .ok l := (grows_clear hnode).locate hl
  simp [isThere, lookup, hlocate, node?_clear_self hnode, bind, Except.bind, Except.isOk, Except.toBool]

end FileTree

namespace Lookup.Socket

open FileTree (Makes node?_set_self node?_set_of_ne node?_clear_self node?_clear_of_ne)

variable {files made : FileTree} {path : String} {mode : Nat} {l : Location}

/-- Binds a socket and, if that succeeds, serves until the daemon is told to stop: serving itself leaves the files
alone. -/
def serveOnce (files : FileTree) (path : String) (mode : Nat) : FileTree × Except Error Unit :=
  match bind files path mode with
  | (bound, .ok ()) => close bound path
  | (left, .error e) => (left, .error e)

/-- What a daemon may do to the files that it finds: of what stands there, take away sockets, and of what does not,
make directories that lead to its path. -/
structure Spares (files after : FileTree) (path : String) : Prop where
  file : ∀ l content, files.node? l = some (.file content) → after.node? l = some (.file content)
  directory : ∀ l, files.node? l = some .directory → after.node? l = some .directory
  added : ∀ l n, after.node? l = some n →
    files.node? l = some n ∨ files.node? l = none ∧ n = .directory ∧ l ∈ files.wayToParent path

/-- A file stands in the way of the socket: the path leads to it once the directories on the way are made. -/
def Blocks (files : FileTree) (path : String) (l : Location) : Prop :=
  (∃ content, files.node? l = some (.file content)) ∧
    ∃ made, makeParents files path = (made, .ok ()) ∧ made.locate path = .ok l

/-! ## The steps of binding -/

theorem makeParents_makes {r : Except Error Unit} (h : makeParents files path = (made, r)) :
    Makes files made (files.wayToParent path) := by
  unfold makeParents at h
  unfold FileTree.wayToParent
  split at h
  · rename_i hp
    obtain ⟨rfl, -⟩ := Prod.mk.injEq .. ▸ h
    exact .refl files _
  · rename_i parent hp
    obtain ⟨rfl, -⟩ := Prod.mk.injEq .. ▸ h
    rw [hp]
    exact (FileTree.makeDirectories_made rfl).1

/-- Either nothing is taken away, or something at the path that is no directory. -/
theorem clear_cases {cleared : FileTree} (h : clear files path = .ok cleared) :
    files.remove path = .error .notFound ∧ cleared = files ∨ files.remove path = .ok cleared := by
  unfold clear at h
  split at h
  · rename_i removed hr
    cases h
    exact .inr hr
  · rename_i hr
    cases h
    exact .inl ⟨hr, rfl⟩
  · cases h

theorem clear_of_remove {cleared : FileTree} (h : files.remove path = .ok cleared) :
    clear files path = .ok cleared := by
  simp only [clear, h]

/-- After a daemon has closed its socket, at most a directory is at the path. -/
theorem eq_directory_of_close {after : FileTree} {r : Except Error Unit} {n : Node}
    (h : close files path = (after, r)) (hn : after.lookup path = .ok n) : n = .directory := by
  -- Whatever is left at the path was not taken away, as would have been anything but a directory.
  refine Classical.byContradiction fun hne => ?_
  cases hc : clear files path with
  | error e =>
    simp only [close, hc, Prod.mk.injEq] at h
    rw [← h.1] at hn
    obtain ⟨cleared, hremove⟩ := FileTree.remove_of_lookup hn hne
    cases hc.symm.trans (clear_of_remove hremove)
  | ok cleared =>
    simp only [close, hc, Prod.mk.injEq] at h
    rw [← h.1] at hn
    rcases clear_cases hc with ⟨hmissing, rfl⟩ | hremoved
    · obtain ⟨cleared, hremove⟩ := FileTree.remove_of_lookup hn hne
      cases hmissing.symm.trans hremove
    · obtain ⟨l, k, hl, hk, hkept, rfl⟩ := FileTree.remove_eq_ok.1 hremoved
      have hgone := FileTree.isThere_clear hl hk hkept
      rw [FileTree.isThere_iff.2 ⟨n, hn⟩] at hgone
      cases hgone

theorem create_eq_ok {bound : FileTree} (h : create files path mode = .ok bound) :
    ∃ l, files.locate path = .ok l ∧ files.node? l = none ∧ bound = files.set l (.socket mode) := by
  unfold create at h
  split at h
  · cases h
  · cases hm : files.makeSocket path mode with
    | error f =>
      rw [hm] at h
      cases h
    | ok made =>
      rw [hm] at h
      cases h
      exact FileTree.makeSocket_eq_ok hm

/-- A socket that was made is taken away again, and nothing else is. -/
theorem close_created {bound : FileTree} (h : create files path mode = .ok bound) :
    ∃ after, close bound path = (after, .ok ()) ∧ after.isThere path = false ∧
      ∀ m, after.node? m = files.node? m := by
  obtain ⟨l, hl, hnone, rfl⟩ := create_eq_ok h
  have hfree : files.node? l ≠ some .directory := by simp [hnone]
  have hsocket : (files.set l (.socket mode)).node? l = some (.socket mode) := node?_set_self hfree _
  have hnode : (files.set l (.socket mode)).node? l ≠ some .directory := by simp [hsocket]
  have hlocate : (files.set l (.socket mode)).locate path = .ok l := (FileTree.grows_set hfree _).locate hl
  have hremove : (files.set l (.socket mode)).remove path = .ok ((files.set l (.socket mode)).clear l) :=
    FileTree.remove_eq_ok.2 ⟨l, _, hlocate, hsocket, by simp, rfl⟩
  refine ⟨(files.set l (.socket mode)).clear l, ?_, ?_, ?_⟩
  · simp only [close, clear_of_remove hremove]
  · exact FileTree.isThere_clear hlocate hsocket (by simp)
  · intro m
    by_cases hm : m = l
    · rw [hm, node?_clear_self hnode, hnone]
    · rw [node?_clear_of_ne hm, node?_set_of_ne hm]

theorem serveOnce_of_no_parents {e : Error} (hp : makeParents files path = (made, .error e)) :
    serveOnce files path mode = (made, .error e) := by
  simp only [serveOnce, bind, hp]

theorem serveOnce_of_not_cleared {e : Error} (hp : makeParents files path = (made, .ok ()))
    (hc : clear made path = .error e) : serveOnce files path mode = (made, .error e) := by
  simp only [serveOnce, bind, hp, hc]

/-- From there on the files stay as they are, but for the socket itself, which is gone in the end. -/
theorem serveOnce_of_cleared {cleared : FileTree} (hp : makeParents files path = (made, .ok ()))
    (hc : clear made path = .ok cleared) (mode : Nat) :
    ∀ m, (serveOnce files path mode).1.node? m = cleared.node? m := by
  cases hb : create cleared path mode with
  | error e => simp [serveOnce, bind, hp, hc, hb]
  | ok bound =>
    obtain ⟨after, hclose, -, hnodes⟩ := close_created hb
    simpa [serveOnce, bind, hp, hc, hb, hclose] using hnodes

/-- A daemon that has bound its socket stops as it should, and then nothing is at the path. -/
theorem serveOnce_of_bound (h : (bind files path mode).2 = .ok ()) :
    (serveOnce files path mode).2 = .ok () ∧ (serveOnce files path mode).1.isThere path = false := by
  unfold bind at h
  split at h
  · cases h
  · rename_i made hp
    split at h
    · cases h
    · rename_i cleared hc
      split at h
      · cases h
      · rename_i bound hb
        obtain ⟨after, hclose, hgone, -⟩ := close_created hb
        simpa [serveOnce, bind, hp, hc, hb, hclose] using hgone

/-- What a daemon leaves of the files. -/
inductive Leaves (files : FileTree) (path : String) (after : FileTree) : Prop
  /-- Nothing was taken away: the directories could not be made, or nothing or a directory is at the path. -/
  | kept {made : FileTree} {r : Except Error Unit} : makeParents files path = (made, r) →
      (r = .ok () → ∀ cleared, made.remove path ≠ .ok cleared) →
      (∀ m, after.node? m = made.node? m) → Leaves files path after
  | cleared {made cleared : FileTree} : makeParents files path = (made, .ok ()) → made.remove path = .ok cleared →
      (∀ m, after.node? m = cleared.node? m) → Leaves files path after

theorem leaves_serveOnce (files : FileTree) (path : String) (mode : Nat) :
    Leaves files path (serveOnce files path mode).1 := by
  obtain ⟨made, r, hp⟩ : ∃ made r, makeParents files path = (made, r) := ⟨_, _, rfl⟩
  cases r with
  | error e =>
    rw [serveOnce_of_no_parents hp]
    exact .kept hp (by simp) fun _ => rfl
  | ok _ =>
    cases hc : clear made path with
    | error e =>
      rw [serveOnce_of_not_cleared hp hc]
      refine .kept hp (fun _ cleared hr => ?_) fun _ => rfl
      cases hc.symm.trans (clear_of_remove hr)
    | ok cleared =>
      have hnodes := serveOnce_of_cleared hp hc mode
      rcases clear_cases hc with ⟨hmissing, rfl⟩ | hremoved
      · exact .kept hp (fun _ _ hr => by cases hmissing.symm.trans hr) hnodes
      · exact .cleared hp hremoved hnodes

/-! ## What is left of each place -/

variable {after : FileTree}

namespace Leaves

/-- A place is left as it is once the directories are made, but for what was taken away at the path. -/
theorem node? (h : Leaves files path after) :
    ∃ made, Makes files made (files.wayToParent path) ∧ ∀ l, after.node? l = made.node? l ∨
      after.node? l = none ∧ made.node? l ≠ some .directory ∧ made.locate path = .ok l ∧
        makeParents files path = (made, .ok ()) := by
  cases h with
  | @kept made r hp _ hnodes =>
    have hmakes : Makes files made (files.wayToParent path) := makeParents_makes hp
    exact ⟨made, hmakes, fun l => .inl (hnodes l)⟩
  | @cleared made cleared hp hr hnodes =>
    have hmakes : Makes files made (files.wayToParent path) := makeParents_makes hp
    obtain ⟨m, n, hm, hn, hne, rfl⟩ := FileTree.remove_eq_ok.1 hr
    have hnode : made.node? m ≠ some .directory := by simpa [hn] using hne
    refine ⟨made, hmakes, fun l => ?_⟩
    by_cases hl : l = m
    · subst hl
      exact .inr ⟨by rw [hnodes, node?_clear_self hnode], hnode, hm, hp⟩
    · exact .inl (by rw [hnodes, node?_clear_of_ne hl])

theorem directory (h : Leaves files path after) (hl : files.node? l = some .directory) :
    after.node? l = some .directory := by
  obtain ⟨made, hmakes, hnodes⟩ := h.node?
  have hmade : made.node? l = some .directory := hmakes.keeps hl
  rcases hnodes l with hsame | ⟨-, hnot, -⟩
  · rw [hsame, hmade]
  · exact absurd hmade hnot

theorem added (h : Leaves files path after) {n : Node} (hl : after.node? l = some n) :
    files.node? l = some n ∨ files.node? l = none ∧ n = .directory ∧ l ∈ files.wayToParent path := by
  obtain ⟨made, hmakes, hnodes⟩ := h.node?
  rcases hnodes l with hsame | ⟨hnone, -⟩
  · rw [hsame] at hl
    rcases hmakes.node l with hold | ⟨hnew, hdir, hmem⟩
    · exact .inl (hold ▸ hl)
    · rw [hdir] at hl
      cases hl
      exact .inr ⟨hnew, rfl, hmem⟩
  · rw [hnone] at hl
    cases hl

/-- Whatever is lost was at the path. -/
theorem lost (h : Leaves files path after) {n : Node} (hl : files.node? l = some n) :
    after.node? l = some n ∨
      ∃ made, makeParents files path = (made, .ok ()) ∧ made.locate path = .ok l := by
  obtain ⟨made, hmakes, hnodes⟩ := h.node?
  rcases hnodes l with hsame | ⟨-, -, hm, hp⟩
  · exact .inl (hsame.trans (hmakes.keeps hl))
  · exact .inr ⟨made, hp, hm⟩

/-- A file in the way is lost. -/
theorem of_blocks (h : Leaves files path after) (hb : Blocks files path l) : after.node? l = none := by
  obtain ⟨⟨content, hl⟩, made, hp, hm⟩ := hb
  have hmakes : Makes files made (files.wayToParent path) := makeParents_makes hp
  have hmade : made.node? l = some (.file content) := hmakes.keeps hl
  have hremove : made.remove path = .ok (made.clear l) :=
    FileTree.remove_eq_ok.2 ⟨l, _, hm, hmade, by simp, rfl⟩
  cases h with
  | kept hp' hnot =>
    obtain ⟨rfl, rfl⟩ := Prod.mk.injEq .. ▸ hp.symm.trans hp'
    exact absurd hremove (hnot rfl _)
  | cleared hp' hr hnodes =>
    obtain ⟨rfl, -⟩ := Prod.mk.injEq .. ▸ hp.symm.trans hp'
    cases hremove.symm.trans hr
    rw [hnodes, node?_clear_self (by simp [hmade])]

end Leaves

/-- A daemon spares all files and directories that it finds, and makes no more than directories that lead to its
path, just if no file stands in its way; and a file that does is lost. In any case the directories stay, and so does
all that is not at the path, and after the daemon has stopped as it should nothing is there. -/
theorem binding_spares_all_iff_no_file (files : FileTree) (path : String) (mode : Nat) :
    let after := (serveOnce files path mode).1
    (Spares files after path ↔ ∀ l, ¬Blocks files path l) ∧
      (∀ l, Blocks files path l → after.node? l = none) ∧
      (∀ l, files.node? l = some .directory → after.node? l = some .directory) ∧
      (∀ l n, files.node? l = some n → after.node? l = some n ∨
        ∃ made, makeParents files path = (made, .ok ()) ∧ made.locate path = .ok l) ∧
      (∀ l n, after.node? l = some n →
        files.node? l = some n ∨ files.node? l = none ∧ n = .directory ∧ l ∈ files.wayToParent path) ∧
      ((bind files path mode).2 = .ok () → (serveOnce files path mode).2 = .ok () ∧ after.isThere path = false) := by
  intro after
  have hleaves : Leaves files path after := leaves_serveOnce files path mode
  refine ⟨⟨fun hspares l hb => ?_, fun hfree => ⟨fun l content hl => ?_, fun l => hleaves.directory,
    fun l n => hleaves.added⟩⟩, fun l => hleaves.of_blocks, fun l => hleaves.directory, fun l n => hleaves.lost,
    fun l n => hleaves.added, serveOnce_of_bound⟩
  · obtain ⟨content, hl⟩ := hb.1
    cases (hspares.file l content hl).symm.trans (hleaves.of_blocks hb)
  · rcases hleaves.lost hl with hstays | hpath
    · exact hstays
    · exact absurd ⟨⟨content, hl⟩, hpath⟩ (hfree l)

/-- A file at the path of a socket is gone when the daemon has stopped, and no step has failed. -/
theorem binding_loses_file :
    let files := ({} : FileTree).set ["notes"] (.file [104, 105])
    let after := (serveOnce files "notes" 0o600).1
    (serveOnce files "notes" 0o600).2.isOk ∧ files.node? ["notes"] = some (.file [104, 105]) ∧
      after.node? ["notes"] = none ∧ ¬Spares files after "notes" := by
  intro files after
  have hfile : files.node? ["notes"] = some (.file [104, 105]) := by decide +kernel
  have hgone : after.node? ["notes"] = none := by decide +kernel
  refine ⟨by decide +kernel, hfile, hgone, fun hspares => ?_⟩
  cases hgone.symm.trans (hspares.file _ _ hfile)

end Lookup.Socket

end BuildCredentials
