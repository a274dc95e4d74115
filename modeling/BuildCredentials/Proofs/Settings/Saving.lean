import BuildCredentials.Proofs.FileTree.Descending
import BuildCredentials.Proofs.Json.Strings
import BuildCredentials.Proofs.Settings.Text
import BuildCredentials.Settings.Command

/-!
# Settings are loaded as they were saved

What was saved is loaded again (`load_of_save`), and settings that were loaded can be saved as far as the file can be
written (`save_of_fits`). A file that could not be saved is as it was: at most directories that lead to it are new
(`save_error`). A rooted tree stays rooted, whatever is asked of the settings (`rooted_loadAndRun`).
-/

set_option autoImplicit false

namespace BuildCredentials.Settings

open FileTree (Makes)

variable {tree made after : FileTree} {path text : String} {s : Settings} {e : Error}

/-! ## Loading -/

theorem load_of_read (h : tree.read path = .ok (Utf8.encode text)) (hs : parse? text = some s) :
    load tree path = .ok s := by
  simp [load, FileTree.isThere_of_read h, h, hs]

theorem fits_of_load (h : load tree path = .ok s) : s.Fits := by
  unfold load at h
  split at h
  · cases h
    exact fits_default
  · split at h
    · cases h
    · split at h
      · cases h
      · split at h
        · rename_i hs
          cases h
          exact fits_of_parse? hs
        · cases h

/-- Directories that are made change nothing of what is loaded, unless they bring something to light. -/
theorem load_of_makes {places : List Location} (h : Makes tree made places)
    (ht : tree.isThere path = false → made.isThere path = false) : load made path = load tree path := by
  unfold load
  cases hthere : tree.isThere path with
  | false => simp [ht hthere]
  | true => simp only [h.isThere hthere, h.read hthere]

/-! ## The directory of a file -/

/-- Of the directory of a file, what was made is there, and is all that can be made of it. -/
theorem makeParent_made (tree : FileTree) (path : String) :
    Makes tree (makeParent tree path).1 (tree.wayToParent path) ∧
      makeParent (makeParent tree path).1 path = makeParent tree path := by
  unfold makeParent FileTree.wayToParent
  cases FileTree.parentPath? path with
  | none => exact ⟨.refl _ _, rfl⟩
  | some parent =>
    obtain ⟨⟨made, r⟩, hm⟩ : ∃ p, tree.makeDirectories parent = p := ⟨_, rfl⟩
    obtain ⟨hmakes, hagain⟩ := FileTree.makeDirectories_made hm
    simp only [Option.map_some, Option.getD_some, hm]
    cases r with
    | ok _ => exact ⟨hmakes, by simp only [hagain]⟩
    | error f => exact ⟨hmakes, by simp only [hagain]⟩

theorem rooted_makeParent (hr : tree.Rooted) (path : String) : (makeParent tree path).1.Rooted := by
  unfold makeParent
  cases FileTree.parentPath? path with
  | none => exact hr
  | some parent =>
    obtain ⟨⟨made, r⟩, hm⟩ : ∃ p, tree.makeDirectories parent = p := ⟨_, rfl⟩
    cases r <;> simpa only [hm] using hr.makeDirectories hm

/-- Where a path is straight, a file that is missing is missing still. -/
theorem absent_makeParent (hr : tree.Rooted) (hs : tree.Straight path) (ha : tree.isThere path = false) :
    (makeParent tree path).1.isThere path = false := by
  unfold makeParent
  cases hp : FileTree.parentPath? path with
  | none => exact ha
  | some parent =>
    obtain ⟨⟨made, r⟩, hm⟩ : ∃ p, tree.makeDirectories parent = p := ⟨_, rfl⟩
    have habsent : made.isThere path = false := by
      refine Bool.eq_false_iff.2 fun hthere => ?_
      cases ha.symm.trans (hs.isThere hr hp hm hthere)
    cases r <;> simpa only [hm] using habsent

/-! ## Saving -/

/-- A settings file can be written: its directory can be made, and then the file. -/
def Writable (tree : FileTree) (path : String) : Prop :=
  ∃ made, makeParent tree path = (made, .ok ()) ∧ ∀ bytes, ∃ after, made.write path bytes = .ok after

theorem save_eq_ok (h : save tree path s = (after, .ok ())) :
    ∃ made text, makeParent tree path = (made, .ok ()) ∧ s.write? = some text ∧
      made.write path (Utf8.encode text) = .ok after := by
  unfold save at h
  split at h
  · cases h
  · rename_i made hm
    split at h
    · cases h
    · rename_i text ht
      split at h
      · rename_i hw
        cases h
        exact ⟨made, text, hm, ht, hw⟩
      · cases h

theorem load_of_save (h : save tree path s = (after, .ok ())) :
    after.isThere path = true ∧ load after path = .ok s := by
  obtain ⟨made, text, -, ht, hw⟩ := save_eq_ok h
  have hread := FileTree.read_of_write hw
  exact ⟨FileTree.isThere_of_read hread, load_of_read hread (parse?_write? ht)⟩

/-- Every error comes before the file is written. -/
theorem save_error (h : save tree path s = (after, .error e)) : (makeParent tree path).1 = after := by
  unfold save at h
  split at h
  · rename_i hm
    cases h
    rw [hm]
  · rename_i hm
    split at h
    · cases h
      rw [hm]
    · split at h
      · cases h
      · cases h
        rw [hm]

theorem rooted_save (hr : tree.Rooted) (path : String) (s : Settings) : (save tree path s).1.Rooted := by
  have hmade := rooted_makeParent hr path
  obtain ⟨⟨after, r⟩, hs⟩ : ∃ p, save tree path s = p := ⟨_, rfl⟩
  rw [hs]
  cases r with
  | error e => exact save_error hs ▸ hmade
  | ok _ =>
    obtain ⟨made, text, hm, -, hw⟩ := save_eq_ok hs
    rw [hm] at hmade
    exact hmade.write hw

theorem rooted_saveAndSay (hr : tree.Rooted) (path : String) (s : Settings) (said : String) :
    (saveAndSay tree path s said).tree.Rooted := by
  have hsave := rooted_save hr path s
  unfold saveAndSay
  obtain ⟨⟨after, r⟩, hs⟩ : ∃ p, save tree path s = p := ⟨_, rfl⟩
  rw [hs] at hsave ⊢
  cases r <;> exact hsave

/-- No command on settings leaves anything without a directory to stand in. -/
theorem rooted_loadAndRun (hr : tree.Rooted) (path : String) (command : Command) :
    (loadAndRun tree path command).tree.Rooted := by
  unfold loadAndRun
  split
  · rename_i s _
    cases command with
    | print =>
      simp only [run]
      cases s.write? <;> exact hr
    | path => exact hr
    | create force =>
      simp only [run]
      split
      · exact hr
      · exact rooted_saveAndSay hr path _ _
    | assign key value =>
      simp only [run]
      cases s.assign key value with
      | ok changed => exact rooted_saveAndSay hr path _ _
      | error e => exact hr
  · exact hr

theorem save_of_fits (hw : Writable tree path) (h : s.Fits) : ∃ after, save tree path s = (after, .ok ()) := by
  obtain ⟨made, hm, hw⟩ := hw
  obtain ⟨after, hafter⟩ := hw (Utf8.encode (String.ofList s.text))
  exact ⟨after, by simp only [save, hm, write?_of_fits h, hafter]⟩

theorem save_of_not_fits (hw : Writable tree path) (h : ¬s.Fits) :
    ∃ after, save tree path s = (after, .error (.tomlUnwritable "out-of-range value")) := by
  obtain ⟨made, hm, -⟩ := hw
  have hnone : s.write? = none := Option.eq_none_iff_forall_ne_some.2 fun text ht => h (fits_of_write? ht)
  exact ⟨made, by simp only [save, hm, hnone]⟩

end BuildCredentials.Settings
