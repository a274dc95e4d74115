import BuildCredentials.Proofs.FileTree.Descending
import BuildCredentials.Proofs.Settings.Saving

/-!
# Setting one setting

Main statement: `assign_sets_one_or_none`. A call that fails leaves every file as it was; one that succeeds leaves a
file from which the same settings are loaded but for the one that the key names. After many calls each setting has the
value of the last successful one for it (`SetLast`). A file that is missing stays so on every straight path; on others
the directory that a call has made may bring one to light (`assign_brings_file_to_light`).
-/

set_option autoImplicit false

namespace BuildCredentials

theorem Setting.key_injective : Function.Injective Setting.key := by
  intro a b h
  cases a <;> cases b <;> first | rfl | exact absurd h (by decide)

namespace Settings

variable {tree : FileTree} {path key value : String} {s t u changed : Settings} {setting : Setting}
  {done : List (String × String)}

/-! ## What calls are to do -/

/-- No file is changed, made or lost. -/
def SameFiles (tree after : FileTree) : Prop :=
  ∀ l content, after.node? l = some (.file content) ↔ tree.node? l = some (.file content)

/-- A call leaves the file at a path with its bytes, or absent if it was and the path is straight, and all other files
as well. The directory of the file may be new, even so; what the path leads to then was there before. -/
structure Untouched (tree after : FileTree) (path : String) : Prop where
  files : SameFiles tree after
  read : ∀ bytes, tree.read path = .ok bytes → after.read path = .ok bytes
  absent : tree.Rooted → tree.Straight path → tree.isThere path = false → after.isThere path = false
  shown : ∀ l n, after.locate path = .ok l → after.node? l = some n →
    tree.node? l = some n ∨ n = .directory ∧ l ∈ tree.wayToParent path

/-- Settings differ in one, which says what a user typed. -/
structure Sets (s t : Settings) (setting : Setting) (value : String) : Prop where
  typed : setting.typed value = .ok (t.get setting)
  others : ∀ other, other ≠ setting → t.get other = s.get other

/-- Calls with keys and values one after another: the files after them, and the calls that succeeded. -/
def assignEach (path : String) : FileTree → List (String × String) → FileTree × List (String × String)
  | tree, [] => (tree, [])
  | tree, (key, value) :: calls =>
    let answer := loadAndRun tree path (.assign key value)
    let (after, done) := assignEach path answer.tree calls
    (after, if answer.result.isOk then (key, value) :: done else done)

/-- A setting has the value of the last of the calls that succeeded for it, or the one that it had before them. -/
inductive SetLast (s t : Settings) (setting : Setting) (done : List (String × String)) : Prop
  | original : (∀ call ∈ done, call.1 ≠ setting.key) → t.get setting = s.get setting → SetLast s t setting done
  | last {earlier later : List (String × String)} {value : String} :
      done = earlier ++ (setting.key, value) :: later → (∀ call ∈ later, call.1 ≠ setting.key) →
      setting.typed value = .ok (t.get setting) → SetLast s t setting done

/-! ## One call -/

theorem assign_eq_ok :
    s.assign key value = .ok changed ↔
      ∃ setting v, Setting.ofKey? key = some setting ∧ setting.typed value = .ok v ∧ changed = s.put setting v := by
  unfold assign
  cases Setting.ofKey? key with
  | none => simp
  | some setting =>
    simp only [Setting.ofText_eq, Option.some.injEq]
    cases ht : setting.typed value with
    | error r => simp [Except.map, ht]
    | ok v => simp [Except.map, ht, eq_comm]

theorem sets_put {v : setting.Kind} (hv : setting.typed value = .ok v) : Sets s (s.put setting v) setting value :=
  ⟨by rw [get_put_self, hv], fun _ ho => get_put_of_ne ho v⟩

/-- How a call ends. -/
inductive Ends (tree : FileTree) (path : String) (s : Settings) (key value : String) : Answer → Prop
  /-- What was typed means nothing, and no file is looked at. -/
  | refused {answer : Answer} {e : Error} : s.assign key value = .error e → answer.result = .error e →
      answer.tree = tree → Ends tree path s key value answer
  /-- The settings could not be saved. -/
  | unsaved {answer : Answer} {changed : Settings} {e : Error} : s.assign key value = .ok changed →
      answer.result = .error e → answer.tree = (makeParent tree path).1 → Ends tree path s key value answer
  | saved {answer : Answer} {changed : Settings} : s.assign key value = .ok changed → answer.result = .ok () →
      answer.tree.isThere path = true → load answer.tree path = .ok changed → Ends tree path s key value answer

theorem assign_ends (h : load tree path = .ok s) (key value : String) :
    Ends tree path s key value (loadAndRun tree path (.assign key value)) := by
  simp only [loadAndRun, h, run]
  cases ha : s.assign key value with
  | error e => exact .refused ha rfl rfl
  | ok changed =>
    simp only [saveAndSay]
    cases hs : save tree path changed with
    | mk after r =>
      cases r with
      | error e => exact .unsaved ha rfl (save_error hs).symm
      | ok _ =>
        obtain ⟨hthere, hload⟩ := load_of_save hs
        exact .saved ha rfl hthere hload

theorem Untouched.refl (tree : FileTree) (path : String) : Untouched tree tree path :=
  ⟨fun _ _ => Iff.rfl, fun _ h => h, fun _ _ h => h, fun _ _ _ h => .inl h⟩

theorem untouched_makeParent (tree : FileTree) (path : String) : Untouched tree (makeParent tree path).1 path := by
  obtain ⟨hmakes, -⟩ := makeParent_made tree path
  refine ⟨fun _ _ => hmakes.node?_eq_file_iff, fun bytes h => ?_, absent_makeParent, fun l n _ hn => ?_⟩
  · rw [hmakes.read (FileTree.isThere_of_read h), h]
  · rcases hmakes.node l with hsame | ⟨-, hdir, hmem⟩
    · exact .inl (hsame ▸ hn)
    · cases hdir.symm.trans hn
      exact .inr ⟨rfl, hmem⟩

theorem assign_atomic (h : load tree path = .ok s) (key value : String) :
    (∃ e, (loadAndRun tree path (.assign key value)).result = .error e ∧
        Untouched tree (loadAndRun tree path (.assign key value)).tree path) ∨
      (loadAndRun tree path (.assign key value)).result = .ok () ∧ ∃ setting t, setting.key = key ∧
        load (loadAndRun tree path (.assign key value)).tree path = .ok t ∧ Sets s t setting value := by
  cases assign_ends h key value with
  | refused _ hr ht => exact .inl ⟨_, hr, by rw [ht]; exact .refl tree path⟩
  | unsaved _ hr ht => exact .inl ⟨_, hr, by rw [ht]; exact untouched_makeParent tree path⟩
  | saved ha hr _ hl =>
    obtain ⟨setting, v, hkey, hv, rfl⟩ := assign_eq_ok.1 ha
    exact .inr ⟨hr, setting, _, Setting.key_of_ofKey? hkey, hl, sets_put hv⟩

/-! ## Calls one after another -/

theorem SetLast.refl (s : Settings) (setting : Setting) : SetLast s s setting [] := .original (by simp) rfl

/-- A first call counts for its setting unless another follows. -/
theorem SetLast.cons {first : Setting} (hset : Sets s t first value) (h : SetLast t u setting done) :
    SetLast s u setting ((first.key, value) :: done) := by
  cases h with
  | @last earlier _ _ hdone hlater hv =>
    have hmore : (first.key, value) :: done = ((first.key, value) :: earlier) ++ _ := congrArg (_ :: ·) hdone
    exact .last hmore hlater hv
  | original hnone hsame =>
    -- No later call is for the setting, so the first one decides if its key names it, which no other setting has.
    by_cases hf : setting = first
    · subst hf
      have hfirst : (setting.key, value) :: done = [] ++ (setting.key, value) :: done := rfl
      exact .last hfirst hnone (hsame ▸ hset.typed)
    · have hkey : first.key ≠ setting.key := fun he => hf (Setting.key_injective he).symm
      exact .original (List.forall_mem_cons.2 ⟨hkey, hnone⟩) (hsame.trans (hset.others setting hf))

theorem straight_loadAndRun (h : load tree path = .ok s) (hs : tree.Straight path) (key value : String) :
    (loadAndRun tree path (.assign key value)).tree.Straight path := by
  cases assign_ends h key value with
  | refused _ _ ht => rwa [ht]
  | unsaved _ _ ht => exact ht ▸ (makeParent_made tree path).1.straight hs
  | saved _ _ hthere _ => exact .there hthere

theorem assignEach_setsLast (hr : tree.Rooted) (hs : tree.Straight path) (h : load tree path = .ok s)
    (calls : List (String × String)) :
    ∃ t, load (assignEach path tree calls).1 path = .ok t ∧
      ∀ setting, SetLast s t setting (assignEach path tree calls).2 := by
  -- Every call keeps the tree rooted and the path straight; one that fails leaves what is loaded as well.
  induction calls generalizing tree s with
  | nil => exact ⟨s, h, SetLast.refl s⟩
  | cons call calls ih =>
    obtain ⟨key, value⟩ := call
    have hrooted := rooted_loadAndRun hr path (.assign key value)
    have hstraight := straight_loadAndRun h hs key value
    rw [assignEach]
    cases assign_ends h key value with
    | refused _ hresult ht =>
      rw [hresult]
      exact ih hrooted hstraight (by rw [ht]; exact h)
    | unsaved _ hresult ht =>
      have hsame := load_of_makes (makeParent_made tree path).1 (absent_makeParent hr hs)
      rw [hresult]
      exact ih hrooted hstraight (by rw [ht]; exact hsame.trans h)
    | saved ha hresult _ hload =>
      obtain ⟨first, v, hkey, hv, rfl⟩ := assign_eq_ok.1 ha
      obtain ⟨t, ht, hlast⟩ := ih hrooted hstraight hload
      cases Setting.key_of_ofKey? hkey
      rw [hresult]
      exact ⟨t, ht, fun setting => (hlast setting).cons (sets_put hv)⟩

/-- For every text that is loaded, and every key and value. -/
theorem assign_sets_one_or_none (h : load tree path = .ok s) :
    (∀ key value, let answer := loadAndRun tree path (.assign key value)
      (∃ e, answer.result = .error e ∧ Untouched tree answer.tree path) ∨
        answer.result = .ok () ∧ ∃ setting t, setting.key = key ∧ load answer.tree path = .ok t ∧
          Sets s t setting value) ∧
    (tree.Rooted → tree.Straight path → ∀ calls, ∃ t, load (assignEach path tree calls).1 path = .ok t ∧
      ∀ setting, SetLast s t setting (assignEach path tree calls).2) :=
  ⟨assign_atomic h, fun hr hs => assignEach_setsLast hr hs h⟩

/-- Neither the file is there yet nor its directory. -/
theorem assign_sets_one_or_none_of_absent :
    FileTree.Rooted {} ∧ FileTree.Straight {} "finchcred/config.toml" ∧ load {} "finchcred/config.toml" = .ok {} ∧
      ∃ t, load (assignEach "finchcred/config.toml" {} [("general.verbose", "yes"), ("build.engine", "")]).1
          "finchcred/config.toml" = .ok t ∧
        ∀ setting, SetLast {} t setting
          (assignEach "finchcred/config.toml" {} [("general.verbose", "yes"), ("build.engine", "")]).2 := by
  have hr : FileTree.Rooted {} := FileTree.rooted_of_no_nodes (by decide) rfl fun _ => Std.ExtTreeMap.getElem?_empty
  have hs : FileTree.Straight {} "finchcred/config.toml" := .descends (by decide)
  have hload : load {} "finchcred/config.toml" = .ok {} := by rfl
  exact ⟨hr, hs, hload, (assign_sets_one_or_none hload).2 hr hs _⟩

/-- The path goes back out of a directory that is missing. It leads nowhere, so that the usual settings are loaded. The
call cannot save what it was given, but it has made the directory: now the path leads to a file that was there all the
time, and the settings in it are loaded though no call succeeded. -/
theorem assign_brings_file_to_light :
    let tree : FileTree := FileTree.set {} ["f"] (.file (Utf8.encode "[general]\nverbose = true\n"))
    let answer := loadAndRun tree "a/../f" (.assign "helper.dial_timeout_secs" "9223372036854775808")
    let (after, done) := assignEach "a/../f" tree [("helper.dial_timeout_secs", "9223372036854775808")]
    load tree "a/../f" = .ok {} ∧ tree.isThere "a/../f" = false ∧
      answer.result = .error (.tomlUnwritable "out-of-range value") ∧ answer.tree.isThere "a/../f" = true ∧
      done = [] ∧ load after "a/../f" = .ok { verbose := true } :=
  ⟨by decide +kernel, by decide +kernel, by decide +kernel, by decide +kernel, by decide +kernel, by decide +kernel⟩

end Settings

end BuildCredentials
