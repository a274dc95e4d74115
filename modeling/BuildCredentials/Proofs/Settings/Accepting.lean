import BuildCredentials.Proofs.Settings.Assigning

/-!
# What is accepted and what can be saved

Main statement: `accepted_is_saved_iff_in_range`. A value that a user may give a setting is saved, and loaded again,
unless it is a number of seconds beyond what a settings file holds. Such a number is accepted, and then writing the
file fails (`accepted_beyond_range_is_not_saved`).
-/

set_option autoImplicit false

namespace BuildCredentials.Settings

variable {tree : FileTree} {path key value : String} {s changed : Settings}

/-- If a key asks for seconds, a settings file can have the number that is typed. -/
def InRange (key value : String) : Prop :=
  ∀ setting ∈ [Setting.headerSeconds, Setting.dialSeconds], setting.key = key →
    ∀ n, Setting.readSeconds value = .ok n → n.toNat ≤ Setting.greatestInteger

/-- Nothing but the number that is typed can be out of range. -/
theorem fits_iff_inRange (hs : s.Fits) (ha : s.assign key value = .ok changed) : changed.Fits ↔ InRange key value := by
  obtain ⟨setting, v, hkey, hv, rfl⟩ := assign_eq_ok.1 ha
  have hput : (s.put setting v).Fits ↔ setting.Fits v :=
    ⟨fun h => get_put_self s setting v ▸ h setting, fun h => hs.put h⟩
  rw [hput]
  cases Setting.key_of_ofKey? hkey
  constructor
  · rintro hfits other ho hother n hn
    cases Setting.key_injective hother
    simp only [List.mem_cons, List.not_mem_nil, or_false] at ho
    rcases ho with rfl | rfl
    · cases hv.symm.trans hn
      exact hfits
    · cases hv.symm.trans hn
      exact hfits
  · intro hrange
    cases setting with
    | headerSeconds | dialSeconds => exact hrange _ (by simp) rfl v hv
    | _ => trivial

theorem assign_saved (h : load tree path = .ok s) (hw : Writable tree path) (ha : s.assign key value = .ok changed)
    (hf : changed.Fits) :
    (loadAndRun tree path (.assign key value)).result = .ok () ∧
      load (loadAndRun tree path (.assign key value)).tree path = .ok changed := by
  obtain ⟨after, hsave⟩ := save_of_fits hw hf
  simp only [loadAndRun, h, run, ha, saveAndSay, hsave]
  exact ⟨trivial, (load_of_save hsave).2⟩

theorem assign_unsaved (h : load tree path = .ok s) (hw : Writable tree path) (ha : s.assign key value = .ok changed)
    (hf : ¬changed.Fits) :
    (loadAndRun tree path (.assign key value)).result = .error (.tomlUnwritable "out-of-range value") ∧
      Untouched tree (loadAndRun tree path (.assign key value)).tree path := by
  obtain ⟨after, hsave⟩ := save_of_not_fits hw hf
  simp only [loadAndRun, h, run, ha, saveAndSay, hsave]
  exact ⟨trivial, save_error hsave ▸ untouched_makeParent tree path⟩

/-- For every text that is loaded, and every key and value that are accepted, if the file can be written. -/
theorem accepted_is_saved_iff_in_range (h : load tree path = .ok s) (hw : Writable tree path)
    (ha : s.assign key value = .ok changed) :
    let answer := loadAndRun tree path (.assign key value)
    (answer.result = .ok () ∧ load answer.tree path = .ok changed ↔ InRange key value) ∧
      (¬InRange key value →
        answer.result = .error (.tomlUnwritable "out-of-range value") ∧ Untouched tree answer.tree path) := by
  intro answer
  have hrange := fits_iff_inRange (fits_of_load h) ha
  refine ⟨⟨fun hsaved => ?_, fun hr => assign_saved h hw ha (hrange.2 hr)⟩, fun hr => ?_⟩
  · by_contra hr
    cases (assign_unsaved h hw ha (mt hrange.1 hr)).1.symm.trans hsaved.1
  · exact assign_unsaved h hw ha (mt hrange.1 hr)

theorem writable_absent : Writable {} "config.toml" := by
  have hname : FileTree.parentPath? "config.toml" = some "" := by decide +kernel
  have hparent : makeParent {} "config.toml" = ({}, .ok ()) := by
    simp only [makeParent, hname]
    rfl
  exact ⟨{}, hparent, fun bytes => ⟨_, FileTree.write_eq_ok.2 ⟨["config.toml"], [], rfl, .missing rfl, rfl⟩⟩⟩

/-- The greatest number of seconds that can be saved. -/
theorem accepted_is_saved_iff_in_range_of_greatest :
    load {} "config.toml" = .ok {} ∧ Writable {} "config.toml" ∧
      assign {} "helper.dial_timeout_secs" "9223372036854775807" = .ok { dialSeconds := 9223372036854775807 } ∧
      (loadAndRun {} "config.toml" (.assign "helper.dial_timeout_secs" "9223372036854775807")).result = .ok () := by
  have hload : load {} "config.toml" = .ok {} := by rfl
  have haccepted : assign {} "helper.dial_timeout_secs" "9223372036854775807" =
      .ok { dialSeconds := 9223372036854775807 } := by decide +kernel
  have hrange : InRange "helper.dial_timeout_secs" "9223372036854775807" := by
    intro _ _ _ n hn
    have hread : Setting.readSeconds "9223372036854775807" = .ok 9223372036854775807 := by decide +kernel
    cases hread.symm.trans hn
    decide
  exact ⟨hload, writable_absent, haccepted,
    ((accepted_is_saved_iff_in_range hload writable_absent haccepted).1.2 hrange).1⟩

/-- A number of seconds that is accepted, but cannot be saved. -/
theorem accepted_beyond_range_is_not_saved :
    load {} "config.toml" = .ok {} ∧ Writable {} "config.toml" ∧
      assign {} "helper.dial_timeout_secs" "9223372036854775808" = .ok { dialSeconds := 9223372036854775808 } ∧
      (loadAndRun {} "config.toml" (.assign "helper.dial_timeout_secs" "9223372036854775808")).result =
        .error (.tomlUnwritable "out-of-range value") := by
  have hload : load {} "config.toml" = .ok {} := by rfl
  have haccepted : assign {} "helper.dial_timeout_secs" "9223372036854775808" =
      .ok { dialSeconds := 9223372036854775808 } := by decide +kernel
  have hbeyond : ¬Fits { dialSeconds := 9223372036854775808 } := by
    intro h
    exact absurd (h .dialSeconds) (by decide : ¬(9223372036854775808 : UInt64).toNat ≤ Setting.greatestInteger)
  exact ⟨hload, writable_absent, haccepted, (assign_unsaved hload writable_absent haccepted hbeyond).1⟩

end BuildCredentials.Settings
