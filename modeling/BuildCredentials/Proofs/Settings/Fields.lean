import BuildCredentials.Settings.Basic
import BuildCredentials.Proofs.Toml.Range

/-!
# Settings one by one

What settings say is what they say of each (`get`, `ext_get`), and each can be given a value apart from the others
(`put`). All that is done with a setting is one such change: what a user types is read as a value of the setting
(`Setting.typed`, `ofText_eq`), and so is the value that a settings file has for it, if the file can have it at all
(`Setting.Fits`, `ofValue?_valueOf`).
-/

set_option autoImplicit false

namespace BuildCredentials

open Toml (Value)

/-- What a setting can be set to. -/
abbrev Setting.Kind : Setting → Type
  | verbose | auditLog => Bool
  | logFormat | socketPath | engine => String
  | socketMode => UInt32
  | headerSeconds | dialSeconds => UInt64
  | engineArgs => List String

namespace Settings

/-- What is said of a setting. -/
def get (s : Settings) : (setting : Setting) → setting.Kind
  | .verbose => s.verbose
  | .logFormat => s.logFormat
  | .auditLog => s.auditLog
  | .socketPath => s.socketPath
  | .socketMode => s.socketMode
  | .headerSeconds => s.headerSeconds
  | .dialSeconds => s.dialSeconds
  | .engine => s.engine
  | .engineArgs => s.engineArgs

/-- Settings in which one says something else. -/
def put (s : Settings) : (setting : Setting) → setting.Kind → Settings
  | .verbose, b => { s with verbose := b }
  | .logFormat, t => { s with logFormat := t }
  | .auditLog, b => { s with auditLog := b }
  | .socketPath, t => { s with socketPath := t }
  | .socketMode, n => { s with socketMode := n }
  | .headerSeconds, n => { s with headerSeconds := n }
  | .dialSeconds, n => { s with dialSeconds := n }
  | .engine, t => { s with engine := t }
  | .engineArgs, ts => { s with engineArgs := ts }

variable {s t : Settings} {setting other : Setting}

@[simp]
theorem get_put_self (s : Settings) (setting : Setting) (v : setting.Kind) : (s.put setting v).get setting = v := by
  cases setting <;> rfl

theorem get_put_of_ne (h : other ≠ setting) (v : setting.Kind) : (s.put setting v).get other = s.get other := by
  cases setting <;> cases other <;> first | rfl | exact absurd rfl h

theorem ext_get (h : ∀ setting, s.get setting = t.get setting) : s = t := by
  obtain ⟨_, _, _, _, _, _, _, _, _⟩ := s
  obtain ⟨_, _, _, _, _, _, _, _, _⟩ := t
  have hverbose := h .verbose
  have hformat := h .logFormat
  have haudit := h .auditLog
  have hpath := h .socketPath
  have hmode := h .socketMode
  have hheader := h .headerSeconds
  have hdial := h .dialSeconds
  have hengine := h .engine
  have hargs := h .engineArgs
  simp only [get] at hverbose hformat haudit hpath hmode hheader hdial hengine hargs
  simp only [hverbose, hformat, haudit, hpath, hmode, hheader, hdial, hengine, hargs]

end Settings

namespace Setting

variable {s u : Settings} {setting : Setting} {v : Value} {text : String}

theorem mem_all (setting : Setting) : setting ∈ all := by
  cases setting <;> decide

theorem key_of_ofKey? {key : String} (h : ofKey? key = some setting) : setting.key = key := by
  simpa using List.find?_some h

/-! ## Texts that a user types -/

/-- What a text that a user types means for a setting. -/
def typed (text : String) : (setting : Setting) → Except Refusal setting.Kind
  | verbose | auditLog => readBoolean text
  | logFormat => readLogFormat text
  | socketPath | engine => .ok text
  | socketMode => readMode text
  | headerSeconds | dialSeconds => readSeconds text
  | engineArgs => .ok (readItems text)

theorem ofText_eq (s : Settings) (text : String) (setting : Setting) :
    setting.ofText s text = (setting.typed text).map (s.put setting) := by
  cases setting <;> rfl

/-! ## Values of a settings file -/

/-- The value that a settings file has for what a setting is set to. -/
def valueOf : (setting : Setting) → setting.Kind → Value
  | verbose, b | auditLog, b => .boolean b
  | logFormat, t | socketPath, t | engine, t => .text t
  | socketMode, n => .integer n.toNat
  | headerSeconds, n | dialSeconds, n => .integer n.toNat
  | engineArgs, ts => .array (ts.map .text)

/-- Whether a settings file can have it: whole numbers have an upper end. -/
def Fits : (setting : Setting) → setting.Kind → Prop
  | headerSeconds, n | dialSeconds, n => n.toNat ≤ greatestInteger
  | verbose, _ | auditLog, _ | logFormat, _ | socketPath, _ | engine, _ | socketMode, _ | engineArgs, _ => True

theorem toValue?_of_fits (h : setting.Fits (s.get setting)) :
    setting.toValue? s = some (setting.valueOf (s.get setting)) := by
  cases setting with
  | headerSeconds | dialSeconds => exact if_pos h
  | _ => rfl

theorem fits_of_toValue? (h : setting.toValue? s = some v) : setting.Fits (s.get setting) := by
  cases setting with
  | headerSeconds | dialSeconds =>
    rw [toValue?, ofSeconds?] at h
    split at h
    · assumption
    · cases h
  | _ => trivial

theorem texts?_texts (ts : List String) : texts? (.array (ts.map .text)) = some ts := by
  induction ts with
  | nil => rfl
  | cons t ts ih =>
    rw [texts?] at ih ⊢
    rw [List.map_cons, List.mapM_cons, ih]
    rfl

theorem natural?_natCast {bound n : Nat} (h : n < bound) : natural? bound (.integer n) = some n := by
  simp [natural?, h]

/-- What was written for a setting is what it is then set to. -/
theorem ofValue?_valueOf (u : Settings) (setting : Setting) (v : setting.Kind) :
    setting.ofValue? u (setting.valueOf v) = some (u.put setting v) := by
  cases setting with
  | socketMode => simp [ofValue?, valueOf, natural?_natCast v.toNat_lt_size, Settings.put]
  | headerSeconds => simp [ofValue?, valueOf, natural?_natCast v.toNat_lt_size, Settings.put]
  | dialSeconds => simp [ofValue?, valueOf, natural?_natCast v.toNat_lt_size, Settings.put]
  | engineArgs => simp only [ofValue?, valueOf, texts?_texts, Option.map_some, Settings.put]
  | _ => rfl

theorem le_of_natural? {bound n : Nat} (hb : v.Bounded) (h : natural? bound v = some n) : n ≤ greatestInteger := by
  cases hb with
  | integer hn =>
    rw [natural?] at h
    split at h
    · cases h
      have hmax : Int64.maxValue.toInt = greatestInteger := by decide
      omega
    · cases h
  | _ => cases h

theorem fits_ofNat {n : Nat} (h : n ≤ greatestInteger) : (UInt64.ofNat n).toNat ≤ greatestInteger :=
  Nat.le_trans (UInt64.toNat_ofNat' ▸ Nat.mod_le _ _) h

/-- What a value of a settings file sets a setting to is again one that a settings file can have. -/
theorem put_of_ofValue? (hb : v.Bounded) (h : setting.ofValue? s v = some u) :
    ∃ w, u = s.put setting w ∧ setting.Fits w := by
  cases setting with
  | headerSeconds =>
    obtain ⟨n, hn, rfl⟩ := Option.map_eq_some_iff.1 h
    exact ⟨_, rfl, fits_ofNat (le_of_natural? hb hn)⟩
  | dialSeconds =>
    obtain ⟨n, hn, rfl⟩ := Option.map_eq_some_iff.1 h
    exact ⟨_, rfl, fits_ofNat (le_of_natural? hb hn)⟩
  | _ =>
    obtain ⟨_, -, rfl⟩ := Option.map_eq_some_iff.1 h
    exact ⟨_, rfl, trivial⟩

end Setting

end BuildCredentials
