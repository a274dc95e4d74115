import BuildCredentials.Helper.Memory
import BuildCredentials.Proofs.Helper.Failing
import BuildCredentials.Proofs.Json.Reading

/-!
# What each action of the helper does

Over credentials in memory an action either does all that it is to do and says so, or is refused for one of a few
reasons and does nothing (`Acts`). Each action is of this kind (`actsOn`), which of them succeed is settled
(`Acts.of_run`), and so it is with a run of actions one after another (`every_action_is_whole`).
-/

set_option autoImplicit false

namespace BuildCredentials.Helper

/-! ## What is to happen -/

/-- An input names an address, blanks around it aside. -/
def Names (input : List UInt8) (url : String) : Prop :=
  ∃ text, Utf8.decode? input = some text ∧ Text.trim text = url ∧ url ≠ ""

/-- An input is a text of credentials. -/
def Brings (input : List UInt8) (c : Credentials) : Prop :=
  (∃ text, Utf8.decode? input = some text) ∧ Credentials.parse input = .ok c

/-- Why an action is refused. -/
inductive Refused (m : Memory) : String → List UInt8 → Fault → Prop
  | notText {action : String} {input : List UInt8} :
      action ∈ ["get", "store", "erase"] → Utf8.decode? input = none → Refused m action input
        (.protocol ("reading input: " ++ ((Utf8.fault? input).map Utf8.Fault.message).getD ""))
  | blank {action text : String} {input : List UInt8} :
      action ∈ ["get", "erase"] → Utf8.decode? input = some text → Text.trim text = "" →
        Refused m action input .noServerUrl
  | missing {action url : String} {input : List UInt8} :
      action ∈ ["get", "erase"] → Names input url → url ∉ m → Refused m action input .notFound
  | malformed {text : String} {input : List UInt8} {f : Json.Failure} :
      Utf8.decode? input = some text → Credentials.parse input = .error f →
        Refused m "store" input (.protocol (f.message input))
  | nameless {input : List UInt8} {c : Credentials} :
      Brings input c → c.serverUrl = "" → Refused m "store" input .noServerUrl
  | unknown {action : String} {input : List UInt8} :
      action ∉ ["get", "store", "erase", "list", "version"] →
        Refused m action input (.protocol ("unknown credential action \x60" ++ action ++ "\x60"))

/-- An output is one line, and its bytes are read in some way. -/
def IsLine (output : String) (read : List UInt8 → Prop) : Prop :=
  ∃ text : String, output = text ++ "\n" ∧ '\n' ∉ text.toList ∧ read (Utf8.encode text)

/-- Members give each known address its user, and nothing else. -/
structure Lists (m : Memory) (members : List (String × Json)) : Prop where
  nodup : (members.map (·.1)).Nodup
  mem_iff : ∀ url v, (url, v) ∈ members ↔ ∃ user secret, m[url]? = some (user, secret) ∧ v = .text user

/-- What an action comes to, and what is known after it. -/
inductive Acts (m : Memory) : String → List UInt8 → Outcome → Memory → Prop
  | get {input : List UInt8} {url user secret output : String} :
      Names input url → m[url]? = some (user, secret) →
        IsLine output (fun bytes => Credentials.parse bytes = .ok ⟨url, user, secret⟩) →
        Acts m "get" input ⟨true, output⟩ m
  | store {input : List UInt8} {c : Credentials} :
      Brings input c → c.serverUrl ≠ "" →
        Acts m "store" input ⟨true, ""⟩ (m.insert c.serverUrl (c.username, c.secret))
  | erase {input : List UInt8} {url : String} :
      Names input url → url ∈ m → Acts m "erase" input ⟨true, ""⟩ (m.erase url)
  | list {input : List UInt8} {output : String} :
      IsLine output (fun bytes => ∃ members, Json.parse bytes = .ok (.object members) ∧ Lists m members) →
        Acts m "list" input ⟨true, output⟩ m
  | version {input : List UInt8} : Acts m "version" input ⟨true, versionLine⟩ m
  | refused {action : String} {input : List UInt8} {fault : Fault} :
      Refused m action input fault → Acts m action input ⟨false, fault.message ++ "\n"⟩ m

/-! ## Inputs -/

section
variable {input : List UInt8} {text : String}

theorem readText_of_text (h : Utf8.decode? input = some text) : readText input = .ok text := by
  rw [readText, h]

theorem readText_of_no_text (h : Utf8.decode? input = none) : readText input =
    .error (.protocol ("reading input: " ++ ((Utf8.fault? input).map Utf8.Fault.message).getD "")) := by
  rw [readText, h]
  cases Utf8.fault? input with
  | none => rfl
  | some fault => rfl

theorem readServerUrl_of_names {url : String} (h : Names input url) : readServerUrl input = .ok url := by
  obtain ⟨text, htext, rfl, hne⟩ := h
  rw [readServerUrl, readText_of_text htext]
  exact if_neg hne

theorem readCredentials_of_brings {c : Credentials} (h : Brings input c) (hne : c.serverUrl ≠ "") :
    readCredentials input = .ok c := by
  obtain ⟨⟨text, htext⟩, hparse⟩ := h
  rw [readCredentials, readText_of_text htext, hparse]
  exact if_neg hne

theorem readServerUrl_of_blank (h : Utf8.decode? input = some text) (hblank : Text.trim text = "") :
    readServerUrl input = .error .noServerUrl := by
  rw [readServerUrl, readText_of_text h]
  exact if_pos hblank

/-- An input names an address, or an action that needs one is refused. -/
theorem names_or_refused (m : Memory) (input : List UInt8) {action : String} (haction : action ∈ ["get", "erase"]) :
    (∃ url, Names input url) ∨ ∃ fault, Refused m action input fault := by
  cases htext : Utf8.decode? input with
  | none =>
    refine .inr ⟨_, .notText ?_ htext⟩
    simp only [List.mem_cons] at haction ⊢
    exact haction.imp_right .inr
  | some text =>
    by_cases hblank : Text.trim text = ""
    · exact .inr ⟨_, .blank haction htext hblank⟩
    · exact .inl ⟨_, text, htext, rfl, hblank⟩

/-- An input brings credentials for an address, or storing it is refused. -/
theorem brings_or_refused (m : Memory) (input : List UInt8) :
    (∃ c, Brings input c ∧ c.serverUrl ≠ "") ∨ ∃ fault, Refused m "store" input fault := by
  cases htext : Utf8.decode? input with
  | none => exact .inr ⟨_, .notText (by decide) htext⟩
  | some text =>
    cases hparse : Credentials.parse input with
    | error f => exact .inr ⟨_, .malformed htext hparse⟩
    | ok c =>
      by_cases hnameless : c.serverUrl = ""
      · exact .inr ⟨_, .nameless ⟨⟨text, htext⟩, hparse⟩ hnameless⟩
      · exact .inl ⟨c, ⟨⟨text, htext⟩, hparse⟩, hnameless⟩

end

/-! ## Runs of one action -/

section
variable {m : Memory} {input : List UInt8} {url : String}

theorem run_get_of_some {user secret : String} (h : Names input url) (hentry : m[url]? = some (user, secret)) :
    run memory m "get" input = (m, ⟨true, line (Credentials.toJson ⟨url, user, secret⟩)⟩) := by
  have hget : memory.get m url = .ok (user, secret) := by simp only [memory, hentry]
  exact run_get_of_ok (readServerUrl_of_names h) hget

theorem run_store_of_brings {c : Credentials} (h : Brings input c) (hne : c.serverUrl ≠ "") :
    run memory m "store" input = (m.insert c.serverUrl (c.username, c.secret), ⟨true, ""⟩) := by
  apply run_of_ok
  rw [perform, if_neg (by decide), if_pos rfl, readCredentials_of_brings h hne]
  rfl

theorem perform_erase (hurl : readServerUrl input = .ok url) :
    perform memory m "erase" input = (memory.erase m url).bind fun after => .ok (after, "") := by
  rw [perform, if_neg (by decide), if_neg (by decide), if_pos rfl, hurl]
  rfl

theorem run_erase_of_mem (h : Names input url) (hmem : url ∈ m) :
    run memory m "erase" input = (m.erase url, ⟨true, ""⟩) := by
  have herase : memory.erase m url = .ok (m.erase url) := if_pos hmem
  apply run_of_ok
  rw [perform_erase (readServerUrl_of_names h), herase]
  rfl

theorem perform_of_no_url {action : String} {fault : Fault} (haction : action ∈ ["get", "erase"])
    (h : readServerUrl input = .error fault) : perform memory m action input = .error fault := by
  simp only [List.mem_cons, List.not_mem_nil, or_false] at haction
  rcases haction with rfl | rfl
  · rw [perform, if_pos rfl, h]
    rfl
  · rw [perform, if_neg (by decide), if_neg (by decide), if_pos rfl, h]
    rfl

theorem perform_of_no_credentials {fault : Fault} (h : readCredentials input = .error fault) :
    perform memory m "store" input = .error fault := by
  rw [perform, if_neg (by decide), if_pos rfl, h]
  rfl

/-- An action that is refused changes nothing, and writes its reason alone. -/
theorem run_of_refused {action : String} {fault : Fault} (h : Refused m action input fault) :
    run memory m action input = (m, ⟨false, fault.message ++ "\n"⟩) := by
  cases h with
  | notText haction htext =>
    apply run_of_error
    by_cases hstore : action = "store"
    · subst hstore
      apply perform_of_no_credentials
      rw [readCredentials, readText_of_no_text htext]
      rfl
    · apply perform_of_no_url (by simpa [hstore] using haction)
      rw [readServerUrl, readText_of_no_text htext]
      rfl
  | blank haction htext hblank =>
    exact run_of_error (perform_of_no_url haction (readServerUrl_of_blank htext hblank))
  | @missing _ url _ haction hnames hmem =>
    have hurl := readServerUrl_of_names hnames
    have hentry : m[url]? = none := Std.ExtTreeMap.getElem?_eq_none hmem
    simp only [List.mem_cons, List.not_mem_nil, or_false] at haction
    rcases haction with rfl | rfl
    · have hget : memory.get m url = .error .notFound := by simp only [memory, hentry]
      exact run_get_of_error hurl hget
    · have herase : memory.erase m url = .error .notFound := if_neg hmem
      apply run_of_error
      rw [perform_erase hurl, herase]
      rfl
  | malformed htext hparse =>
    apply run_of_error
    apply perform_of_no_credentials
    rw [readCredentials, readText_of_text htext, hparse]
    rfl
  | nameless hbrings hnameless =>
    obtain ⟨⟨text, htext⟩, hparse⟩ := hbrings
    apply run_of_error
    apply perform_of_no_credentials
    rw [readCredentials, readText_of_text htext, hparse]
    exact if_pos hnameless
  | unknown h =>
    simp only [List.mem_cons, List.not_mem_nil, or_false, not_or] at h
    obtain ⟨hget, hstore, herase, hlist, hversion⟩ := h
    apply run_of_error
    rw [perform, if_neg hget, if_neg hstore, if_neg herase, if_neg hlist, if_neg hversion]

/-! ## What is written of everything known -/

/-- The members that are written of what is known. -/
def members (m : Memory) : List (String × Json) := m.toList.map fun entry => (entry.1, .text entry.2.1)

theorem lists_members (m : Memory) : Lists m (members m) := by
  constructor
  · have hkeys : (members m).map (·.1) = m.keys := by
      rw [members, List.map_map, ← Std.ExtTreeMap.map_fst_toList_eq_keys]
      rfl
    rw [hkeys]
    exact Std.ExtTreeMap.nodup_keys
  · intro url v
    simp only [members, List.mem_map, Prod.mk.injEq, Prod.exists, Std.ExtTreeMap.mem_toList_iff_getElem?_eq_some]
    constructor
    · rintro ⟨url, user, secret, hget, rfl, rfl⟩
      exact ⟨user, secret, hget, rfl⟩
    · rintro ⟨user, secret, hget, rfl⟩
      exact ⟨url, user, secret, hget, rfl, rfl⟩

theorem plain_members (m : Memory) : (Json.object (members m)).Plain ∧ (Json.object (members m)).depth ≤ 1 := by
  have htext : ∀ member ∈ members m, member.2.Plain ∧ member.2.depth ≤ 0 := by
    intro member hmember
    obtain ⟨⟨url, user, secret⟩, -, rfl⟩ := List.mem_map.1 hmember
    exact ⟨.text user, Nat.le_refl 0⟩
  exact ⟨.object fun member hmember => (htext member hmember).1,
    Nat.succ_le_succ (Json.membersDepth_le_iff.2 fun member hmember => (htext member hmember).2)⟩

theorem isLine_members (m : Memory) : IsLine (line (.object (members m))) fun bytes =>
    ∃ members, Json.parse bytes = .ok (.object members) ∧ Lists m members := by
  obtain ⟨hplain, hdepth⟩ := plain_members m
  have hlimit : (Json.object (members m)).depth < 128 := by omega
  exact ⟨_, rfl, hplain.newline_not_mem_render, members m, hplain.parseWithin_render hlimit, lists_members m⟩

theorem run_list (m : Memory) (input : List UInt8) :
    run memory m "list" input = (m, ⟨true, line (.object (members m))⟩) := by
  have hmembers : (m.toList.map fun entry => (entry.1, entry.2.1)).map (fun entry => (entry.1, Json.text entry.2)) =
      members m := List.map_map ..
  apply run_of_ok
  rw [perform, if_neg (by decide), if_neg (by decide), if_neg (by decide), if_pos rfl, ← hmembers]
  rfl

/-! ## Each action -/

/-- An action comes to what it is to. -/
def ActsOn (m : Memory) (action : String) (input : List UInt8) : Prop :=
  Acts m action input (run memory m action input).2 (run memory m action input).1

theorem actsOn_of_refused {action : String} {fault : Fault} (h : Refused m action input fault) :
    ActsOn m action input := by
  rw [ActsOn, run_of_refused h]
  exact .refused h

theorem actsOn_get (m : Memory) (input : List UInt8) : ActsOn m "get" input := by
  obtain ⟨url, hnames⟩ | ⟨fault, hrefused⟩ := names_or_refused m input (by decide : "get" ∈ ["get", "erase"])
  · cases hentry : m[url]? with
    | none => exact actsOn_of_refused (.missing (by decide) hnames (by simpa using hentry))
    | some found =>
      rw [ActsOn, run_get_of_some hnames hentry]
      exact .get hnames hentry (line_toJson _)
  · exact actsOn_of_refused hrefused

theorem actsOn_store (m : Memory) (input : List UInt8) : ActsOn m "store" input := by
  obtain ⟨c, hbrings, hne⟩ | ⟨fault, hrefused⟩ := brings_or_refused m input
  · rw [ActsOn, run_store_of_brings hbrings hne]
    exact .store hbrings hne
  · exact actsOn_of_refused hrefused

theorem actsOn_erase (m : Memory) (input : List UInt8) : ActsOn m "erase" input := by
  obtain ⟨url, hnames⟩ | ⟨fault, hrefused⟩ := names_or_refused m input (by decide : "erase" ∈ ["get", "erase"])
  · by_cases hmem : url ∈ m
    · rw [ActsOn, run_erase_of_mem hnames hmem]
      exact .erase hnames hmem
    · exact actsOn_of_refused (.missing (by decide) hnames hmem)
  · exact actsOn_of_refused hrefused

theorem actsOn (m : Memory) (action : String) (input : List UInt8) : ActsOn m action input := by
  by_cases h : action ∈ ["get", "store", "erase", "list", "version"]
  · simp only [List.mem_cons, List.not_mem_nil, or_false] at h
    rcases h with rfl | rfl | rfl | rfl | rfl
    · exact actsOn_get m input
    · exact actsOn_store m input
    · exact actsOn_erase m input
    · rw [ActsOn, run_list]
      exact .list (isLine_members m)
    · exact .version
  · exact actsOn_of_refused (.unknown h)

/-- What an action is to do is one thing, the spelling of what it writes with success apart. -/
theorem Acts.of_run {action : String} {outcome : Outcome} {after : Memory} (h : Acts m action input outcome after) :
    after = (run memory m action input).1 ∧ outcome.success = (run memory m action input).2.success ∧
      (outcome.success = false → outcome = (run memory m action input).2) := by
  cases h with
  | get hnames hentry hline =>
    rw [run_get_of_some hnames hentry]
    exact ⟨rfl, rfl, nofun⟩
  | store hbrings hne =>
    rw [run_store_of_brings hbrings hne]
    exact ⟨rfl, rfl, nofun⟩
  | erase hnames hmem =>
    rw [run_erase_of_mem hnames hmem]
    exact ⟨rfl, rfl, nofun⟩
  | list hline =>
    rw [run_list]
    exact ⟨rfl, rfl, nofun⟩
  | version => exact ⟨rfl, rfl, nofun⟩
  | refused hrefused =>
    rw [run_of_refused hrefused]
    exact ⟨rfl, rfl, fun _ => rfl⟩

end

/-! ## Runs of many actions -/

/-- Runs actions one after another: what is known after them, and what came of each. -/
def runAll {σ : Type} (b : Backend σ) (state : σ) : List (String × List UInt8) → σ × List Outcome
  | [] => (state, [])
  | (action, input) :: calls =>
    let (state, outcome) := run b state action input
    let (state, outcomes) := runAll b state calls
    (state, outcome :: outcomes)

/-- What actions come to one after another. -/
inductive ActsAll : Memory → List (String × List UInt8) → List Outcome → Memory → Prop
  | nil {m : Memory} : ActsAll m [] [] m
  | cons {m next last : Memory} {action : String} {input : List UInt8} {outcome : Outcome}
      {calls : List (String × List UInt8)} {outcomes : List Outcome} :
      Acts m action input outcome next → ActsAll next calls outcomes last →
        ActsAll m ((action, input) :: calls) (outcome :: outcomes) last

theorem actsAll_runAll (m : Memory) (calls : List (String × List UInt8)) :
    ActsAll m calls (runAll memory m calls).2 (runAll memory m calls).1 := by
  induction calls generalizing m with
  | nil => exact .nil
  | cons call calls ih =>
    obtain ⟨action, input⟩ := call
    exact .cons (actsOn m action input) (ih (run memory m action input).1)

theorem ActsAll.of_runAll {m last : Memory} {calls : List (String × List UInt8)} {outcomes : List Outcome}
    (h : ActsAll m calls outcomes last) : last = (runAll memory m calls).1 ∧
      outcomes.map (·.success) = (runAll memory m calls).2.map (·.success) := by
  induction h with
  | nil => exact ⟨rfl, rfl⟩
  | @cons m next last action input outcome calls outcomes hacts _ ih =>
    obtain ⟨rfl, hsuccess, -⟩ := hacts.of_run
    refine ⟨ih.1, ?_⟩
    rw [List.map_cons, hsuccess, ih.2]
    rfl

/-- Whatever is asked of the helper, and in whatever order: each action that succeeds does all that it is to do and
writes it whole; each that fails changes nothing and writes its reason alone. Which actions fail, and what is known
in the end, is settled by what is asked. -/
theorem every_action_is_whole (m : Memory) (calls : List (String × List UInt8)) :
    ActsAll m calls (runAll memory m calls).2 (runAll memory m calls).1 ∧
      ∀ outcomes last, ActsAll m calls outcomes last → last = (runAll memory m calls).1 ∧
        outcomes.map (·.success) = (runAll memory m calls).2.map (·.success) :=
  ⟨actsAll_runAll m calls, fun _ _ h => h.of_runAll⟩

end BuildCredentials.Helper
