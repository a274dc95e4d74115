import BuildCredentials.Proofs.Helper.Actions

/-!
# Which credentials are found again

Credentials are stored under their address as it stands, and asked for without the blanks around it. So those whose
address has none around it are found again and can be taken away (`stored_is_reached_iff_trimmed`), and no others.
-/

set_option autoImplicit false

namespace BuildCredentials.Helper

/-- Credentials are known and can be taken away: a `get` of their address writes them and changes nothing, an
`erase` of it takes away that entry and no other, and another `get` then finds nothing. -/
structure Reached (m : Memory) (c : Credentials) : Prop where
  found : ∃ output, run memory m "get" (Utf8.encode c.serverUrl) = (m, ⟨true, output⟩) ∧
    IsLine output fun bytes => Credentials.parse bytes = .ok c
  erased : run memory m "erase" (Utf8.encode c.serverUrl) = (m.erase c.serverUrl, ⟨true, ""⟩)
  gone : run memory (m.erase c.serverUrl) "get" (Utf8.encode c.serverUrl) =
    (m.erase c.serverUrl, ⟨false, Fault.notFound.message ++ "\n"⟩)

theorem reached_of_trimmed {m : Memory} {c : Credentials} (hne : c.serverUrl ≠ "")
    (h : Text.trim c.serverUrl = c.serverUrl) (hentry : m[c.serverUrl]? = some (c.username, c.secret)) :
    Reached m c := by
  have hnames : Names (Utf8.encode c.serverUrl) c.serverUrl := ⟨_, Utf8.decode?_encode _, h, hne⟩
  have hmem : c.serverUrl ∈ m := Std.ExtTreeMap.mem_iff_isSome_getElem?.2 (by rw [hentry]; rfl)
  refine ⟨⟨_, run_get_of_some hnames hentry, line_toJson _⟩, run_erase_of_mem hnames hmem, ?_⟩
  exact run_of_refused (.missing (by decide) hnames (by simp))

theorem IsLine.unique {output : String} {c d : Credentials}
    (h : IsLine output fun bytes => Credentials.parse bytes = .ok c)
    (g : IsLine output fun bytes => Credentials.parse bytes = .ok d) : c = d := by
  obtain ⟨text, rfl, -, htext⟩ := h
  obtain ⟨other, hsame, -, hother⟩ := g
  obtain rfl := (String.append_left_inj "\n").1 hsame
  exact Except.ok.inj (htext.symm.trans hother)

section
variable {m after : Memory} {action output : String} {input : List UInt8}

/-- A `get` that succeeds writes credentials for an address without blanks around it. -/
theorem Acts.trimmed {text : String} {c : Credentials} (h : Acts m action input ⟨true, output⟩ after)
    (hget : action = "get") (htext : Utf8.decode? input = some text)
    (hline : IsLine output fun bytes => Credentials.parse bytes = .ok c) : c.serverUrl = Text.trim text := by
  cases h with
  | get hnames _ hgot =>
    obtain ⟨other, hother, rfl, -⟩ := hnames
    obtain rfl := Option.some.inj (htext.symm.trans hother)
    rw [hline.unique hgot]
  | store | erase | list | version => exact absurd hget (by decide)

theorem Acts.stored (h : Acts m action input ⟨true, output⟩ after) (hstore : action = "store") :
    ∃ c, Brings input c ∧ c.serverUrl ≠ "" ∧ after = m.insert c.serverUrl (c.username, c.secret) := by
  cases h with
  | store hbrings hne => exact ⟨_, hbrings, hne, rfl⟩
  | get | erase | list | version => exact absurd hstore (by decide)

end

/-- Whatever is stored with success, in whatever state, is found again and can be taken away, just if its address
has no blanks around it. -/
theorem stored_is_reached_iff_trimmed {m after : Memory} {input : List UInt8} {output : String}
    (stored : run memory m "store" input = (after, ⟨true, output⟩)) :
    ∃ c, Brings input c ∧ (Reached after c ↔ Text.trim c.serverUrl = c.serverUrl) := by
  have hacts : Acts m "store" input ⟨true, output⟩ after := by
    have hacts := actsOn m "store" input
    rwa [ActsOn, stored] at hacts
  obtain ⟨c, hbrings, hne, rfl⟩ := hacts.stored rfl
  refine ⟨c, hbrings, ?_, ?_⟩
  · intro hreached
    obtain ⟨output, hrun, hline⟩ := hreached.found
    have hfound := actsOn (m.insert c.serverUrl (c.username, c.secret)) "get" (Utf8.encode c.serverUrl)
    rw [ActsOn, hrun] at hfound
    exact (hfound.trimmed rfl (Utf8.decode?_encode _) hline).symm
  · intro htrim
    exact reached_of_trimmed hne htrim Std.ExtTreeMap.getElem?_insert_self

theorem brings_toJson (c : Credentials) : Brings (Utf8.encode c.toJson.render) c :=
  ⟨⟨_, Utf8.decode?_encode _⟩, c.parse_toJson⟩

theorem stored_is_reached_iff_trimmed_of_two_words :
    let c : Credentials := ⟨"ghcr.io /a", "alice", "\"line\n"⟩
    let input := Utf8.encode c.toJson.render
    let m : Memory := (∅ : Memory).insert c.serverUrl ("bob", "")
    run memory m "store" input = (m.insert c.serverUrl ("alice", "\"line\n"), ⟨true, ""⟩) ∧
      Reached (m.insert c.serverUrl ("alice", "\"line\n")) c := by
  intro c input m
  have stored : run memory m "store" input = (m.insert c.serverUrl ("alice", "\"line\n"), ⟨true, ""⟩) :=
    run_store_of_brings (brings_toJson c) (by decide)
  obtain ⟨d, hbrings, hreached⟩ := stored_is_reached_iff_trimmed stored
  obtain rfl : c = d := Except.ok.inj ((brings_toJson c).2.symm.trans hbrings.2)
  exact ⟨stored, hreached.2 (by decide)⟩

/-- Credentials are stored under an address with a blank before it, and neither found nor taken away. -/
theorem stored_under_blank_is_not_reached :
    let c : Credentials := ⟨" ghcr.io", "alice", "secret"⟩
    let stored := run memory ∅ "store" (Utf8.encode c.toJson.render)
    stored.2.success = true ∧
      run memory stored.1 "get" (Utf8.encode c.serverUrl) =
        (stored.1, ⟨false, "credentials not found in native keychain\n"⟩) ∧
      run memory stored.1 "erase" (Utf8.encode c.serverUrl) =
        (stored.1, ⟨false, "credentials not found in native keychain\n"⟩) := by
  intro c stored
  have hstored : stored = ((∅ : Memory).insert " ghcr.io" ("alice", "secret"), ⟨true, ""⟩) :=
    run_store_of_brings (brings_toJson c) (by decide)
  have hnames : Names (Utf8.encode " ghcr.io") "ghcr.io" := ⟨_, Utf8.decode?_encode _, by decide, by decide⟩
  have hmem : "ghcr.io" ∉ (∅ : Memory).insert " ghcr.io" ("alice", "secret") := by
    rw [Std.ExtTreeMap.mem_insert]
    simp
  rw [hstored]
  exact ⟨rfl, run_of_refused (.missing (by decide) hnames hmem), run_of_refused (.missing (by decide) hnames hmem)⟩

end BuildCredentials.Helper
