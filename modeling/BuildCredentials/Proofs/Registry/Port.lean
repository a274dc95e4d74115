import BuildCredentials.Proofs.Registry.Resolution
import BuildCredentials.Proofs.Url.Spelling
import BuildCredentials.Registry.Config

/-!
# Ports of requests and of answers

A request may have a port without showing it, since what it shows is read off its text before blanks are left out
and slashes are counted alike. If the port is shown, it is that of every stored address that answers the request
(`port_of_shown`); if it is not, there are stored addresses with another port that do (`exists_other_port`). So the
answers keep to the port just in case that it is shown (`keeps_port_iff_shown`), which it is in every text of the
usual shape (`showsPort_of_regular`), but not in each that is read as an address (`answer_loses_port`).
-/

set_option autoImplicit false

namespace BuildCredentials.Registry

open Address (afterLast afterMark? endsHost namesPort)

/-! ## What a text shows -/

/-- A text shows a port: behind its first mark, up to the path, and behind the last at sign there is a colon, which
stands behind the last bracket if there is one. -/
def ShowsPort (requested : String) : Prop :=
  ∃ rest, afterMark? requested.toList = some rest ∧ namesPort (rest.takeWhile (!endsHost ·)) = true

namespace Address

theorem explicitPort?_of_shown {raw : String} {a : Address} (h : parse? raw = some a) (shown : ShowsPort raw) :
    a.explicitPort? = a.url.effectivePort? := by
  obtain ⟨rest, hrest, names⟩ := shown
  obtain ⟨url, _, h⟩ := Option.bind_eq_some_iff.1 h
  rw [hrest] at h
  cases h
  exact if_pos names

theorem explicitPort?_of_hidden {raw : String} {a : Address} (h : parse? raw = some a) (hidden : ¬ShowsPort raw) :
    a.explicitPort? = none := by
  obtain ⟨url, _, h⟩ := Option.bind_eq_some_iff.1 h
  cases hrest : afterMark? raw.toList with
  | none =>
    rw [hrest] at h
    cases h
    rfl
  | some rest =>
    rw [hrest] at h
    cases h
    exact if_neg fun names => hidden ⟨rest, hrest, names⟩

theorem afterMark?_marked {before : List Char} (hb : ':' ∉ before) (rest : List Char) :
    afterMark? (before ++ ':' :: '/' :: '/' :: rest) = some rest := by
  induction before with
  | nil => rfl
  | cons c front ih =>
    have hc : c ≠ ':' := fun he => hb (he ▸ .head _)
    rw [List.cons_append, afterMark?, ih fun hm => hb (.tail _ hm)]
    exact fun _ he => absurd he hc

/-- A port behind a host is seen if the host's brackets, if any, enclose it. -/
theorem namesPort_of_afterLast {authority host after : List Char}
    (h : afterLast '@' authority = host ++ ':' :: after) (hafter : ']' ∉ after)
    (closed : ']' ∈ host → ∃ inner, host = inner ++ [']']) : namesPort authority = true := by
  rw [namesPort, h]
  split
  · rename_i hm
    have hhost : ']' ∈ host := (List.mem_append.1 hm).resolve_right (by simpa using hafter)
    obtain ⟨inner, rfl⟩ := closed hhost
    rw [List.append_assoc, List.singleton_append, Url.afterLast_cons (by simpa using hafter)]
    rfl
  · simp

end Address

theorem effectivePort?_of_port {url : Url} {port : Nat} (hp : url.port? = some port) :
    url.effectivePort? = some port := by
  rw [Url.effectivePort?, hp]
  rfl

/-! ## Ports of answers -/

section

variable {α : Type} {entries : Std.ExtTreeMap String α} {requested key : String} {kind : MatchKind} {wanted : Url}
  {port : Nat}

/-- A port that a request shows is that of what it is answered with, in whatever pass that was found. -/
theorem port_of_shown (shown : ShowsPort requested) (read : Url.parse? requested = some wanted)
    (hp : wanted.port? = some port) (answered : resolve entries requested = some (key, kind)) :
    ∃ stored, Url.parse? key = some stored ∧ stored.effectivePort? = some port := by
  rw [← Address.map_url_parse?] at read
  obtain ⟨address, haddress, rfl⟩ := Option.map_eq_some_iff.1 read
  have hport := effectivePort?_of_port hp
  obtain ⟨_, stored, hstored, same | hfits⟩ := fits_of_resolve haddress answered
  · exact ⟨stored, hstored, same.port ▸ hport⟩
  · have hallows := (Bool.and_eq_true_iff.1 hfits).1
    rw [Address.allowsPort, Address.explicitPort?_of_shown haddress shown, hport] at hallows
    exact ⟨stored, hstored, of_decide_eq_true hallows⟩

end

/-- The path that an address takes from one without a path is that of none. -/
theorem withPath_rootPath {url : Url} (h : url.hasAuthority = true) :
    url.withPath url.rootPath = { url with path := url.rootPath } := by
  have hread : (Url.Path.read url.kind ((Url.Path.read url.kind []).1.filter (!Url.isPassedOver ·))).1 =
      (Url.Path.read url.kind []).1 := by
    cases url.kind <;> rfl
  have hopaque : url.hasOpaquePath = false := by simp [Url.hasOpaquePath, h]
  simp only [Url.withPath, Url.rootPath, hopaque, Bool.false_eq_true, if_false, String.toList_ofList, hread]

/-- The address of a request with another port, with the path that the request gives or with none. -/
def Address.withPort (a : Address) (port : Nat) : Url :=
  { a.url with port? := some port, path := if a.hasPath then a.url.path else a.url.rootPath }

/-- If its port is not seen, a request is taken for one for another port. -/
theorem approximates_withPort {wanted : Address} (h : wanted.url.hasAuthority = true)
    (hidden : wanted.explicitPort? = none) (port : Nat) : wanted.approximates (wanted.withPort port) = true := by
  have hscheme : wanted.takeScheme? (wanted.withPort port) = some wanted.url := if_pos rfl
  rw [Address.approximates, Address.allowsPort, hidden, hscheme, Bool.true_and]
  cases hpath : wanted.hasPath with
  | true => simp [Address.withPort, hpath, sameExceptPort]
  | false => simp [Address.withPort, hpath, sameExceptPort, withPath_rootPath h]

/-- Some text spells the address of a request with another port. -/
theorem exists_key_withPort {requested : String} {wanted : Address} {port : Nat}
    (read : Address.parse? requested = some wanted) (hp : wanted.url.port? = some port) :
    ∃ other key, other ≠ port ∧ Url.parse? key = some (wanted.withPort other) := by
  have hread := Address.url_of_parse? read
  -- No scheme has one of these two ports for its default.
  have one (scheme : String) : Url.portOfDigits? (.ofScheme scheme) ['1'] = some (some 1) := by
    unfold Url.SchemeKind.ofScheme
    split_ifs <;> rfl
  have two (scheme : String) : Url.portOfDigits? (.ofScheme scheme) ['2'] = some (some 2) := by
    unfold Url.SchemeKind.ofScheme
    split_ifs <;> rfl
  by_cases h : port = 1
  · obtain ⟨key, hkey⟩ := Url.exists_spelling hread hp (by decide) two wanted.hasPath
    exact ⟨2, key, by omega, hkey⟩
  · obtain ⟨key, hkey⟩ := Url.exists_spelling hread hp (by decide) one wanted.hasPath
    exact ⟨1, key, by omega, hkey⟩

/-- A request whose port is not shown may be answered with the credential of another port. -/
theorem exists_other_port {requested : String} {wanted : Url} {port : Nat} (hidden : ¬ShowsPort requested)
    (read : Url.parse? requested = some wanted) (hp : wanted.port? = some port) :
    ∃ (entries : Auths) (key : String) (stored : Url), resolve entries requested = some (key, .approximate) ∧
      Url.parse? key = some stored ∧ stored.effectivePort? ≠ some port := by
  have hauthority := Url.hasAuthority_of_port read hp
  rw [← Address.map_url_parse?] at read
  obtain ⟨address, haddress, rfl⟩ := Option.map_eq_some_iff.1 read
  obtain ⟨other, key, hother, hkey⟩ := exists_key_withPort haddress hp
  have hport : (address.withPort other).effectivePort? ≠ some port := by
    have heffective : (address.withPort other).effectivePort? = some other := effectivePort?_of_port rfl
    exact fun he => hother (Option.some.inj (heffective.symm.trans he))
  have only (k : String) : k ∈ Auths.ofRecords [(key, {})] ↔ k = key := by
    simpa [Auths.ofRecords] using eq_comm
  refine ⟨.ofRecords [(key, {})], key, address.withPort other, ?_, hkey, hport⟩
  exact resolve_of_only only haddress hkey (fun same => hport (same.port ▸ effectivePort?_of_port hp))
    (approximates_withPort hauthority (Address.explicitPort?_of_hidden haddress hidden) other)

/-- The answers to a request keep to its port just in case that its text shows it. -/
theorem keeps_port_iff_shown {requested : String} {wanted : Url} {port : Nat}
    (read : Url.parse? requested = some wanted) (hp : wanted.port? = some port) :
    (∀ (entries : Auths) (key : String) (kind : MatchKind), resolve entries requested = some (key, kind) →
      ∃ stored, Url.parse? key = some stored ∧ stored.effectivePort? = some port) ↔ ShowsPort requested := by
  refine ⟨fun keeps => ?_, fun shown entries key kind answered => port_of_shown shown read hp answered⟩
  by_contra hidden
  obtain ⟨entries, key, stored, answered, hstored, hother⟩ := exists_other_port hidden read hp
  obtain ⟨stored', hstored', hport⟩ := keeps entries key .approximate answered
  cases hstored.symm.trans hstored'
  exact hother hport

/-- A port behind a host in brackets is shown. -/
theorem keeps_port_iff_shown_of_bracketed_host :
    ShowsPort "http://[::1]:5000" ∧
      ∀ (entries : Auths) (key : String) (kind : MatchKind),
        resolve entries "http://[::1]:5000" = some (key, kind) →
        ∃ stored, Url.parse? key = some stored ∧ stored.effectivePort? = some 5000 := by
  have shown : ShowsPort "http://[::1]:5000" := ⟨"[::1]:5000".toList, by decide +kernel, by decide +kernel⟩
  have read : Url.parse? "http://[::1]:5000" = some
      { scheme := "http", host? := some (.ipv6 [0, 0, 0, 0, 0, 0, 0, 1]), port? := some 5000, path := "/" } := by
    decide +kernel
  exact ⟨shown, (keeps_port_iff_shown read rfl).2 shown⟩

/-- Without slashes behind its scheme a request is read all the same, but its port is not shown, and it is answered
with the credential of another one. -/
theorem answer_loses_port :
    (Url.parse? "https:[::1]:6000/v2/").bind (·.port?) = some 6000 ∧
      resolve (Auths.ofRecords [("https://[::1]:5000/v2/", {})]) "https:[::1]:6000/v2/" =
        some ("https://[::1]:5000/v2/", .approximate) ∧
      (Url.parse? "https://[::1]:5000/v2/").bind (·.effectivePort?) = some 5000 := by
  decide +kernel

example : ∀ requested ∈ ["https:///[::1]:6000/v2/", "https:\\\\[::1]:6000\\v2\\", "https:/\t/[::1]:6000/v2/",
    "https://[::1]\t:6000/v2/"], resolve (Auths.ofRecords [("https://[::1]:5000/v2/", {})]) requested =
      some ("https://[::1]:5000/v2/", .approximate) := by decide +kernel

/-! ## The usual shape -/

/-- The part of an address up to its path is written plainly: it is not empty, nothing in it is passed over or
taken for a slash, and a bracket closes nothing but a host. -/
structure Plain (authority : List Char) : Prop where
  nonempty : authority ≠ []
  counted : ∀ c ∈ authority, c ≠ '\\' ∧ Url.isPassedOver c = false
  brackets : ']' ∈ afterLast '@' authority → (afterLast '@' authority).head? = some '['

/-- A text has the usual shape of an address: a mark stands at its first colon, and what follows is plain. -/
def Regular (requested : String) : Prop :=
  ∃ before rest, requested.toList = before ++ ':' :: '/' :: '/' :: rest ∧ ':' ∉ before ∧
    Plain (rest.takeWhile (!endsHost ·))

theorem Plain.front {rest : List Char} (h : Plain (rest.takeWhile (!endsHost ·))) :
    ∀ c ∈ rest.head?, c ≠ '/' ∧ c ≠ '\\' ∧ Url.isPassedOver c = false := by
  intro c hc
  obtain ⟨more, rfl⟩ := List.head?_eq_some_iff.1 hc
  have hends : endsHost c = false := by
    by_contra hends
    exact h.nonempty (List.takeWhile_cons_of_neg (by simpa using hends))
  have hcounted := h.counted c (by simp [hends])
  exact ⟨fun he => by simp [he, endsHost] at hends, hcounted⟩

/-- Nothing stands between the digits of a plain text and its path. -/
theorem Plain.left_eq_nil {authority margin : List Char} {w : Url.Pieces} {kind : Url.SchemeKind}
    (plain : Plain authority) (fit : w.Fit kind) (hwritten : authority = w.authority ++ margin) : w.left = [] :=
  List.head?_eq_none_iff.1 (Option.eq_none_iff_forall_not_mem.2 fun c hc => by
    have hmem : c ∈ w.authority := Url.Pieces.mem_authority.2 (by simp [List.mem_of_mem_head? hc])
    exact (plain.counted c (hwritten ▸ List.mem_append_left _ hmem)).1 (fit.left c hc))

/-- Behind the last at sign of a plain text stand the host and the port that are read, and blanks at most. -/
theorem Plain.afterLast_eq {authority margin digits : List Char} {w : Url.Pieces} {kind : Url.SchemeKind}
    (plain : Plain authority) (fit : w.Fit kind) (hdigits : w.digits? = some digits)
    (hwritten : authority = w.authority ++ margin) (hmargin : ∀ c ∈ margin, Url.isMargin c) :
    afterLast '@' authority = w.host ++ ':' :: (digits ++ margin) := by
  have hat : '@' ∉ margin := fun hm => absurd (hmargin _ hm) (by decide)
  rw [hwritten, Url.afterLast_append hat, Url.Pieces.authority, Url.afterLast_userText fit.at_sign,
    Url.Pieces.hostPort, plain.left_eq_nil fit hwritten, hdigits, Url.Pieces.portText, List.append_nil,
    List.append_assoc, List.cons_append]

/-- In the usual shape a port that an address has is shown. -/
theorem showsPort_of_regular {requested : String} {wanted : Url} {port : Nat} (regular : Regular requested)
    (read : Url.parse? requested = some wanted) (hp : wanted.port? = some port) : ShowsPort requested := by
  obtain ⟨before, rest, marked, hb, plain⟩ := regular
  refine ⟨rest, marked ▸ Address.afterMark?_marked hb rest, ?_⟩
  obtain ⟨scheme, hread⟩ := Url.readAuthority?_of_marked read (Url.kind_of_port read hp) marked hb plain.front
  obtain ⟨⟨margin, hwritten, hmargin⟩, -⟩ := Url.cut_cleanEnd (.ofScheme scheme) plain.counted
  obtain ⟨w, host?, port?, fit, reads, htext, rfl⟩ := Url.exists_pieces hread
  obtain rfl : port? = some port := hp
  obtain ⟨digits, hdigits⟩ := reads.exists_digits
  rw [htext, fit.cut.1] at hwritten
  have hseen := plain.afterLast_eq fit hdigits hwritten hmargin
  have hafter : ']' ∉ digits ++ margin := by
    rw [List.mem_append]
    rintro (hm | hm)
    · exact absurd (fit.digits _ hdigits _ hm) (by decide)
    · exact absurd (hmargin _ hm) (by decide)
  refine Address.namesPort_of_afterLast hseen hafter fun hm => ?_
  have hopen := plain.brackets (hseen ▸ List.mem_append_left _ hm)
  rw [hseen] at hopen
  have hhost := reads.host
  cases hw : w.host with
  | nil => simp [hw] at hm
  | cons c inner =>
    rw [hw] at hopen hhost
    obtain rfl : c = '[' := by simpa using hopen
    obtain ⟨front, rfl⟩ := List.getLast?_eq_some_iff.1 (Url.getLast?_of_readHost? hhost)
    exact ⟨'[' :: front, rfl⟩

/-- A request of the usual shape that has a port is never answered with the credential of another port. -/
theorem port_of_regular {α : Type} {entries : Std.ExtTreeMap String α} {requested key : String} {kind : MatchKind}
    {wanted : Url} {port : Nat} (regular : Regular requested) (read : Url.parse? requested = some wanted)
    (hp : wanted.port? = some port) (answered : resolve entries requested = some (key, kind)) :
    ∃ stored, Url.parse? key = some stored ∧ stored.effectivePort? = some port :=
  port_of_shown (showsPort_of_regular regular read hp) read hp answered

end BuildCredentials.Registry
