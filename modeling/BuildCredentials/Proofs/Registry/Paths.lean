import BuildCredentials.Proofs.Registry.Agreement
import BuildCredentials.Proofs.Registry.Port
import BuildCredentials.Proofs.Url.Pathless

/-!
# Paths of requests and of answers

Whether a request gives a path is read off its text like its port, by looks that not every text with a path has.
If the path is shown, it is that of every stored address that answers the request (`path_of_shown`); if it is not,
there is one with another path that does (`exists_other_path`). So the answers keep to the path just in case that
it is shown (`keeps_path_iff_shown`). In texts of the usual shape it always is (`showsPath_of_regular`), but it is not
where backslashes stand for slashes, or where a mark stands in the path itself (`answer_loses_path`).
-/

set_option autoImplicit false

namespace BuildCredentials.Registry

open Address (afterMark? endsHost)

/-! ## What a text shows -/

/-- A text shows its path: it has no mark, or behind the first one a slash comes before any query or fragment. -/
def ShowsPath (requested : String) : Prop :=
  ∀ rest, afterMark? requested.toList = some rest → (rest.dropWhile (!endsHost ·)).head? = some '/'

theorem Address.hasPath_iff_shown {raw : String} {a : Address} (h : parse? raw = some a) (hpath : a.url.path ≠ "") :
    a.hasPath = true ↔ ShowsPath raw := by
  obtain ⟨url, _, h⟩ := Option.bind_eq_some_iff.1 h
  unfold ShowsPath
  cases hrest : afterMark? raw.toList with
  | none =>
    rw [hrest] at h
    cases h
    simpa using hpath
  | some rest =>
    rw [hrest] at h
    cases h
    have hgiven : (['/'].isPrefixOf (rest.dropWhile (!endsHost ·)) = true) ↔
        (rest.dropWhile (!endsHost ·)).head? = some '/' := by
      cases rest.dropWhile (!endsHost ·) with
      | nil => simp
      | cons c cs => simpa using eq_comm
    simpa using hgiven

/-! ## Paths of answers -/

section

variable {α : Type} {entries : Std.ExtTreeMap String α} {requested key : String} {kind : MatchKind} {wanted : Url}

/-- A path that a request shows is that of what it is answered with. -/
theorem path_of_shown (shown : ShowsPath requested) (read : Url.parse? requested = some wanted)
    (hpath : wanted.path ≠ "") (answered : resolve entries requested = some (key, kind)) :
    ∃ stored, Url.parse? key = some stored ∧ stored.path = wanted.path := by
  rw [← Address.map_url_parse?] at read
  obtain ⟨address, haddress, rfl⟩ := Option.map_eq_some_iff.1 read
  obtain ⟨_, stored, hstored, same | hfits⟩ := fits_of_resolve haddress answered
  · exact ⟨stored, hstored, same.path.symm⟩
  · have hcompared := (Address.approximates_iff.1 hfits).path
    rw [Address.comparedPath, if_pos ((Address.hasPath_iff_shown haddress hpath).2 shown)] at hcompared
    exact ⟨stored, hstored, hcompared.symm⟩

end

theorem Address.eq_effectivePort?_of_mem {raw : String} {a : Address} (h : parse? raw = some a) {port : Nat}
    (hport : port ∈ a.explicitPort?) : a.url.effectivePort? = some port := by
  by_cases shown : ShowsPort raw
  · rwa [explicitPort?_of_shown h shown] at hport
  · rw [explicitPort?_of_hidden h shown] at hport
    cases hport

/-- If its path is not seen, a request is taken for one with any path that it takes as it is. -/
theorem approximates_other_path {raw path : String} {wanted : Address} (h : Address.parse? raw = some wanted)
    (hidden : wanted.hasPath = false) (taken : wanted.url.withPath path = { wanted.url with path }) :
    wanted.approximates { wanted.url with path } = true := by
  refine Address.approximates_iff.2 {
    port := fun port hport => Address.eq_effectivePort?_of_mem h hport
    scheme := ⟨wanted.url.port?, if_pos rfl⟩
    identity := ⟨rfl, rfl, rfl, rfl, rfl⟩
    path := ?_ }
  rw [Address.comparedPath, hidden, if_neg Bool.false_ne_true]
  exact congrArg (·.path) taken

/-- A request whose path is not shown may be answered with the credential of another path. -/
theorem exists_other_path {requested : String} {wanted : Url} (hidden : ¬ShowsPath requested)
    (read : Url.parse? requested = some wanted) (hpath : wanted.path ≠ "") (hroot : wanted.path ≠ "/") :
    ∃ (entries : Auths) (key : String) (stored : Url), resolve entries requested = some (key, .approximate) ∧
      Url.parse? key = some stored ∧ stored.path ≠ wanted.path := by
  obtain ⟨key, path, hleast, hkey, taken⟩ := Url.exists_pathless read hpath
  have hother : path ≠ wanted.path := by
    rintro rfl
    exact hleast.elim hpath hroot
  rw [← Address.map_url_parse?] at read
  obtain ⟨address, haddress, rfl⟩ := Option.map_eq_some_iff.1 read
  have hgiven : address.hasPath = false := by
    simpa using mt (Address.hasPath_iff_shown haddress hpath).1 hidden
  have only (k : String) : k ∈ Auths.ofRecords [(key, {})] ↔ k = key := by
    simpa [Auths.ofRecords] using eq_comm
  refine ⟨.ofRecords [(key, {})], key, { address.url with path }, ?_, hkey, hother⟩
  exact resolve_of_only only haddress hkey (fun same => hother same.path.symm)
    (approximates_other_path haddress hgiven taken)

/-- The answers to a request that has a path keep to it just in case that its text shows it. -/
theorem keeps_path_iff_shown {requested : String} {wanted : Url} (read : Url.parse? requested = some wanted)
    (hpath : wanted.path ≠ "") (hroot : wanted.path ≠ "/") :
    (∀ (entries : Auths) (key : String) (kind : MatchKind), resolve entries requested = some (key, kind) →
      ∃ stored, Url.parse? key = some stored ∧ stored.path = wanted.path) ↔ ShowsPath requested := by
  refine ⟨fun keeps => ?_, fun shown entries key kind answered => path_of_shown shown read hpath answered⟩
  by_contra hidden
  obtain ⟨entries, key, stored, answered, hstored, hother⟩ := exists_other_path hidden read hpath hroot
  obtain ⟨stored', hstored', hsame⟩ := keeps entries key .approximate answered
  cases hstored.symm.trans hstored'
  exact hother hsame

/-- Backslashes alone do not hide a path, if there is no mark either. -/
theorem keeps_path_iff_shown_of_backslashes :
    ShowsPath "https:\\\\[::1]\\v2\\" ∧
      ∀ (entries : Auths) (key : String) (kind : MatchKind),
        resolve entries "https:\\\\[::1]\\v2\\" = some (key, kind) →
        ∃ stored, Url.parse? key = some stored ∧ stored.path = "/v2/" := by
  have unmarked : afterMark? "https:\\\\[::1]\\v2\\".toList = none := by decide +kernel
  have shown : ShowsPath "https:\\\\[::1]\\v2\\" := fun rest hrest => by
    rw [unmarked] at hrest
    cases hrest
  have read : Url.parse? "https:\\\\[::1]\\v2\\" = some
      { scheme := "https", host? := some (.ipv6 [0, 0, 0, 0, 0, 0, 0, 1]), path := "/v2/" } := by
    decide +kernel
  exact ⟨shown, (keeps_path_iff_shown read (by decide) (by decide)).2 shown⟩

/-- With a backslash behind its host a request has a path, which is not shown, and it is answered with the
credential of another one. -/
theorem answer_loses_path :
    (Url.parse? "https://[::1]\\v2\\").map (·.path) = some "/v2/" ∧
      resolve (Auths.ofRecords [("https://[::1]/v1/", {})]) "https://[::1]\\v2\\" =
        some ("https://[::1]/v1/", .approximate) ∧
      (Url.parse? "https://[::1]/v1/").map (·.path) = some "/v1/" := by
  decide +kernel

example : resolve (Auths.ofRecords [("image:latest", {})]) "image:a://b" = some ("image:latest", .approximate) := by
  decide +kernel

/-! ## The usual shape -/

theorem path_of_no_path (kind : Url.SchemeKind) :
    String.ofList (Url.Path.read kind []).1 = "" ∨ String.ofList (Url.Path.read kind []).1 = "/" := by
  cases kind with
  | file | web _ => exact .inr rfl
  | other => exact .inl rfl

/-- In the usual shape a path that an address has is shown, unless it is one of a file. -/
theorem showsPath_of_regular {requested : String} {wanted : Url} (regular : Regular requested)
    (read : Url.parse? requested = some wanted) (notFile : wanted.kind ≠ .file) (hpath : wanted.path ≠ "")
    (hroot : wanted.path ≠ "/") : ShowsPath requested := by
  obtain ⟨before, rest, marked, hb, plain⟩ := regular
  obtain ⟨scheme, hread⟩ := Url.readAuthority?_of_marked read notFile marked hb plain.front
  obtain ⟨⟨margin, hwritten, -⟩, hdrop⟩ := Url.cut_cleanEnd (.ofScheme scheme) plain.counted
  obtain ⟨w, host?, port?, fit, -, htext, rfl⟩ := Url.exists_pieces hread
  rw [htext, fit.cut.1] at hwritten
  rw [htext, fit.cut.2] at hdrop
  have hleft := plain.left_eq_nil fit hwritten
  intro found hfound
  obtain rfl : found = rest := by
    rw [marked, Address.afterMark?_marked hb] at hfound
    exact (Option.some.inj hfound).symm
  by_contra hslash
  -- Where no slash is shown, nothing is left in front of a query or a fragment that a path is read of.
  have hnone : w.tail.takeWhile (!Url.endsPath ·) = [] := by
    rw [Url.Pieces.tail, hleft, List.nil_append, hdrop]
    cases hd : found.dropWhile (!endsHost ·) with
    | nil => rfl
    | cons d more =>
      have hends : endsHost d = true := by simpa using Text.head?_dropWhile_stop (p := (!endsHost ·)) found d (hd ▸ rfl)
      have hne : d ≠ '/' := fun he => hslash (by rw [hd, he]; rfl)
      obtain rfl | rfl : d = '?' ∨ d = '#' := by simpa [endsHost, hne] using hends
      all_goals
        rw [Url.cleanEnd_cons rfl]
        rfl
  have hread : (w.url scheme host? port?).path = String.ofList (Url.Path.read (.ofScheme scheme) []).1 := by
    rw [Url.Pieces.url, hnone]
    rfl
  rw [hread] at hpath hroot
  exact (path_of_no_path _).elim hpath hroot

/-- A request of the usual shape that has a path is never answered with the credential of another path. -/
theorem path_of_regular {α : Type} {entries : Std.ExtTreeMap String α} {requested key : String} {kind : MatchKind}
    {wanted : Url} (regular : Regular requested) (read : Url.parse? requested = some wanted)
    (notFile : wanted.kind ≠ .file) (hpath : wanted.path ≠ "") (hroot : wanted.path ≠ "/")
    (answered : resolve entries requested = some (key, kind)) :
    ∃ stored, Url.parse? key = some stored ∧ stored.path = wanted.path :=
  path_of_shown (showsPath_of_regular regular read notFile hpath hroot) read hpath answered

end BuildCredentials.Registry
