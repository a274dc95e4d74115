import BuildCredentials.Proofs.Url.Spelling

/-!
# Addresses without their paths

An address that has a path has a spelling without it (`exists_pathless`): behind a host the path of the root is
left, elsewhere none. Both are paths that an address takes from another one as they are.
-/

set_option autoImplicit false

namespace BuildCredentials.Url

open Text (cut_append head?_dropWhile_stop takeWhile_append_stop)

theorem Path.read_slash (kind : SchemeKind) : Path.read kind ['/'] = (['/'], false) := by
  cases kind <;> rfl

/-- Behind a slash the path of the root is cut off from what follows it. -/
theorem cut_slash {rest : List Char} (hrest : ∀ c ∈ rest.head?, endsPath c = true) :
    ('/' :: rest).takeWhile (!endsPath ·) = ['/'] ∧ ('/' :: rest).dropWhile (!endsPath ·) = rest :=
  cut_append (s := ['/']) (by simp [endsPath]) fun c hc => by simp [hrest c hc]

theorem endsPath_of_head?_dropWhile (cs : List Char) :
    ∀ c ∈ (cs.dropWhile (!endsPath ·)).head?, endsPath c = true := fun c hc => by
  simpa using head?_dropWhile_stop (p := (!endsPath ·)) cs c hc

/-! ## Behind a host -/

namespace Pieces

/-- The pieces with the path of the root. -/
def rooted (w : Pieces) : Pieces := { w.withoutPath with rest := '/' :: w.withoutPath.rest }

variable {w : Pieces} {kind : SchemeKind} {host? : Option Host} {port? : Option Nat} {scheme : String}

theorem Fit.rooted (fit : w.Fit kind) : w.rooted.Fit kind :=
  { fit.withoutPath with
    ends := fun c hc => by
      obtain rfl : '/' = c := Option.some.inj hc
      simp [endsAuthority, Path.isSlash] }

/-- Where there is a path, a slash may follow the authority. -/
theorem Reads.rooted (reads : w.Reads (.ofScheme scheme) host? port?) (fit : w.Fit (.ofScheme scheme))
    (hpath : (w.url scheme host? port?).path ≠ "") : w.rooted.Reads (.ofScheme scheme) host? port? where
  host := reads.host
  port := reads.port
  user hinfo hnone := by
    -- Behind an at sign alone stands the end, so that there would be no path.
    have hempty : w.host = [] ∧ w.digits? = none := by
      cases hdigits : w.digits? with
      | none => simpa [hostPort, Pieces.rooted, withoutPath, portText, hdigits] using hnone
      | some digits => simp [hostPort, Pieces.rooted, withoutPath, portText, hdigits] at hnone
    have hleft : w.left = [] := fit.bare hempty.2
    have hrest : w.rest = [] := reads.user hinfo (by simp [hostPort, hempty, hleft, portText])
    refine absurd ?_ hpath
    cases hkind : (SchemeKind.ofScheme scheme).isSpecial with
    | true => exact absurd hempty.1 (reads.host_ne_nil hkind)
    | false => simp [url, finish, tail, hleft, hrest, Path.read, hkind]
  server := reads.server

theorem url_rooted (w : Pieces) (scheme : String) (host? : Option Host) (port? : Option Nat) :
    w.rooted.url scheme host? port? = { w.url scheme host? port? with path := "/" } := by
  have htail : w.rooted.tail = '/' :: w.tail.dropWhile (!endsPath ·) := rfl
  obtain ⟨htake, hdrop⟩ := cut_slash (endsPath_of_head?_dropWhile w.tail)
  rw [url, htail, htake, hdrop, Path.read_slash]
  rfl

theorem clean_rooted (h : Clean w.text) : Clean w.rooted.text := by
  have htext : w.rooted.text =
      userText w.info? ++ w.host ++ portText w.digits? ++ '/' :: w.tail.dropWhile (!endsPath ·) := by
    simp [text_eq, rooted, withoutPath, tail]
  rw [text_eq] at h
  rw [htext]
  refine .append_cons (fun c hc => h.counted c ?_) rfl ?_
  · simp only [List.mem_append] at hc ⊢
    tauto
  · obtain ⟨path, hpath⟩ := List.dropWhile_suffix (l := w.tail) (!endsPath ·)
    rw [← hpath] at h
    exact h.of_append.of_append.of_append

end Pieces

theorem parse?_rooted {w : Pieces} {scheme : String} {front : List Char} {host? : Option Host} {port? : Option Nat}
    (spells : Spells front scheme) (notFile : SchemeKind.ofScheme scheme ≠ .file) (fit : w.Fit (.ofScheme scheme))
    (reads : w.Reads (.ofScheme scheme) host? port?) (counted : Clean w.text)
    (hpath : (w.url scheme host? port?).path ≠ "") :
    parse? (String.ofList (front ++ ':' :: '/' :: '/' :: w.rooted.text)) =
      some { w.url scheme host? port? with path := "/" } := by
  rw [← Pieces.url_rooted]
  exact parse?_text spells notFile fit.rooted (reads.rooted fit hpath) (Pieces.clean_rooted counted)

/-! ## Elsewhere -/

/-- Behind its host a file is read with the path of the root. -/
theorem readFile?_root {name rest : List Char} {host? : Option Host} (scheme : String) (named : NamesHost name host?)
    (hrest : ∀ c ∈ rest.head?, endsPath c = true) :
    readFile? scheme ('/' :: '/' :: (name ++ '/' :: rest)) =
      some (({ scheme, host?, path := "" } : Url).finish ['/'] rest) := by
  have hslash : endsAuthority .file '/' = true := by decide
  obtain ⟨htake, hdrop⟩ := cut_slash hrest
  cases named with
  | missing => simp [readFile?, Path.isSlash, hslash, htake, hdrop, Path.read_slash]
  | given nonempty notDrive inside read remote =>
    have hname : (name ++ '/' :: rest).takeWhile (!endsAuthority .file ·) = name :=
      takeWhile_append_stop (fun c hc => by simp [inside c hc]) (by simp [hslash]) rest
    have hslashes : (Path.isSlash .file '/' && Path.isSlash .file '/') = true := rfl
    have hkept : ¬(name = [] ∨ Path.isDriveLetter name = true) := by simp [nonempty, notDrive]
    simp only [readFile?, hslashes, if_true, hname, hkept, if_false, read, Option.map_some, remote, List.drop_left,
      Option.bind_eq_bind, Option.bind_some, htake, hdrop, Path.read_slash]
    rfl

theorem parse?_root_of_file {scheme : String} {front name rest : List Char} {host? : Option Host}
    (spells : Spells front scheme) (isFile : SchemeKind.ofScheme scheme = .file) (named : NamesHost name host?)
    (hname : ∀ c ∈ name, isPassedOver c = false) (hclean : Clean rest)
    (hrest : ∀ c ∈ rest.head?, endsPath c = true) :
    parse? (String.ofList (front ++ ':' :: '/' :: '/' :: (name ++ '/' :: rest))) =
      some (({ scheme, host?, path := "" } : Url).finish ['/'] rest) := by
  have hraw : clean (String.ofList (front ++ ':' :: '/' :: '/' :: (name ++ '/' :: rest))).toList =
      front ++ ':' :: '/' :: '/' :: (name ++ '/' :: rest) := by
    rw [String.toList_ofList, spells.clean_eq (Clean.append_cons hname rfl hclean).marked]
  rw [parse?_file spells hraw isFile, readFile?_root scheme named hrest]

/-- Where neither slashes nor a path follow the scheme, the path is empty. -/
theorem parse?_empty_path {scheme : String} {front rest : List Char} (spells : Spells front scheme)
    (other : SchemeKind.ofScheme scheme = .other) (hclean : Clean rest)
    (hrest : ∀ c ∈ rest.head?, endsPath c = true) :
    parse? (String.ofList (front ++ ':' :: rest)) =
      some (({ scheme, hasAuthority := false, path := "" } : Url).finish [] rest) := by
  have hraw : clean (String.ofList (front ++ ':' :: rest)).toList = front ++ ':' :: rest := by
    rw [String.toList_ofList, spells.clean_eq hclean]
  obtain ⟨htake, hdrop⟩ := cut_append (p := (!endsPath ·)) (s := []) (t := rest) (by simp)
    fun c hc => by simp [hrest c hc]
  rw [List.nil_append] at htake hdrop
  rw [parse?_other spells hraw other]
  unfold readOther?
  simp only [htake, hdrop]
  split
  · exact absurd (hrest '/' rfl) (by decide)
  · exact absurd (hrest '/' rfl) (by decide)
  · rfl

/-! ## Taking the path -/

theorem withPath_root {u : Url} (h : u.hasAuthority = true) : u.withPath "/" = { u with path := "/" } := by
  have hopaque : u.hasOpaquePath = false := by simp [hasOpaquePath, h]
  simp [withPath, hopaque, isPassedOver, Path.read_slash]

theorem withPath_empty {u : Url} (h : u.kind = .other) : u.withPath "" = { u with path := "" } := by
  simp [withPath, h, Path.read, SchemeKind.isSpecial, Percent.encode]

/-- An address with a path has a spelling without one, or with that of the root, which it takes as it is. -/
theorem exists_pathless {raw : String} {u : Url} (h : parse? raw = some u) (hpath : u.path ≠ "") :
    ∃ key path, (path = "" ∨ path = "/") ∧ parse? key = some { u with path } ∧ u.withPath path = { u with path } := by
  obtain ⟨scheme, front, after, spells, hraw, hfrom⟩ := readFrom_of_parse? h
  have clean {cs : List Char} (hsuffix : cs <:+ after) : Clean cs := clean_of_suffix hraw hsuffix
  cases hfrom with
  | authority notFile suffix read =>
    obtain ⟨w, host?, port?, fit, reads, rfl, rfl⟩ := exists_pieces read
    exact ⟨_, "/", .inr rfl, parse?_rooted spells notFile fit reads (clean suffix) hpath, withPath_root rfl⟩
  | file isFile read =>
    obtain ⟨name, host?, path, pathCs, named, hname, hsuffix, rfl⟩ := exists_of_readFile? read
    have hkey := parse?_root_of_file spells isFile named
      (fun c hc => (clean (List.suffix_refl after)).counted c (hname c hc))
      (clean ((List.dropWhile_suffix _).trans hsuffix)) (endsPath_of_head?_dropWhile pathCs)
    exact ⟨_, "/", .inr rfl, hkey, withPath_root rfl⟩
  | path other eq =>
    have hkey := parse?_empty_path spells other (clean (List.dropWhile_suffix _)) (endsPath_of_head?_dropWhile after)
    subst eq
    exact ⟨_, "", .inl rfl, hkey, withPath_empty other⟩

end BuildCredentials.Url
