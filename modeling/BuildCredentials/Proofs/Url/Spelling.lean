import BuildCredentials.Proofs.Url.Authority
import BuildCredentials.Proofs.Url.Path

/-!
# Spellings of an address

Before an address is split into its parts, blanks, tabs and line ends are left out, and other slashes count as
well. Where a text has two slashes right behind its first colon and nothing of the kind up to its path, what is
written for the authority is what is read, but for blanks at the end (`readAuthority?_of_marked`, `cut_cleanEnd`).
Whatever the spelling of an address with a port, there is one of the same address with another port, with its path
or without (`exists_spelling`).
-/

set_option autoImplicit false

namespace BuildCredentials.Url

open Registry.Address (endsHost)
open Pieces (userText portText)
open Text (cut_append dropWhile_append_stop head?_dropWhile_stop)

/-! ## Characters that do not count -/

/-- The rest of an address, as far as its characters count. -/
def cleanEnd (rest : List Char) : List Char := (rest.rdropWhile isMargin).filter (!isPassedOver ·)

theorem isPassedOver_eq_false {c : Char} (h : isMargin c = false) : isPassedOver c = false := by
  refine Bool.eq_false_iff.2 fun hover => ?_
  obtain rfl | rfl | rfl := eq_of_isPassedOver hover
  all_goals cases h

theorem rdropWhile_append_stop {c : Char} (h : isMargin c = false) (before after : List Char) :
    (before ++ c :: after).rdropWhile isMargin = before ++ c :: after.rdropWhile isMargin := by
  rw [List.rdropWhile, List.reverse_append, List.reverse_cons, List.append_assoc, List.singleton_append,
    dropWhile_append_stop h, List.reverse_append, List.reverse_cons, List.reverse_reverse, List.append_assoc,
    List.singleton_append, List.rdropWhile]

/-- What counts of a text with a colon in it. -/
theorem clean_colon (before rest : List Char) :
    clean (before ++ ':' :: rest) = (before.dropWhile isMargin).filter (!isPassedOver ·) ++ ':' :: cleanEnd rest := by
  rw [clean, dropWhile_append_stop rfl, ← List.rdropWhile, rdropWhile_append_stop rfl, List.filter_append]
  rfl

theorem cleanEnd_cons {c : Char} (hc : isMargin c = false) (rest : List Char) :
    cleanEnd (c :: rest) = c :: cleanEnd rest := by
  have htrim : (c :: rest).rdropWhile isMargin = c :: rest.rdropWhile isMargin := rdropWhile_append_stop hc [] rest
  rw [cleanEnd, htrim, List.filter_cons_of_pos (by simp [isPassedOver_eq_false hc]), cleanEnd]

/-- What counts of a text with a mark in it. -/
theorem clean_marked (before rest : List Char) :
    clean (before ++ ':' :: '/' :: '/' :: rest) =
      (before.dropWhile isMargin).filter (!isPassedOver ·) ++ ':' :: '/' :: '/' :: cleanEnd rest := by
  rw [clean_colon, cleanEnd_cons rfl, cleanEnd_cons rfl]

/-- All characters of a text count, wherever it ends an address. -/
structure Clean (cs : List Char) : Prop where
  counted : ∀ c ∈ cs, isPassedOver c = false
  last : ∀ c ∈ cs.getLast?, isMargin c = false

theorem clean_clean (raw : List Char) : Clean (clean raw) where
  counted c hc := by simpa using (List.mem_filter.1 hc).2
  last := by
    rw [clean, ← List.rdropWhile]
    generalize raw.dropWhile isMargin = cs
    cases hcs : cs.rdropWhile isMargin using List.reverseRecOn with
    | nil => simp
    | append_singleton front d =>
      -- The last character is no blank, so that it is not one of those left out either.
      have hd : isMargin d = false := by
        simpa [hcs] using List.rdropWhile_last_not isMargin cs (by simp [hcs])
      rw [List.filter_append, List.filter_cons_of_pos (by simp [isPassedOver_eq_false hd])]
      simp [hd]

theorem Clean.of_append {s t : List Char} (h : Clean (s ++ t)) : Clean t where
  counted c hc := h.counted c (List.mem_append_right _ hc)
  last c hc := h.last c (by rw [List.getLast?_append, Option.mem_def.1 hc]; rfl)

theorem Clean.append_cons {xs ys : List Char} {c : Char} (hxs : ∀ d ∈ xs, isPassedOver d = false)
    (hc : isMargin c = false) (h : Clean ys) : Clean (xs ++ c :: ys) where
  counted d hd := by
    rcases List.mem_append.1 hd with hd | hd
    · exact hxs d hd
    · rcases List.mem_cons.1 hd with rfl | hd
      · exact isPassedOver_eq_false hc
      · exact h.counted d hd
  last d hd := by
    rw [List.getLast?_append_cons] at hd
    cases ys with
    | nil =>
      obtain rfl : c = d := by simpa using hd
      exact hc
    | cons y ys => exact h.last d (by rwa [List.getLast?_cons_cons] at hd)

theorem Clean.marked {cs : List Char} (h : Clean cs) : Clean ('/' :: '/' :: cs) := by
  have hmark : Clean (['/'] ++ '/' :: cs) := .append_cons (by simp [isPassedOver]) rfl h
  exact hmark

theorem Clean.cleanEnd_eq {cs : List Char} (h : Clean cs) : cleanEnd cs = cs := by
  have hlast : cs.rdropWhile isMargin = cs := List.rdropWhile_eq_self_iff.2 fun hne => by
    simp [h.last _ (List.getLast?_eq_some_getLast hne)]
  rw [cleanEnd, hlast]
  exact List.filter_eq_self.2 fun c hc => by simp [h.counted c hc]

/-! ## Schemes -/

theorem isSchemeChar_of_isMargin {c : Char} (h : isMargin c) : isSchemeChar c = false := by
  have hc : c.toNat ≤ 32 := of_decide_eq_true h
  have all : ∀ n ≤ 32, isSchemeChar (Char.ofNat n) = false := by decide
  simpa using all c.toNat hc

/-- A text spells a scheme in front of a colon. -/
structure Spells (front : List Char) (scheme : String) : Prop where
  nonempty : front ≠ []
  chars : ∀ c ∈ front, isSchemeChar c
  split : ∀ after, splitScheme? (front ++ ':' :: after) = some (scheme, after)

theorem exists_spells {cs after : List Char} {scheme : String} (h : splitScheme? cs = some (scheme, after)) :
    ∃ front, cs = front ++ ':' :: after ∧ Spells front scheme := by
  cases cs with
  | nil => cases h
  | cons c rest =>
    rw [splitScheme?] at h
    split at h
    · rename_i hc
      split at h
      · rename_i more hmore
        cases h
        have hrest := (List.takeWhile_append_dropWhile (p := isSchemeChar) (l := rest)).symm
        have hfront (d : Char) (hd : d ∈ rest.takeWhile isSchemeChar) : isSchemeChar d := List.mem_takeWhile_imp hd
        rw [hmore] at hrest
        refine ⟨c :: rest.takeWhile isSchemeChar, by rw [List.cons_append, ← hrest], by simp, ?_, fun other => ?_⟩
        · exact List.forall_mem_cons.2 ⟨by simp [isSchemeChar, Char.isAlphanum, hc], hfront⟩
        · obtain ⟨htake, hdrop⟩ := cut_append (t := ':' :: other) hfront (by simp; rfl)
          rw [List.cons_append, splitScheme?, if_pos hc, htake, hdrop]
          rfl
      · cases h
    · cases h

theorem Spells.not_colon {front : List Char} {scheme : String} (h : Spells front scheme) : ':' ∉ front := fun hm =>
  absurd (h.chars _ hm) (by decide)

/-- The colon behind a scheme is the first one. -/
theorem Spells.unique {front before after rest : List Char} {scheme : String} (h : Spells front scheme)
    (hb : ':' ∉ before) (he : before ++ ':' :: rest = front ++ ':' :: after) : before = front ∧ rest = after := by
  have cut {xs : List Char} (hx : ':' ∉ xs) (ys : List Char) :=
    cut_append (p := (· ≠ ':')) (s := xs) (t := ':' :: ys)
      (fun c hc => decide_eq_true fun he => hx (he ▸ hc)) (by simp)
  obtain ⟨htake, hdrop⟩ := cut hb rest
  obtain ⟨htake', hdrop'⟩ := cut h.not_colon after
  rw [he] at htake hdrop
  exact ⟨htake.symm.trans htake', (List.cons.inj (hdrop.symm.trans hdrop')).2⟩

/-- A scheme in front of a colon is left as it is. -/
theorem Spells.clean_eq {front rest : List Char} {scheme : String} (h : Spells front scheme) (hrest : Clean rest) :
    clean (front ++ ':' :: rest) = front ++ ':' :: rest := by
  have solid (c : Char) (hc : c ∈ front) : isMargin c = false :=
    Bool.eq_false_iff.2 fun hm => by simpa [isSchemeChar_of_isMargin hm] using h.chars c hc
  have hfront : front.dropWhile isMargin = front := by
    obtain ⟨c, more, rfl⟩ := List.exists_cons_of_ne_nil h.nonempty
    exact List.dropWhile_cons_of_neg (by simp [solid c (.head _)])
  have hkept : front.filter (!isPassedOver ·) = front := List.filter_eq_self.2 fun c hc => by
    simp [isPassedOver_eq_false (solid c hc)]
  rw [clean_colon, hfront, hkept, hrest.cleanEnd_eq]

/-! ## Reading behind a scheme -/

/-- What an address is read of behind its scheme. -/
inductive ReadFrom (scheme : String) (after : List Char) (u : Url) : Prop
  | authority {cs : List Char} (notFile : SchemeKind.ofScheme scheme ≠ .file) (suffix : cs <:+ after)
      (read : readAuthority? scheme cs = some u)
  | file (isFile : SchemeKind.ofScheme scheme = .file) (read : readFile? scheme after = some u)
  /-- There is no host, but only a path with what follows it. -/
  | path {text : List Char} (other : SchemeKind.ofScheme scheme = .other)
      (eq : u = ({ scheme, hasAuthority := false, path := "" } : Url).finish text (after.dropWhile (!endsPath ·)))

theorem readFrom_of_parse? {raw : String} {u : Url} (h : parse? raw = some u) :
    ∃ scheme front after, Spells front scheme ∧ clean raw.toList = front ++ ':' :: after ∧
      ReadFrom scheme after u := by
  obtain ⟨⟨scheme, after⟩, hsplit, h⟩ := Option.bind_eq_some_iff.1 h
  obtain ⟨front, hraw, spells⟩ := exists_spells hsplit
  refine ⟨scheme, front, after, spells, hraw, ?_⟩
  dsimp only at h
  split at h
  · rename_i hkind
    exact .file hkind h
  · rename_i web hkind
    exact .authority (by simp [hkind]) (List.dropWhile_suffix _) h
  · rename_i hkind
    unfold readOther? at h
    dsimp only at h
    split at h
    · rename_i rest
      exact .authority (by simp [hkind]) (List.suffix_append ['/', '/'] rest) h
    · exact .path hkind (Option.some.inj h).symm
    · exact .path hkind (Option.some.inj h).symm

/-- A text names the host of a file, or none. -/
inductive NamesHost : List Char → Option Host → Prop
  | missing : NamesHost [] none
  | given {name : List Char} {host : Host} (nonempty : name ≠ []) (notDrive : Path.isDriveLetter name = false)
      (inside : ∀ c ∈ name, endsAuthority .file c = false) (read : Host.ofSpecial? name = some host)
      (remote : host ≠ .name "localhost") : NamesHost name (some host)

/-- Whether a drive letter takes the host away or not, a text that was read names what is left. -/
theorem NamesHost.exists_of_drive {name cs : List Char} {host? : Option Host} (named : NamesHost name host?)
    (hname : ∀ c ∈ name, c ∈ cs) (hasDrive : Bool) :
    ∃ part, NamesHost part (if hasDrive then none else host?) ∧ ∀ c ∈ part, c ∈ cs := by
  cases hasDrive with
  | true => exact ⟨[], .missing, by simp⟩
  | false => exact ⟨name, named, hname⟩

/-- What is read of a file's address: a host at most, and a path with what follows it. -/
theorem exists_of_readFile? {scheme : String} {cs : List Char} {u : Url} (h : readFile? scheme cs = some u) :
    ∃ name host? path pathCs, NamesHost name host? ∧ (∀ c ∈ name, c ∈ cs) ∧ pathCs <:+ cs ∧
      u = ({ scheme, host?, path := "" } : Url).finish path (pathCs.dropWhile (!endsPath ·)) := by
  have nameless (hasDrive : Bool) : ∃ part, NamesHost part (if hasDrive then none else none) ∧ ∀ c ∈ part, c ∈ cs :=
    NamesHost.missing.exists_of_drive (by simp) hasDrive
  simp only [readFile?, Option.bind_eq_bind] at h
  split at h
  · rename_i a b rest
    have hrest : rest <:+ a :: b :: rest := List.suffix_append [a, b] rest
    split at h
    · split at h
      · obtain ⟨name, named, hname⟩ := nameless (Path.read .file (rest.takeWhile (!endsPath ·))).2
        exact ⟨name, _, _, rest, named, hname, hrest, (Option.some.inj h).symm⟩
      · rename_i hnamed
        obtain ⟨_, hhost, h⟩ := Option.bind_eq_some_iff.1 h
        obtain ⟨host, hread, rfl⟩ := Option.map_eq_some_iff.1 hhost
        have hdrop := (List.drop_suffix (rest.takeWhile (!endsAuthority .file ·)).length rest).trans hrest
        generalize hpath : rest.drop (rest.takeWhile (!endsAuthority .file ·)).length = pathCs at h hdrop
        split at h
        · obtain ⟨name, named, hname⟩ := nameless (Path.read .file (pathCs.takeWhile (!endsPath ·))).2
          exact ⟨name, _, _, pathCs, named, hname, hdrop, (Option.some.inj h).symm⟩
        · rename_i remote
          rw [not_or] at hnamed
          have inside (c : Char) (hc : c ∈ rest.takeWhile (!endsAuthority .file ·)) :
              endsAuthority .file c = false := by
            simpa using List.mem_takeWhile_imp (p := fun d => !endsAuthority .file d) hc
          have named : NamesHost (rest.takeWhile (!endsAuthority .file ·)) (some host) :=
            .given hnamed.1 (by simpa using hnamed.2) inside hread remote
          obtain ⟨name, named, hname⟩ := named.exists_of_drive
            (fun c hc => hrest.subset ((List.takeWhile_sublist _).subset hc))
            (Path.read .file (pathCs.takeWhile (!endsPath ·))).2
          exact ⟨name, _, _, pathCs, named, hname, hdrop, (Option.some.inj h).symm⟩
    · obtain ⟨name, named, hname⟩ := nameless (Path.read .file ((a :: b :: rest).takeWhile (!endsPath ·))).2
      exact ⟨name, _, _, _, named, hname, List.suffix_refl _, (Option.some.inj h).symm⟩
  · obtain ⟨name, named, hname⟩ := nameless (Path.read .file (cs.takeWhile (!endsPath ·))).2
    exact ⟨name, _, _, _, named, hname, List.suffix_refl _, (Option.some.inj h).symm⟩

theorem ReadFrom.scheme_eq {scheme : String} {after : List Char} {u : Url} (h : ReadFrom scheme after u) :
    u.scheme = scheme := by
  cases h with
  | authority _ _ read =>
    obtain ⟨w, host?, port?, -, -, -, rfl⟩ := exists_pieces read
    rfl
  | file _ read =>
    obtain ⟨name, host?, path, pathCs, -, -, -, rfl⟩ := exists_of_readFile? read
    rfl
  | path _ eq => rw [eq]; rfl

/-- An address with a port has an authority. -/
theorem ReadFrom.exists_authority {scheme : String} {after : List Char} {u : Url} {port : Nat}
    (h : ReadFrom scheme after u) (hp : u.port? = some port) :
    SchemeKind.ofScheme scheme ≠ .file ∧ ∃ cs, cs <:+ after ∧ readAuthority? scheme cs = some u := by
  cases h with
  | authority notFile suffix read => exact ⟨notFile, _, suffix, read⟩
  | file _ read =>
    obtain ⟨name, host?, path, pathCs, -, -, -, rfl⟩ := exists_of_readFile? read
    cases hp
  | path _ eq =>
    subst eq
    cases hp

/-- On the web an address has a host, and the path behind it was read. -/
theorem parts_of_web {raw : String} {u : Url} {port : Nat} (h : parse? raw = some u) (web : u.kind = .web port) :
    u.hasAuthority = true ∧ u.host? ≠ none ∧ ∃ cs, u.path = String.ofList (Path.read u.kind cs).1 := by
  obtain ⟨scheme, front, after, -, -, hfrom⟩ := readFrom_of_parse? h
  have hkind : SchemeKind.ofScheme scheme = .web port := by rwa [kind, hfrom.scheme_eq] at web
  cases hfrom with
  | authority _ _ read =>
    obtain ⟨w, host?, port?, -, reads, -, rfl⟩ := exists_pieces read
    refine ⟨rfl, fun hnone => ?_, _, rfl⟩
    obtain rfl : host? = none := hnone
    have hhost := reads.host
    rw [hkind, readHost?_of_special rfl] at hhost
    obtain ⟨host, -, he⟩ := Option.map_eq_some_iff.1 hhost
    cases he
  | file isFile _ =>
    rw [hkind] at isFile
    cases isFile
  | path other _ =>
    rw [hkind] at other
    cases other

section

variable {raw : String} {front rest : List Char} {scheme : String}

theorem parse?_file (spells : Spells front scheme) (hraw : clean raw.toList = front ++ ':' :: rest)
    (isFile : SchemeKind.ofScheme scheme = .file) : parse? raw = readFile? scheme rest := by
  simp only [parse?, Option.bind_eq_bind, hraw, spells.split, Option.bind_some, isFile]

theorem parse?_other (spells : Spells front scheme) (hraw : clean raw.toList = front ++ ':' :: rest)
    (other : SchemeKind.ofScheme scheme = .other) : parse? raw = readOther? scheme rest := by
  simp only [parse?, Option.bind_eq_bind, hraw, spells.split, Option.bind_some, other]

theorem parse?_marked (spells : Spells front scheme)
    (hraw : clean raw.toList = front ++ ':' :: '/' :: '/' :: rest) (notFile : SchemeKind.ofScheme scheme ≠ .file)
    (hrest : (SchemeKind.ofScheme scheme).isSpecial → ∀ c ∈ rest.head?, Path.isSlash (.ofScheme scheme) c = false) :
    parse? raw = readAuthority? scheme rest := by
  cases hkind : SchemeKind.ofScheme scheme with
  | file => exact absurd hkind notFile
  | web port =>
    simp only [parse?, Option.bind_eq_bind, hraw, spells.split, Option.bind_some, hkind]
    rw [hkind] at hrest
    exact congrArg _ (cut_append (s := ['/', '/']) (by simp [Path.isSlash]) (hrest rfl)).2
  | other => exact parse?_other spells hraw hkind

end

/-! ## Authorities as they are written -/

theorem endsAuthority_eq {c : Char} (kind : SchemeKind) (h : c ≠ '\\') : endsAuthority kind c = endsHost c := by
  simp only [endsAuthority, endsPath, Path.isSlash, endsHost, h, decide_false, Bool.and_false, Bool.or_false]
  rw [Bool.or_comm, Bool.or_assoc]

theorem endsAuthority_of_isDigit {c : Char} (kind : SchemeKind) (h : c.isDigit) : endsAuthority kind c = false := by
  have hne {d : Char} (hd : d.isDigit = false) : c ≠ d := fun he => by simp [← he, h] at hd
  rw [endsAuthority_eq kind (hne rfl), endsHost]
  simp [hne (d := '/') rfl, hne (d := '?') rfl, hne (d := '#') rfl]

/-- What is read as the authority is what is written, but for blanks at the end, and what follows it is what counts
of the rest. -/
theorem cut_cleanEnd (kind : SchemeKind) {rest : List Char}
    (plain : ∀ c ∈ rest.takeWhile (!endsHost ·), c ≠ '\\' ∧ isPassedOver c = false) :
    (∃ margin, rest.takeWhile (!endsHost ·) = (cleanEnd rest).takeWhile (!endsAuthority kind ·) ++ margin ∧
        ∀ c ∈ margin, isMargin c) ∧
      (cleanEnd rest).dropWhile (!endsAuthority kind ·) = cleanEnd (rest.dropWhile (!endsHost ·)) := by
  have hsplit := (List.takeWhile_append_dropWhile (p := (!endsHost ·)) (l := rest)).symm
  have hstop := head?_dropWhile_stop (p := (!endsHost ·)) rest
  have hpass {c : Char} (hc : c ∈ rest.takeWhile (!endsHost ·)) : !endsAuthority kind c := by
    rw [endsAuthority_eq kind (plain c hc).1]
    exact List.mem_takeWhile_imp (p := fun e => !endsHost e) hc
  generalize rest.takeWhile (!endsHost ·) = authority at plain hsplit hpass
  have kept {cs : List Char} (h : ∀ c ∈ cs, c ∈ authority) : cs.filter (!isPassedOver ·) = cs :=
    List.filter_eq_self.2 fun c hc => by simp [(plain c (h c hc)).2]
  cases hd : rest.dropWhile (!endsHost ·) with
  | nil =>
    -- The authority is all of the rest, so that the blanks are its own.
    obtain rfl : rest = authority := by rw [hsplit, hd, List.append_nil]
    have htrim := (List.rdropWhile_prefix isMargin (l := rest)).subset
    obtain ⟨htake, hdrop⟩ := cut_append (p := (!endsAuthority kind ·)) (s := rest.rdropWhile isMargin) (t := [])
      (fun c hc => hpass (htrim hc)) (by simp)
    rw [List.append_nil] at htake hdrop
    rw [cleanEnd, kept fun c hc => htrim hc, htake, hdrop]
    exact ⟨⟨_, (List.rdropWhile_append_rtakeWhile (p := isMargin) (l := rest)).symm,
      fun c hc => List.mem_rtakeWhile_imp hc⟩, rfl⟩
  | cons d more =>
    have hends : endsHost d = true := by simpa using hstop d (hd ▸ rfl)
    have hd' : d ≠ '\\' ∧ isMargin d = false := by
      obtain rfl | rfl | rfl : d = '/' ∨ d = '?' ∨ d = '#' := by simpa [endsHost, or_assoc] using hends
      all_goals decide
    have hclean : cleanEnd rest = authority ++ d :: cleanEnd more := by
      rw [hsplit, hd, cleanEnd, rdropWhile_append_stop hd'.2, List.filter_append, kept fun c hc => hc,
        List.filter_cons_of_pos (by simp [isPassedOver_eq_false hd'.2]), cleanEnd]
    obtain ⟨htake, hdrop⟩ := cut_append (p := (!endsAuthority kind ·)) (t := d :: cleanEnd more)
      (fun c hc => hpass hc) (by simp [endsAuthority_eq kind hd'.1, hends])
    rw [hclean, htake, hdrop, cleanEnd_cons hd'.2]
    exact ⟨⟨[], by simp, by simp⟩, rfl⟩

theorem head?_cleanEnd {rest : List Char} (hkept : ∀ c ∈ rest.head?, isPassedOver c = false) :
    ∀ c ∈ (cleanEnd rest).head?, c ∈ rest.head? := by
  obtain ⟨margin, hrest⟩ := List.rdropWhile_prefix isMargin rest
  rw [cleanEnd]
  cases hfront : rest.rdropWhile isMargin with
  | nil => simp
  | cons d more =>
    have hhead : rest.head? = some d := by rw [← hrest, hfront, List.cons_append, List.head?_cons]
    rw [List.filter_cons_of_pos (by simp [hkept d hhead]), hhead]
    exact fun c hc => hc

/-- Behind a mark at its first colon, an address is read as its authority, unless it is one of a file. -/
theorem readAuthority?_of_marked {raw : String} {u : Url} {before rest : List Char} (h : parse? raw = some u)
    (notFile : u.kind ≠ .file) (marked : raw.toList = before ++ ':' :: '/' :: '/' :: rest) (hb : ':' ∉ before)
    (front : ∀ c ∈ rest.head?, c ≠ '/' ∧ c ≠ '\\' ∧ isPassedOver c = false) :
    ∃ scheme, readAuthority? scheme (cleanEnd rest) = some u := by
  obtain ⟨scheme, spelled, after, spells, hraw, hread⟩ := readFrom_of_parse? h
  have hcounted : ':' ∉ (before.dropWhile isMargin).filter (!isPassedOver ·) := fun hm =>
    hb ((List.dropWhile_sublist _).subset (List.mem_filter.1 hm).1)
  obtain ⟨-, rfl⟩ := spells.unique hcounted (by rw [← hraw, marked, clean_marked])
  have hkind : SchemeKind.ofScheme scheme ≠ .file := by
    rwa [kind, hread.scheme_eq] at notFile
  refine ⟨scheme, (parse?_marked spells hraw hkind fun _ c hc => ?_).symm.trans h⟩
  have hc := front c (head?_cleanEnd (fun d hd => (front d hd).2.2) c hc)
  simp [Path.isSlash, hc.1, hc.2.1]

/-! ## Other spellings -/

/-- The path of an address that gives none. -/
def rootPath (u : Url) : String := String.ofList (Path.read u.kind []).1

namespace Pieces

/-- The pieces with another port, of one digit. -/
def withPort (w : Pieces) (digit : Char) : Pieces := { w with digits? := some [digit] }

/-- The pieces without a path. -/
def withoutPath (w : Pieces) : Pieces := { w with left := [], rest := w.tail.dropWhile (!endsPath ·) }

variable {w : Pieces} {kind : SchemeKind}

theorem mem_authority {c : Char} : c ∈ w.authority ↔
    c ∈ userText w.info? ∨ c ∈ w.host ∨ c ∈ portText w.digits? ∨ c ∈ w.left := by
  simp [authority, hostPort]

theorem Fit.withPort (fit : w.Fit kind) {digits : List Char} (hport : w.digits? = some digits) {digit : Char}
    (hd : digit.isDigit) : (w.withPort digit).Fit kind where
  inside c hc := by
    rcases mem_authority.1 hc with hc | hc | hc | hc
    · exact fit.inside c (mem_authority.2 (.inl hc))
    · exact fit.inside c (mem_authority.2 (.inr (.inl hc)))
    · rcases List.mem_cons.1 hc with rfl | hc
      · exact fit.inside ':' (mem_authority.2 (.inr (.inr (.inl (by simp [hport, portText])))))
      · obtain rfl := List.mem_singleton.1 hc
        exact endsAuthority_of_isDigit kind hd
    · exact fit.inside c (mem_authority.2 (.inr (.inr (.inr hc))))
  ends := fit.ends
  at_sign hm := by
    have hne : '@' ≠ digit := fun he => by simp [← he] at hd
    have hat := fit.at_sign
    simp [hostPort, Pieces.withPort, portText, hport, hne] at hm hat
    tauto
  host := by
    have hhost := fit.host
    rw [hostPort, hport] at hhost
    exact hostText_append_colon hhost _
  digits ds hds c hc := by
    cases hds
    exact List.mem_singleton.1 hc ▸ hd
  left := fit.left
  bare h := by cases h

theorem Fit.withoutPath (fit : w.Fit kind) : w.withoutPath.Fit kind where
  inside c hc := by
    have hmem := mem_authority.1 hc
    simp only [Pieces.withoutPath, List.not_mem_nil, or_false] at hmem
    exact fit.inside c (mem_authority.2 (by tauto))
  ends c hc := by
    have hends : endsPath c = true := by simpa using head?_dropWhile_stop (p := (!endsPath ·)) w.tail c hc
    simp [endsAuthority, hends]
  at_sign hm := by
    have hat := fit.at_sign
    simp [hostPort, Pieces.withoutPath] at hm hat
    tauto
  host := by
    have hhost := fit.host
    cases hport : w.digits? with
    | none => simpa [hostPort, Pieces.withoutPath, hport, fit.bare hport] using hhost
    | some digits =>
      rw [hostPort, hport] at hhost
      simpa [hostPort, Pieces.withoutPath, hport, portText] using hostText_append_colon hhost digits
  digits := fit.digits
  left := by simp [Pieces.withoutPath]
  bare _ := rfl

theorem url_withoutPath (w : Pieces) (scheme : String) (host? : Option Host) (port? : Option Nat) :
    w.withoutPath.url scheme host? port? =
      { w.url scheme host? port? with path := (w.url scheme host? port?).rootPath } := by
  have htail : w.withoutPath.tail = w.tail.dropWhile (!endsPath ·) := rfl
  obtain ⟨htake, hdrop⟩ := cut_append (s := []) (by simp) (head?_dropWhile_stop (p := (!endsPath ·)) w.tail)
  rw [List.nil_append] at htake hdrop
  rw [url, htail, htake, hdrop]
  rfl

theorem text_eq (w : Pieces) : w.text = userText w.info? ++ w.host ++ (portText w.digits? ++ w.tail) := by
  simp [text, authority, hostPort, tail]

/-- Where all characters of the pieces count, they do so with another port and with less behind it. -/
theorem clean_text {v : Pieces} (h : Clean w.text) {digits : List Char} (hport : w.digits? = some digits)
    {digit : Char} (hd : digit.isDigit) (hinfo : v.info? = w.info?) (hhost : v.host = w.host)
    (hdigits : v.digits? = some [digit]) (htail : v.tail <:+ w.tail) : Clean v.text := by
  have hmargin : isMargin digit = false := Bool.eq_false_iff.2 fun hm => by
    simpa [isSchemeChar, Char.isAlphanum, hd] using isSchemeChar_of_isMargin hm
  rw [text_eq] at h
  have htails : Clean v.tail := by
    obtain ⟨before, hbefore⟩ := htail
    rw [← hbefore] at h
    exact h.of_append.of_append.of_append
  have hcolon : v.text = userText w.info? ++ w.host ++ [':'] ++ digit :: v.tail := by
    simp [text_eq, hinfo, hhost, hdigits, portText]
  rw [hcolon]
  refine .append_cons (fun c hc => h.counted c ?_) hmargin htails
  rw [hport]
  simp only [portText, List.mem_append, List.mem_cons] at hc ⊢
  tauto

/-- Where a host is asked for, its text is not empty. -/
theorem Reads.host_ne_nil {host? : Option Host} {port? : Option Nat} (reads : w.Reads kind host? port?)
    (special : kind.isSpecial) : w.host ≠ [] := by
  intro hempty
  have hnone : Host.ofSpecial? [] = none := by decide +kernel
  have hread := reads.host
  rw [hempty, readHost?_of_special special, hnone] at hread
  cases hread

end Pieces

/-- Behind a scheme and a mark pieces are read as the address that they stand for. -/
theorem parse?_text {scheme : String} {front : List Char} (spells : Spells front scheme)
    (notFile : SchemeKind.ofScheme scheme ≠ .file) {w : Pieces} (fit : w.Fit (.ofScheme scheme))
    {host? : Option Host} {port? : Option Nat} (reads : w.Reads (.ofScheme scheme) host? port?)
    (counted : Clean w.text) :
    parse? (String.ofList (front ++ ':' :: '/' :: '/' :: w.text)) = some (w.url scheme host? port?) := by
  have hraw : clean (String.ofList (front ++ ':' :: '/' :: '/' :: w.text)).toList =
      front ++ ':' :: '/' :: '/' :: w.text := by
    rw [String.toList_ofList, spells.clean_eq counted.marked]
  rw [parse?_marked spells hraw notFile fun special c hc => ?_]
  · exact readAuthority?_text fit reads
  · have hne : w.authority ≠ [] := by simp [Pieces.authority, Pieces.hostPort, reads.host_ne_nil special]
    rw [Pieces.text, List.head?_append_of_ne_nil _ hne] at hc
    have hinside := fit.inside c (List.mem_of_mem_head? hc)
    exact (Bool.or_eq_false_iff.1 hinside).2

/-- What stands behind a scheme, or at its end, is clean. -/
theorem clean_of_suffix {raw front after cs : List Char} (hraw : clean raw = front ++ ':' :: after)
    (hsuffix : cs <:+ after) : Clean cs := by
  obtain ⟨before, rfl⟩ := hsuffix
  have hall := clean_clean raw
  rw [hraw] at hall
  exact (Clean.of_append (s := front ++ [':']) (by simpa using hall)).of_append

/-- An address with a port has a host before it. -/
theorem hasAuthority_of_port {raw : String} {u : Url} {port : Nat} (h : parse? raw = some u)
    (hp : u.port? = some port) : u.hasAuthority = true := by
  obtain ⟨scheme, _, _, _, _, hfrom⟩ := readFrom_of_parse? h
  obtain ⟨-, cs, -, hread⟩ := hfrom.exists_authority hp
  obtain ⟨w, host?, port?, -, -, -, rfl⟩ := exists_pieces hread
  rfl

/-- Addresses of files have no port. -/
theorem kind_of_port {raw : String} {u : Url} {port : Nat} (h : parse? raw = some u) (hp : u.port? = some port) :
    u.kind ≠ .file := by
  obtain ⟨scheme, _, _, _, _, hfrom⟩ := readFrom_of_parse? h
  rw [kind, hfrom.scheme_eq]
  exact (hfrom.exists_authority hp).1

/-- For an address with a port there is a spelling with another port, and one without the path as well. -/
theorem exists_spelling {raw : String} {u : Url} {port other : Nat} (h : parse? raw = some u)
    (hp : u.port? = some port) {digit : Char} (hd : digit.isDigit)
    (hother : ∀ scheme, portOfDigits? (.ofScheme scheme) [digit] = some (some other)) (keepsPath : Bool) :
    ∃ key, parse? key =
      some { u with port? := some other, path := if keepsPath then u.path else u.rootPath } := by
  obtain ⟨scheme, front, after, spells, hraw, hfrom⟩ := readFrom_of_parse? h
  obtain ⟨notFile, cs, hsuffix, hread⟩ := hfrom.exists_authority hp
  obtain ⟨w, host?, port?, fit, reads, rfl, rfl⟩ := exists_pieces hread
  obtain rfl : port? = some port := hp
  obtain ⟨digits, hdigits⟩ := reads.exists_digits
  have hclean : Clean w.text := clean_of_suffix hraw hsuffix
  have respell {v : Pieces} (fit' : v.Fit (.ofScheme scheme)) (hinfo : v.info? = w.info?) (hv : v.host = w.host)
      (hdigit : v.digits? = some [digit]) (htail : v.tail <:+ w.tail) :
      parse? (String.ofList (front ++ ':' :: '/' :: '/' :: v.text)) = some (v.url scheme host? (some other)) := by
    refine parse?_text spells notFile fit' ?_ (Pieces.clean_text hclean hdigits hd hinfo hv hdigit htail)
    exact {
      host := hv ▸ reads.host
      port := by rw [hdigit]; exact hother scheme
      user := fun _ hnone => by simp [Pieces.hostPort, hdigit, portText] at hnone
      server := fun hnone => absurd (reads.server hnone).1 (by simp [hdigits]) }
  cases keepsPath with
  | true => exact ⟨_, respell (v := w.withPort digit) (fit.withPort hdigits hd) rfl rfl rfl (List.suffix_refl _)⟩
  | false =>
    refine ⟨_, (respell (fit.withPort hdigits hd).withoutPath rfl rfl rfl (List.dropWhile_suffix _)).trans ?_⟩
    rw [Pieces.url_withoutPath]
    rfl

end BuildCredentials.Url
