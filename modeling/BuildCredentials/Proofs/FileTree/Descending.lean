import BuildCredentials.Proofs.FileTree.Rooted
import BuildCredentials.Proofs.Text.Cutting

/-!
# Paths that only go down

A path that never leads back up leads to a place as far below the root as it has names (`depth_of_follow`), so that
the directories on the way to it are other places. To make them brings nothing to light at the path
(`isThere_of_makeDirectories`): where something stands in a rooted tree, its directory is there already. So it is with
every path of which nothing is left to be made (`Straight`).
-/

set_option autoImplicit false

namespace BuildCredentials.FileTree

variable {t u : FileTree} {l m : Location} {name path parent : String} {ns : List String} {cs : List Char}

/-! ## The names of a path -/

theorem names_append_slash (xs ys : List Char) : names (xs ++ '/' :: ys) = names xs ++ names ys := by
  simp [names, List.splitOn_append_cons_self]

theorem names_slash (xs : List Char) : names (xs ++ ['/']) = names xs := by
  rw [names_append_slash, show names [] = [] from rfl, List.append_nil]

theorem names_of_no_slash (h : '/' ∉ cs) (hne : cs ≠ []) (hdot : cs ≠ ['.']) : names cs = [String.ofList cs] := by
  simp [names, List.splitOn_eq_singleton h, hne, hdot]

theorem names_trim (cs : List Char) : names (parentPath?.trim cs).reverse = names cs.reverse := by
  fun_induction parentPath?.trim cs with
  | case1 rest ih => rw [ih, List.reverse_cons, names_slash]
  | case2 rest ih =>
    rw [ih, List.reverse_cons, List.reverse_cons, List.reverse_cons, names_slash, List.append_assoc,
      List.singleton_append, names_append_slash, show names ['.'] = [] from rfl, List.append_nil]
  | case3 cs => rfl

theorem trim_suffix (cs : List Char) : parentPath?.trim cs <:+ cs := by
  fun_induction parentPath?.trim cs with
  | case1 rest ih => exact ih.trans (List.suffix_cons _ _)
  | case2 rest ih => exact ih.trans (List.suffix_cons _ _)
  | case3 cs => exact List.suffix_refl cs

/-- Of what is left no slash is first, and no dot alone. -/
theorem trim_begins (cs rest : List Char) :
    parentPath?.trim cs ≠ '/' :: rest ∧ parentPath?.trim cs ≠ '.' :: '/' :: rest := by
  fun_induction parentPath?.trim cs with
  | case1 _ ih => exact ih
  | case2 _ ih => exact ih
  | case3 cs hslash hdot => exact ⟨hslash rest, hdot rest⟩

theorem getLast?_of_suffix {xs ys : List Char} (h : xs <:+ ys) (hne : xs ≠ []) : xs.getLast? = ys.getLast? := by
  obtain ⟨zs, rfl⟩ := h
  rw [List.getLast?_append, List.getLast?_eq_some_getLast hne, Option.some_or]

/-- A path that has a directory with names ends, but for slashes, in a name of its own. -/
theorem exists_last_of_parentPath? (h : parentPath? path = some parent) (hne : names parent.toList ≠ []) :
    ∃ last back, parentPath?.trim path.toList.reverse = last ++ '/' :: back ∧ '/' ∉ last ∧
      parent.toList = (parentPath?.trim ('/' :: back)).reverse := by
  unfold parentPath? at h
  simp only at h
  split at h
  · cases h
  · split at h
    · cases h
      exact absurd rfl hne
    · simp only [Option.some.injEq] at h
      subst h
      -- The first slash of the reversed text is the last one of the path.
      generalize parentPath?.trim path.toList.reverse = text at hne
      rw [String.toList_ofList] at hne ⊢
      have hslash := Text.head?_dropWhile_stop (p := fun c => !decide (c = '/')) text
      have hcut := List.takeWhile_append_dropWhile (p := fun c => !decide (c = '/')) (l := text)
      cases hback : text.dropWhile fun c => !decide (c = '/') with
      | nil =>
        rw [hback] at hne
        exact absurd (by decide +kernel) hne
      | cons c back =>
        rw [hback] at hslash hcut
        obtain rfl : c = '/' := by simpa using hslash c rfl
        refine ⟨_, back, hcut.symm, fun hmem => ?_, rfl⟩
        simpa using List.mem_takeWhile_imp hmem

/-- The directory of a path has the names of the path but for the last one. -/
theorem names_of_parentPath? (h : parentPath? path = some parent) (hne : names parent.toList ≠ []) :
    parent.toList.head? = path.toList.head? ∧ ∃ last, names path.toList = names parent.toList ++ [last] := by
  obtain ⟨last, back, htext, hlast, hparent⟩ := exists_last_of_parentPath? h hne
  have hnames : names parent.toList = names back.reverse := by
    rw [hparent, names_trim, List.reverse_cons, names_slash]
  constructor
  · have hsuffix : parentPath?.trim ('/' :: back) <:+ path.toList.reverse :=
      (trim_suffix _).trans ((htext ▸ List.suffix_append _ _).trans (trim_suffix _))
    have hleft : parentPath?.trim ('/' :: back) ≠ [] := by
      intro he
      rw [hparent, he] at hne
      exact hne rfl
    rw [hparent, List.head?_reverse, getLast?_of_suffix hsuffix hleft, List.getLast?_reverse]
  · have hne : last ≠ [] := by
      rintro rfl
      exact (trim_begins _ back).1 htext
    have hdot : last ≠ ['.'] := by
      rintro rfl
      exact (trim_begins _ back).2 htext
    refine ⟨String.ofList last.reverse, ?_⟩
    rw [hnames, ← names_of_no_slash (by simpa using hlast) (by simpa using hne) (by simpa using hdot),
      ← names_append_slash, ← List.reverse_reverse path.toList, ← names_trim, htext]
    simp

/-! ## How far below the root -/

/-- How many names lead from the root to a place, the root itself counted. -/
def depth (t : FileTree) (l : Location) : Nat :=
  if l.head? = some "/" then l.length else t.workdirPlace.length + l.length

/-- A name leads down. -/
def LeadsDown (name : String) : Prop := name ≠ ".." ∧ name ≠ "/"

theorem depth_child (h : LeadsDown name) (l : Location) : t.depth (t.child l name) = t.depth l + 1 := by
  rw [child, if_neg h.1]
  by_cases hw : l ++ [name] = t.workdirPlace
  · have hlength : t.workdirPlace.length = l.length + 1 := by simp [← hw]
    have hhead : (l ++ [name]).head? = some "/" := hw ▸ rfl
    have hroot : l.head? = some "/" := by
      cases l with
      | nil => exact absurd (Option.some.inj hhead) h.2
      | cons => exact hhead
    rw [if_pos hw, depth, depth, if_pos hroot, if_neg (by simp), hlength, List.length_nil, Nat.add_zero]
  · rw [if_neg hw]
    cases l with
    | nil => simp [depth, h.2]
    | cons first l =>
      by_cases hf : first = "/"
      · simp [depth, hf]
      · simp [depth, hf, Nat.add_assoc]

theorem depth_of_follow (hd : ∀ name ∈ ns, LeadsDown name) (h : t.follow l ns = .ok m) :
    t.depth m = t.depth l + ns.length := by
  induction ns generalizing l with
  | nil =>
    cases h
    rfl
  | cons name ns ih =>
    obtain ⟨hname, hd⟩ := List.forall_mem_cons.1 hd
    obtain ⟨-, -, h⟩ := follow_cons_eq_ok.1 h
    rw [ih hd h, depth_child hname, List.length_cons]
    omega

theorem depth_le_of_mem_places (hd : ∀ name ∈ ns, LeadsDown name) (h : m ∈ t.places l ns) :
    t.depth m ≤ t.depth l + ns.length := by
  induction ns generalizing l with
  | nil => cases h
  | cons name ns ih =>
    obtain ⟨hname, hd⟩ := List.forall_mem_cons.1 hd
    have hchild := depth_child (t := t) hname l
    rw [List.length_cons]
    rcases List.mem_cons.1 h with rfl | h
    · omega
    · have hle := ih hd h
      omega

theorem Makes.depth {places : List Location} (h : Makes t u places) (l : Location) : u.depth l = t.depth l := by
  simp only [FileTree.depth, workdirPlace, h.workdir]

/-! ## Where a path starts -/

theorem of_belowWorkdir? {workdir rest : List Char} (h : belowWorkdir? workdir cs = some rest) :
    names cs = names workdir ++ names rest ∧ (workdir ≠ [] → cs.head? = workdir.head?) := by
  unfold belowWorkdir? at h
  split at h
  · rename_i hprefix
    obtain ⟨after, rfl⟩ := List.isPrefixOf_iff_prefix.1 hprefix
    rw [List.drop_left] at h
    refine ⟨?_, fun hne => by rw [List.head?_append, List.head?_eq_some_head hne, Option.some_or]⟩
    split at h
    · cases h
      rw [List.append_nil, show names [] = [] from rfl, List.append_nil]
    · cases h
      exact names_append_slash _ _
    · cases h
  · cases h

/-- A path that starts with a slash leads down from the root by all its names, also if it is followed from the
working directory. -/
theorem depth_start (hw : t.workdir.toList.head? = some '/') (path : String) :
    t.depth (t.start path).1 + (t.start path).2.length =
      (if path.toList.head? = some '/' then 1 else t.depth t.here) + (names path.toList).length := by
  unfold start
  split
  · rename_i rest hrest
    have hne : t.workdir.toList ≠ [] := by
      intro he
      rw [he] at hw
      cases hw
    obtain ⟨hnames, hhead⟩ := of_belowWorkdir? hrest
    have hdepth : t.depth [] = 1 + (names t.workdir.toList).length := by simp [depth, workdirPlace, root, Nat.add_comm]
    rw [if_pos ((hhead hne).trans hw), hnames, hdepth, List.length_append, Nat.add_assoc]
  · by_cases hs : path.toList.head? = some '/'
    · obtain ⟨rest, hrest⟩ := List.head?_eq_some_iff.1 hs
      simp [hrest, depth, root]
    · have hprefix : ¬['/'].isPrefixOf path.toList := by
        intro hp
        obtain ⟨rest, hrest⟩ := List.isPrefixOf_iff_prefix.1 hp
        exact hs (hrest ▸ rfl)
      simp [hs, hprefix]

theorem start_suffix (t : FileTree) (path : String) : (t.start path).2 <:+ names path.toList := by
  unfold start
  split
  · rename_i rest hrest
    rw [(of_belowWorkdir? hrest).1]
    exact List.suffix_append _ _
  · exact List.suffix_refl _

/-! ## What comes to light -/

/-- A path never leads back to the directory above. -/
def Descends (path : String) : Prop := ".." ∉ names path.toList

instance (path : String) : Decidable (Descends path) := inferInstanceAs (Decidable (".." ∉ names path.toList))

theorem ne_slash_of_mem_names (h : name ∈ names cs) : name ≠ "/" := by
  obtain ⟨part, hpart, rfl⟩ := List.mem_map.1 h
  have hnone := Text.of_mem_splitOnP (List.mem_filter.1 hpart).1
  intro he
  have hslash : part = ['/'] := by simpa using congrArg String.toList he
  rw [hslash] at hnone
  exact absurd (hnone '/' (.head _)) (by decide)

theorem Descends.leadsDown (h : Descends path) : ∀ name ∈ names path.toList, LeadsDown name :=
  fun _ hn => ⟨fun he => h (he ▸ hn), ne_slash_of_mem_names hn⟩

/-- Where something stands in a rooted tree, names lead without any directory that is new. -/
theorem Rooted.follow {places : List Location} (hr : t.Rooted) (hm : Makes t u places)
    (hd : ∀ name ∈ ns, LeadsDown name) (h : u.follow l ns = .ok m) (hn : t.node? m ≠ none) :
    t.follow l ns = .ok m ∧ t.node? l ≠ none := by
  induction ns generalizing l with
  | nil =>
    cases h
    exact ⟨rfl, hn⟩
  | cons name ns ih =>
    obtain ⟨hname, hd⟩ := List.forall_mem_cons.1 hd
    obtain ⟨-, hcheck, h⟩ := follow_cons_eq_ok.1 h
    rw [hm.grows.child] at h
    obtain ⟨hfollow, hthere⟩ := ih hd h
    have hdir : t.node? l = some .directory := hr.of_child hname.1 hthere
    exact ⟨follow_cons_eq_ok.2 ⟨checkDirectory_eq_ok.2 hdir, hcheck, hfollow⟩, by simp [hdir]⟩

/-- The directories on the way to the directory of a path are others than the place of the path. -/
theorem not_mem_wayTo_parent (hw : t.workdir.toList.head? = some '/') (hd : Descends path)
    (hp : parentPath? path = some parent) (h : t.depth m = t.depth (t.start path).1 + (t.start path).2.length) :
    m ∉ t.wayTo parent := by
  intro hm
  have hne : names parent.toList ≠ [] := by
    intro he
    have hstart := start_suffix t parent
    rw [he, List.suffix_nil] at hstart
    rw [wayTo, hstart] at hm
    cases hm
  obtain ⟨hhead, last, hnames⟩ := names_of_parentPath? hp hne
  have hdownParent : ∀ name ∈ (t.start parent).2, LeadsDown name := by
    intro name hn
    refine hd.leadsDown _ ?_
    rw [hnames]
    exact List.mem_append_left _ ((start_suffix t parent).subset hn)
  -- Both paths start at the root or both do not, and one has a name more than the other.
  have hle := depth_le_of_mem_places hdownParent hm
  have hstart := depth_start hw path
  have hstartParent := depth_start hw parent
  rw [hhead] at hstartParent
  rw [hnames, List.length_append, List.length_singleton] at hstart
  omega

/-- Making the directory of a path that only goes down brings nothing to light at the path. -/
theorem isThere_of_makeDirectories {r : Except FileFault Unit} (hr : t.Rooted) (hd : Descends path)
    (hp : parentPath? path = some parent) (hm : t.makeDirectories parent = (u, r)) (h : u.isThere path = true) :
    t.isThere path = true := by
  obtain ⟨hmakes, -⟩ := makeDirectories_made hm
  obtain ⟨n, hn⟩ := isThere_iff.1 h
  obtain ⟨l, hl, hn⟩ := lookup_eq_ok.1 hn
  obtain ⟨hne, hcheck, hfollow, hdir⟩ := locate_eq_ok.1 hl
  rw [hmakes.grows.start] at hfollow
  have hdown : ∀ name ∈ (t.start path).2, LeadsDown name :=
    fun _ hn => hd.leadsDown _ ((start_suffix t path).subset hn)
  rcases hmakes.node l with hsame | ⟨hnone, -, hmem⟩
  · -- It stood there before, and so did all directories on the way to it.
    have hthere : t.node? l ≠ none := by simp [← hsame, hn]
    obtain ⟨hfollow, -⟩ := hr.follow hmakes hdown hfollow hthere
    have hlocate : t.locate path = .ok l := by
      refine locate_eq_ok.2 ⟨hne, hcheck, hfollow, fun hs => ?_⟩
      rw [checkDirectory_eq_ok, ← hsame]
      exact checkDirectory_eq_ok.1 (hdir hs)
    exact isThere_iff.2 ⟨n, lookup_eq_ok.2 ⟨l, hlocate, hsame ▸ hn⟩⟩
  · -- It would be one of the directories that were made, all of which are higher up.
    have hdepth := depth_of_follow hdown hfollow
    rw [hmakes.depth, hmakes.depth] at hdepth
    exact absurd hmem (not_mem_wayTo_parent hr.absolute hd hp hdepth)

/-- Something stands at a path, or its directory does, or the path never leads back up. -/
inductive Straight (t : FileTree) (path : String) : Prop
  | there (h : t.isThere path = true)
  | directory {parent : String} (hp : parentPath? path = some parent) (h : t.lookup parent = .ok .directory)
  | descends (h : Descends path)

theorem Makes.straight {places : List Location} (h : Makes t u places) (hs : t.Straight path) : u.Straight path := by
  cases hs with
  | there ht => exact .there (h.isThere ht)
  | directory hp hd => exact .directory hp (h.lookup hd)
  | descends hd => exact .descends hd

theorem makeWay_of_follow (h : t.follow l ns = .ok m) (hm : t.node? m = some .directory) :
    t.makeWay l ns = (t, .ok ()) := by
  induction ns generalizing l with
  | nil =>
    cases h
    rw [makeWay, checkDirectory_eq_ok.2 hm]
  | cons name ns ih =>
    obtain ⟨hl, hcheck, h⟩ := follow_cons_eq_ok.1 h
    have hd : t.node? (t.child l name) = some .directory := by
      cases ns with
      | nil =>
        cases h
        exact hm
      | cons next ns => exact checkDirectory_eq_ok.1 (follow_cons_eq_ok.1 h).1
    rw [makeWay_cons_of_directory hl hcheck hd, ih h]

/-- A directory that is there is not made. -/
theorem makeDirectories_of_lookup (h : t.lookup path = .ok .directory) : t.makeDirectories path = (t, .ok ()) := by
  obtain ⟨l, hl, hd⟩ := lookup_eq_ok.1 h
  obtain ⟨-, hcheck, hfollow, -⟩ := locate_eq_ok.1 hl
  rw [makeDirectories, hcheck]
  exact makeWay_of_follow hfollow hd

/-- Making the directory of a straight path brings nothing to light at the path. -/
theorem Straight.isThere {r : Except FileFault Unit} (hs : t.Straight path) (hr : t.Rooted)
    (hp : parentPath? path = some parent) (hm : t.makeDirectories parent = (u, r)) (h : u.isThere path = true) :
    t.isThere path = true := by
  cases hs with
  | there ht => exact ht
  | directory hp' hd =>
    cases hp.symm.trans hp'
    cases (makeDirectories_of_lookup hd).symm.trans hm
    exact h
  | descends hd => exact isThere_of_makeDirectories hr hd hp hm h

end BuildCredentials.FileTree
