import BuildCredentials.FileTree
import BuildCredentials.Proofs.Results

/-!
# Paths and the directories on the way

A tree grows into another if its directories stay, and paths lead where they led in a tree that has grown. Making
directories is such a growth, and no more than that: every place keeps what stands there, and only directories
come to be, at places of the way itself, whether the way is made to its end or not (`Makes`). A
second attempt gets no further and changes nothing (`makeDirectories_made`).
-/

set_option autoImplicit false

namespace BuildCredentials.FileTree

variable {t u w : FileTree} {l m : Location} {name : String} {names : List String} {path : String}

/-- Every directory of a tree is one of another, and paths start at the same places in both. -/
structure Grows (t u : FileTree) : Prop where
  workdir : u.workdir = t.workdir
  here : u.here = t.here
  directory : ∀ l, t.node? l = some .directory → u.node? l = some .directory

/-! ## What stands where something was put or taken away -/

@[simp]
theorem workdirPlace_set (l : Location) (n : Node) : (t.set l n).workdirPlace = t.workdirPlace := rfl

@[simp]
theorem workdirPlace_clear (l : Location) : (t.clear l).workdirPlace = t.workdirPlace := rfl

theorem not_isPrefixOf_of_node? (h : t.node? l ≠ some .directory) : ¬l.isPrefixOf t.workdirPlace := by
  intro hl
  exact h (if_pos hl)

theorem compare_ne_eq (hm : m ≠ l) : compare l m ≠ .eq := by
  intro hc
  exact hm (Std.LawfulEqCmp.eq_of_compare hc).symm

theorem node?_set_self (h : t.node? l ≠ some .directory) (n : Node) : (t.set l n).node? l = some n := by
  rw [node?, workdirPlace_set, if_neg (not_isPrefixOf_of_node? h)]
  exact Std.ExtTreeMap.getElem?_insert_self

theorem node?_set_of_ne (hm : m ≠ l) (n : Node) : (t.set l n).node? m = t.node? m := by
  rw [node?, node?, workdirPlace_set]
  simp only [set, Std.ExtTreeMap.getElem?_insert, if_neg (compare_ne_eq hm)]

theorem node?_clear_self (h : t.node? l ≠ some .directory) : (t.clear l).node? l = none := by
  rw [node?, workdirPlace_clear, if_neg (not_isPrefixOf_of_node? h)]
  exact Std.ExtTreeMap.getElem?_erase_self

theorem node?_clear_of_ne (hm : m ≠ l) : (t.clear l).node? m = t.node? m := by
  rw [node?, node?, workdirPlace_clear]
  simp only [clear, Std.ExtTreeMap.getElem?_erase, if_neg (compare_ne_eq hm)]

theorem grows_set (h : t.node? l ≠ some .directory) (n : Node) : Grows t (t.set l n) := by
  refine ⟨rfl, rfl, ?_⟩
  intro m hm
  have hne : m ≠ l := by
    rintro rfl
    exact h hm
  rw [node?_set_of_ne hne, hm]

theorem grows_clear (h : t.node? l ≠ some .directory) : Grows t (t.clear l) := by
  refine ⟨rfl, rfl, ?_⟩
  intro m hm
  have hne : m ≠ l := by
    rintro rfl
    exact h hm
  rw [node?_clear_of_ne hne, hm]

/-! ## Paths in a tree that has grown -/

theorem checkDirectory_eq_ok : t.checkDirectory l = .ok () ↔ t.node? l = some .directory := by
  unfold checkDirectory
  split <;> simp_all

theorem Grows.checkDirectory (h : Grows t u) (hl : t.checkDirectory l = .ok ()) : u.checkDirectory l = .ok () :=
  checkDirectory_eq_ok.2 (h.directory l (checkDirectory_eq_ok.1 hl))

theorem follow_cons_eq_ok :
    t.follow l (name :: names) = .ok m ↔
      t.checkDirectory l = .ok () ∧ checkName name = .ok () ∧ t.follow (t.child l name) names = .ok m := by
  simp only [follow, bind_eq_ok]
  constructor
  · rintro ⟨_, hl, _, hn, hf⟩
    exact ⟨hl, hn, hf⟩
  · rintro ⟨hl, hn, hf⟩
    exact ⟨(), hl, (), hn, hf⟩

theorem Grows.child (h : Grows t u) (l : Location) (name : String) : u.child l name = t.child l name := by
  have hplace : u.workdirPlace = t.workdirPlace := by rw [workdirPlace, workdirPlace, h.workdir]
  simp only [FileTree.child, above, hplace]

theorem Grows.follow (h : Grows t u) (hf : t.follow l names = .ok m) : u.follow l names = .ok m := by
  induction names generalizing l with
  | nil => exact hf
  | cons name names ih =>
    obtain ⟨hl, hn, hf⟩ := follow_cons_eq_ok.1 hf
    refine follow_cons_eq_ok.2 ⟨h.checkDirectory hl, hn, ?_⟩
    rw [h.child]
    exact ih hf

theorem Grows.start (h : Grows t u) (path : String) : u.start path = t.start path := by
  simp only [FileTree.start, h.workdir, h.here]

theorem locate_eq_ok :
    t.locate path = .ok m ↔ path ≠ "" ∧ checkPath path = .ok () ∧
      t.follow (t.start path).1 (t.start path).2 = .ok m ∧
      (asksDirectory path = true → t.checkDirectory m = .ok ()) := by
  unfold FileTree.locate
  by_cases he : path = ""
  · rw [if_pos he]
    exact ⟨fun h => (by cases h), fun h => absurd he h.1⟩
  · rw [if_neg he]
    simp only [bind_eq_ok]
    cases hs : asksDirectory path with
    | false =>
      constructor
      · rintro ⟨_, hc, l, hf, hm⟩
        cases hm
        exact ⟨he, hc, hf, by simp⟩
      · rintro ⟨-, hc, hf, -⟩
        exact ⟨(), hc, m, hf, rfl⟩
    | true =>
      constructor
      · rintro ⟨_, hc, l, hf, hm⟩
        obtain ⟨_, hd, hm⟩ := bind_eq_ok.1 hm
        cases hm
        exact ⟨he, hc, hf, fun _ => hd⟩
      · rintro ⟨-, hc, hf, hd⟩
        exact ⟨(), hc, m, hf, bind_eq_ok.2 ⟨(), hd rfl, rfl⟩⟩

theorem Grows.locate (h : Grows t u) (hp : t.locate path = .ok m) : u.locate path = .ok m := by
  obtain ⟨he, hc, hf, hd⟩ := locate_eq_ok.1 hp
  rw [locate_eq_ok, h.start]
  exact ⟨he, hc, h.follow hf, fun hs => h.checkDirectory (hd hs)⟩

/-! ## Making a way -/

/-- The places that names lead through from a place, the last one included. -/
def places (t : FileTree) (l : Location) : List String → List Location
  | [] => []
  | name :: rest => t.child l name :: t.places (t.child l name) rest

/-- A tree becomes another by directories alone, which are new at places of a list. -/
structure Makes (t u : FileTree) (places : List Location) : Prop where
  workdir : u.workdir = t.workdir
  here : u.here = t.here
  node : ∀ l, u.node? l = t.node? l ∨ t.node? l = none ∧ u.node? l = some .directory ∧ l ∈ places

namespace Makes

variable {places : List Location}

theorem refl (t : FileTree) (places : List Location) : Makes t t places := ⟨rfl, rfl, fun _ => .inl rfl⟩

theorem keeps {n : Node} (h : Makes t u places) (hl : t.node? l = some n) : u.node? l = some n := by
  rcases h.node l with hsame | ⟨hnone, -⟩
  · rw [hsame, hl]
  · rw [hnone] at hl
    cases hl

theorem grows (h : Makes t u places) : Grows t u := ⟨h.workdir, h.here, fun _ => h.keeps⟩

theorem node?_eq_file_iff (h : Makes t u places) {content : List UInt8} :
    u.node? l = some (.file content) ↔ t.node? l = some (.file content) := by
  refine ⟨fun hl => ?_, h.keeps⟩
  rcases h.node l with hsame | ⟨-, hdir, -⟩
  · rw [← hsame, hl]
  · rw [hdir] at hl
    cases hl

theorem set (h : t.node? l = none) (g : Makes (t.set l .directory) u places) : Makes t u (l :: places) := by
  have hnew : t.node? l ≠ some .directory := by simp [h]
  refine ⟨g.workdir, g.here, fun m => ?_⟩
  by_cases hm : m = l
  · subst hm
    exact .inr ⟨h, g.keeps (node?_set_self hnew _), .head _⟩
  · have hold : (t.set l .directory).node? m = t.node? m := node?_set_of_ne hm .directory
    rcases g.node m with hsame | ⟨hnone, hdir, hmem⟩
    · exact .inl (hsame.trans hold)
    · exact .inr ⟨hold ▸ hnone, hdir, .tail _ hmem⟩

theorem cons (h : Makes t u places) (l : Location) : Makes t u (l :: places) := by
  refine ⟨h.workdir, h.here, fun m => ?_⟩
  rcases h.node m with hsame | ⟨hnone, hdir, hmem⟩
  · exact .inl hsame
  · exact .inr ⟨hnone, hdir, .tail _ hmem⟩

end Makes

/-- The three things that the first name of a way can come to. -/
theorem makeWay_cons_cases (t : FileTree) (l : Location) (name : String) (names : List String) :
    (∃ f, t.makeWay l (name :: names) = (t, .error f)) ∨
      t.checkDirectory l = .ok () ∧ checkName name = .ok () ∧
        (t.node? (t.child l name) = none ∧
            t.makeWay l (name :: names) = (t.set (t.child l name) .directory).makeWay (t.child l name) names ∨
          t.node? (t.child l name) = some .directory ∧
            t.makeWay l (name :: names) = t.makeWay (t.child l name) names) := by
  rw [makeWay]
  cases t.checkDirectory l with
  | error f => exact .inl ⟨f, rfl⟩
  | ok _ =>
    cases checkName name with
    | error f => exact .inl ⟨f, rfl⟩
    | ok _ =>
      cases hnext : t.node? (t.child l name) with
      | none => simp [hnext]
      | some n => cases n <;> simp [hnext]

theorem makeWay_cons_of_directory (hl : t.checkDirectory l = .ok ()) (hn : checkName name = .ok ())
    (hd : t.node? (t.child l name) = some .directory) :
    t.makeWay l (name :: names) = t.makeWay (t.child l name) names := by
  simp only [makeWay, hl, hn, hd]

theorem Grows.places (h : Grows t u) (l : Location) (names : List String) : u.places l names = t.places l names := by
  induction names generalizing l with
  | nil => rfl
  | cons name names ih => simp only [FileTree.places, h.child, ih]

/-- What was made of a way is there, and is all that can be made of it. -/
theorem makeWay_made {r : Except FileFault Unit} (hm : t.makeWay l names = (u, r)) :
    Makes t u (t.places l names) ∧ u.makeWay l names = (u, r) := by
  induction names generalizing t l with
  | nil =>
    obtain ⟨rfl, rfl⟩ := Prod.mk.injEq .. ▸ hm
    exact ⟨.refl t _, rfl⟩
  | cons name names ih =>
    rcases makeWay_cons_cases t l name names with ⟨f, hf⟩ | ⟨hl, hn, hcases⟩
    · obtain ⟨rfl, rfl⟩ := Prod.mk.injEq .. ▸ hf.symm.trans hm
      exact ⟨.refl t _, hf⟩
    · -- The first directory stands in what was made, whether it is new or not, and the rest is made from there.
      suffices h : Makes t u (t.places l (name :: names)) ∧ u.node? (t.child l name) = some .directory ∧
          u.makeWay (t.child l name) names = (u, r) by
        obtain ⟨hmakes, hdir, hagain⟩ := h
        have hchild : u.child l name = t.child l name := hmakes.grows.child l name
        refine ⟨hmakes, ?_⟩
        rw [makeWay_cons_of_directory (hmakes.grows.checkDirectory hl) hn (hchild ▸ hdir), hchild, hagain]
      rcases hcases with ⟨hnone, hnext⟩ | ⟨hdir, hnext⟩
      · have hnew : t.node? (t.child l name) ≠ some .directory := by simp [hnone]
        obtain ⟨hmakes, hagain⟩ := ih (hnext.symm.trans hm)
        rw [(grows_set hnew _).places] at hmakes
        exact ⟨.set hnone hmakes, hmakes.keeps (node?_set_self hnew _), hagain⟩
      · obtain ⟨hmakes, hagain⟩ := ih (hnext.symm.trans hm)
        exact ⟨hmakes.cons _, hmakes.keeps hdir, hagain⟩

/-- A way that is there to its end stays there as the tree grows. -/
theorem Grows.makeWay (h : Grows t u) (hm : t.makeWay l names = (t, .ok ())) : u.makeWay l names = (u, .ok ()) := by
  induction names generalizing l with
  | nil =>
    have hl : t.checkDirectory l = .ok () := (Prod.mk.injEq .. ▸ hm).2
    rw [FileTree.makeWay, h.checkDirectory hl]
  | cons name names ih =>
    rcases makeWay_cons_cases t l name names with ⟨f, hf⟩ | ⟨hl, hn, ⟨hnone, hnext⟩ | ⟨hdir, hnext⟩⟩
    · cases hf.symm.trans hm
    · have hnew : t.node? (t.child l name) ≠ some .directory := by simp [hnone]
      exact absurd ((makeWay_made (hnext.symm.trans hm)).1.keeps (node?_set_self hnew _)) hnew
    · rw [makeWay_cons_of_directory (h.checkDirectory hl) hn (h.child .. ▸ h.directory _ hdir), h.child]
      exact ih (hnext.symm.trans hm)

/-! ## Making directories -/

/-- The places on the way to a path, its own included. -/
def wayTo (t : FileTree) (path : String) : List Location := t.places (t.start path).1 (t.start path).2

/-- The places on the way to the directory that a path without its last name leads to. -/
def wayToParent (t : FileTree) (path : String) : List Location := ((parentPath? path).map t.wayTo).getD []

theorem makeDirectories_made {r : Except FileFault Unit} (hm : t.makeDirectories path = (u, r)) :
    Makes t u (t.wayTo path) ∧ u.makeDirectories path = (u, r) := by
  unfold makeDirectories at hm ⊢
  cases hc : checkPath path with
  | error f =>
    rw [hc] at hm
    obtain ⟨rfl, rfl⟩ := Prod.mk.injEq .. ▸ hm
    exact ⟨.refl t _, rfl⟩
  | ok _ =>
    rw [hc] at hm
    obtain ⟨hmakes, hagain⟩ := makeWay_made hm
    exact ⟨hmakes, (hmakes.grows.start path).symm ▸ hagain⟩

theorem Grows.makeDirectories (h : Grows t u) (hm : t.makeDirectories path = (t, .ok ())) :
    u.makeDirectories path = (u, .ok ()) := by
  unfold FileTree.makeDirectories at hm ⊢
  cases hc : checkPath path with
  | error f =>
    rw [hc] at hm
    cases hm
  | ok _ =>
    rw [hc] at hm
    rw [h.start path]
    exact h.makeWay hm

/-! ## What is at a path -/

theorem lookup_eq_ok {n : Node} : t.lookup path = .ok n ↔ ∃ l, t.locate path = .ok l ∧ t.node? l = some n := by
  simp only [lookup, bind_eq_ok]
  refine exists_congr fun l => and_congr_right fun _ => ?_
  cases t.node? l <;> simp

theorem isThere_iff : t.isThere path = true ↔ ∃ n, t.lookup path = .ok n := by
  rw [isThere]
  cases t.lookup path <;> simp [Except.isOk, Except.toBool]

section
variable {places : List Location}

/-- What stands at a path stays there as directories are made. -/
theorem Makes.lookup {n : Node} (h : Makes t u places) (hn : t.lookup path = .ok n) :
    u.lookup path = .ok n := by
  obtain ⟨l, hl, hn⟩ := lookup_eq_ok.1 hn
  exact lookup_eq_ok.2 ⟨l, h.grows.locate hl, h.keeps hn⟩

theorem Makes.isThere (h : Makes t u places) (ht : t.isThere path = true) :
    u.isThere path = true := by
  obtain ⟨n, hn⟩ := isThere_iff.1 ht
  exact isThere_iff.2 ⟨n, h.lookup hn⟩

theorem Makes.read (h : Makes t u places) (ht : t.isThere path = true) :
    u.read path = t.read path := by
  obtain ⟨n, hn⟩ := isThere_iff.1 ht
  rw [FileTree.read, FileTree.read, hn, h.lookup hn]

end

end BuildCredentials.FileTree
