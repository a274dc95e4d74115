import BuildCredentials.CommandLine.Command
import BuildCredentials.Proofs.Text.Cutting

/-!
# Commands as words

Every command that can be meant has words (`Command.words`), and these are read as the command (`Command.read_words`).
Options go first at each level, by their long names, and what might be taken for an option or a command stands behind
two dashes.
-/

set_option autoImplicit false

namespace BuildCredentials.CommandLine

/-! ## What can be meant -/

/-- A word that is taken as it is, even in front of two dashes: it does not begin like an option. -/
def IsPlain (w : String) : Prop := w = "-" ∨ w.toList.head? ≠ some '-'

/-- What a build can be asked to do: no path is empty, and the credentials have one source. -/
structure BuildOptions.Proper (o : BuildOptions) : Prop where
  registryFile : o.registryFile? ≠ some ""
  socket : o.socket? ≠ some ""
  context : o.context ≠ ""
  plain : IsPlain o.context
  oneSource : o.registryFile? = none ∨ o.registryHeader? = none

/-- What can be meant by a command line. -/
structure Command.Proper (c : Command) : Prop where
  verbosity : c.verbosity ≤ Scan.countLimit
  settingsPath : c.settingsPath? ≠ some ""
  build : ∀ o, c.action = .build o → o.Proper

/-! ## Words -/

/-- The long name of an option. -/
def Argument.longName : Argument → String
  | verbose => "verbose"
  | settingsPath => "config"
  | help => "help"
  | version => "version"
  | registryFile => "registry-config"
  | registryHeader => "registry-config-header"
  | socket => "socket"
  | engine => "engine"
  | force => "force"
  | context | engineArgs | key | value => ""

/-- The word of an option with its value, if it has one. -/
def optionWord (p : Argument × List String) : String :=
  match p.2 with
  | [] => "--" ++ p.1.longName
  | v :: _ => "--" ++ p.1.longName ++ "=" ++ v

/-- An option that may be given. -/
def given (a : Argument) (v? : Option String) : List (Argument × List String) := v?.toList.map fun v => (a, [v])

/-- An argument with all its values, if there are any. -/
def givenAll (a : Argument) (values : List String) : List (Argument × List String) :=
  if values = [] then [] else [(a, values)]

namespace BuildOptions

/-- The options of a build. -/
def options (o : BuildOptions) : List (Argument × List String) :=
  given .registryFile o.registryFile? ++ given .registryHeader o.registryHeader? ++ given .socket o.socket? ++
    given .engine o.engine?

end BuildOptions

/-- The words of an action. -/
def Action.words : Action → List String
  | .build o => Level.build.name :: (o.options.map optionWord ++ o.context :: "--" :: o.engineArgs)
  | .settings none => [Level.settings.name]
  | .settings (some .print) => [Level.settings.name, Level.print.name]
  | .settings (some .path) => [Level.settings.name, Level.location.name]
  | .settings (some (.create force)) =>
    Level.settings.name :: Level.create.name :: if force then [optionWord (.force, [])] else []
  | .settings (some (.assign key value)) => [Level.settings.name, Level.assign.name, "--", key, value]

namespace Command

/-- The options of every level. -/
def options (c : Command) : List (Argument × List String) :=
  List.replicate c.verbosity (.verbose, []) ++ given .settingsPath c.settingsPath?

/-- The words of a command. -/
def words (c : Command) : List String := c.options.map optionWord ++ c.action.words

end Command

/-! ## One word -/

section
variable {environment? : Option String} {level next : Level} {s t : Scan} {w : String} {rest : List String}
  {a : Argument} {values : List String} {p : Argument × List String}

/-- A level that has nothing open: words are read as what they look like. -/
structure Scan.Open (s : Scan) : Prop where
  settled : s.pending? = none
  awaiting : s.awaiting = false
  unended : s.ended = false

theorem enter?_of_dash (h : w.toList.head? = some '-') : level.enter? w = none ∧ level.isHelp w = false := by
  have hname : ∀ l : Level, l.name ≠ w := by
    rintro l rfl
    cases l <;> exact absurd h (by decide)
  have hhelp : w ≠ Level.helpWord := by
    rintro rfl
    exact absurd h (by decide)
  constructor
  · rw [Level.enter?, List.find?_eq_none]
    intro l _
    simp [hname l]
  · simp [Level.isHelp, hhelp]

/-- A word that enters no level is a word of its own level. -/
theorem scan_cons (hn : s.ended = false → s.awaiting = false → level.enter? w = none ∧ level.isHelp w = false) :
    scan environment? level s (w :: rest) = (s.word level w).bind fun s => scan environment? level s rest := by
  rw [scan]
  by_cases hm : (!s.ended && !s.awaiting) = true
  · have hopen : s.ended = false ∧ s.awaiting = false := by simpa using hm
    obtain ⟨henter, hhelp⟩ := hn hopen.1 hopen.2
    simp only [hm, hhelp, henter, Bool.and_false, Bool.false_eq_true, if_false, if_true]
  · simp only [hm, Bool.false_and, Bool.false_eq_true, if_false]

theorem scan_cons_of_ended (he : s.ended = true) :
    scan environment? level s (w :: rest) = (s.word level w).bind fun s => scan environment? level s rest :=
  scan_cons fun hn => absurd (he.symm.trans hn) (by decide)

/-- The name of a level below enters it. -/
theorem scan_enter (hs : s.Open) (hn : next ∈ level.below) :
    scan environment? level s (next.name :: rest) = (do
      let below ← scan environment? next {} rest
      let s ← s.check level environment? true
      return (level, s) :: below) := by
  have hhelp : level.isHelp next.name = false := by
    cases next <;> simp [Level.isHelp, Level.name, Level.helpWord]
  have henter : level.enter? next.name = some next := by
    revert hn
    cases level <;> cases next <;> decide
  rw [scan]
  simp only [hs.awaiting, hs.unended, hhelp, henter, Bool.not_false, Bool.and_true, Bool.true_and, Bool.false_eq_true,
    if_false, if_true]

/-! ## Options -/

/-- An option that a level takes, with what it takes. -/
structure Offered (level : Level) (p : Argument × List String) : Prop where
  long : level.long? p.1.longName = some p.1
  harmless : p.1 ≠ .help ∧ p.1 ≠ .version
  arity : if p.1.takesValue then ∃ v, p.2 = [v] else p.2 = []
  fits : Scan.fits p.1 p.2

/-- Whether an option may be given once more. -/
def MayAdd (s : Scan) (a : Argument) : Prop := a.taking = .counted ∨ s.has a = false

theorem toList_optionWord (h : level.long? p.1.longName = some p.1) :
    ∃ c cs, (optionWord p).toList = '-' :: '-' :: c :: cs ∧
      Scan.splitAttached (c :: cs) = (p.1.longName, p.2.head?) := by
  have hname : p.1.longName.toList ≠ [] ∧ ∀ c ∈ p.1.longName.toList, decide (c ≠ '=') = true := by
    cases hp : p.1 with
    | context | engineArgs | key | value =>
      rw [hp] at h
      cases level <;> exact absurd h (by decide)
    | _ => simp [Argument.longName]
  obtain ⟨c, cs, hcons⟩ := List.exists_cons_of_ne_nil hname.1
  unfold optionWord
  split
  · rename_i hnil
    refine ⟨c, cs, by simp [hcons], ?_⟩
    rw [← hcons, Scan.splitAttached, List.takeWhile_eq_self_iff.2 hname.2, List.dropWhile_eq_nil_iff.2 hname.2, hnil,
      String.ofList_toList]
    rfl
  · rename_i v _ hvalues
    have heq : decide ('=' ≠ '=') = false := by decide
    refine ⟨c, cs ++ '=' :: v.toList, by simp [hcons], ?_⟩
    rw [← List.cons_append, ← hcons, Scan.splitAttached, Text.takeWhile_append_stop hname.2 heq,
      List.dropWhile_append_of_pos hname.2, List.dropWhile_cons_of_neg (by simp), hvalues, String.ofList_toList]
    simp

theorem record_eq_ok (ha : a.takesValue → values ≠ []) (hm : MayAdd s a) (hf : Scan.fits a values) :
    s.record a values = .ok { s with given := s.given ++ [(a, values)] } := by
  have hmissing : ¬(a.takesValue = true ∧ values = []) := fun h => ha h.1 h.2
  have hagain : ¬(a.taking ≠ .counted ∧ s.has a = true) := by
    rintro ⟨hc, hh⟩
    rcases hm with hm | hm
    · exact hc hm
    · exact Bool.false_ne_true (hm.symm.trans hh)
  rw [Scan.record, if_neg hmissing, if_neg hagain, if_neg (by simp [hf])]

theorem take_eq_ok (hs : s.pending? = none) (ho : a ≠ .help ∧ a ≠ .version) (ha : a.takesValue → values ≠ [])
    (hm : MayAdd s a) (hf : Scan.fits a values) :
    s.take level a values = .ok { s with given := s.given ++ [(a, values)] } := by
  have hsettle : s.settle = .ok s := by rw [Scan.settle, hs]
  rw [Scan.take, hsettle, ← record_eq_ok ha hm hf]
  cases a with
  | help => exact absurd rfl ho.1
  | version => exact absurd rfl ho.2
  | _ => rfl

/-- The word of an option adds it to what was given. -/
theorem word_option (hs : s.Open) (ho : Offered level p) (hm : MayAdd s p.1) :
    s.word level (optionWord p) = .ok { s with given := s.given ++ [p] } := by
  obtain ⟨c, cs, hword, hsplit⟩ := toList_optionWord ho.long
  have harity := ho.arity
  have htake : s.take level p.1 p.2 = .ok { s with given := s.given ++ [p] } := by
    refine take_eq_ok hs.settled ho.harmless (fun hv => ?_) hm ho.fits
    rw [if_pos hv] at harity
    obtain ⟨v, hv⟩ := harity
    simp [hv]
  rw [Scan.word, if_neg (by simp [hs.unended]), hword]
  simp only [hsplit, Scan.long, ho.long]
  split at harity
  · rename_i hv
    obtain ⟨v, hvalues⟩ := harity
    rw [hvalues] at htake ⊢
    simp only [List.head?_cons, hv, if_true, htake]
  · rename_i hv
    rw [harity] at htake ⊢
    simp only [List.head?_nil, hv, Bool.false_eq_true, if_false, htake]

theorem has_append (given : List (Argument × List String)) :
    ({ s with given := s.given ++ given } : Scan).has a = (s.has a || given.any (·.1 = a)) := List.any_append

/-- Options add to what was given, one after another. -/
theorem scan_options {options : List (Argument × List String)} (hs : s.Open) (ho : ∀ p ∈ options, Offered level p)
    (hm : ∀ p ∈ options, MayAdd s p.1) (once : options.Pairwise fun p q => p.1.taking = .counted ∨ p.1 ≠ q.1) :
    scan environment? level s (options.map optionWord ++ rest) =
      scan environment? level { s with given := s.given ++ options } rest := by
  induction options generalizing s with
  | nil => rw [List.append_nil, List.map_nil, List.nil_append]
  | cons p options ih =>
    obtain ⟨hop, ho⟩ := List.forall_mem_cons.1 ho
    obtain ⟨hmp, hm⟩ := List.forall_mem_cons.1 hm
    obtain ⟨honce, once⟩ := List.pairwise_cons.1 once
    obtain ⟨c, cs, hword, -⟩ := toList_optionWord hop.long
    have hdash : (optionWord p).toList.head? = some '-' := by rw [hword, List.head?_cons]
    have hmore : ∀ q ∈ options, MayAdd { s with given := s.given ++ [p] } q.1 := by
      intro q hq
      rcases hm q hq with hc | hnone
      · exact .inl hc
      · rcases honce q hq with hc | hne
        · by_cases he : p.1 = q.1
          · exact .inl (he ▸ hc)
          · exact .inr (by simp [has_append, hnone, he])
        · exact .inr (by simp [has_append, hnone, hne])
    rw [List.map_cons, List.cons_append, scan_cons fun _ _ => enter?_of_dash hdash, word_option hs hop hmp]
    have hopen : Scan.Open { s with given := s.given ++ [p] } := ⟨hs.settled, hs.awaiting, hs.unended⟩
    refine (ih hopen ho hmore once).trans ?_
    simp

/-! ## Places -/

theorem word_plain (ha : s.awaiting = false) (he : s.ended = false) (hw : IsPlain w) :
    s.word level w = s.place level w := by
  rw [Scan.word, if_neg (by simp [he])]
  rcases hw with rfl | hw
  · rw [show "-".toList = ['-'] from rfl]
    simp [ha]
  · split
    · rename_i h
      exact absurd (by rw [h]; rfl) hw
    · rename_i h
      exact absurd (by rw [h]; rfl) hw
    · rename_i h
      exact absurd (by rw [h]; rfl) hw
    · simp [ha]

/-- Two dashes end the options. -/
theorem scan_dashes (he : s.ended = false) :
    scan environment? level s ("--" :: rest) = scan environment? level { s with ended := true } rest := by
  have hword : s.word level "--" = .ok { s with ended := true } := by
    rw [Scan.word, if_neg (by simp [he])]
    rfl
  rw [scan_cons fun _ _ => enter?_of_dash rfl, hword]
  rfl

/-- The context of a build is a plain word at its place. -/
theorem scan_context (hs : s.Open) (hp : s.placed = 0) (hw : IsPlain w) :
    scan environment? .build s (w :: rest) =
      scan environment? .build { s with pending? := some (.context, [w]), placed := 1 } rest := by
  have hword : s.word .build w = .ok { s with pending? := some (.context, [w]), placed := 1 } := by
    rw [word_plain hs.awaiting hs.unended hw]
    obtain ⟨given, pending?, awaiting, ended, placed⟩ := s
    cases hs.settled
    cases hs.unended
    cases hp
    rfl
  have hplain : Level.build.enter? w = none ∧ Level.build.isHelp w = false := ⟨rfl, rfl⟩
  rw [scan_cons fun _ _ => hplain, hword]
  rfl

/-- What stands behind the two dashes of a build is for the engine. -/
theorem scan_engineArgs {words : List String} (he : s.ended = true) (hp : s.pending? = some (.engineArgs, values)) :
    scan environment? .build s words =
      ({ s with pending? := some (.engineArgs, values ++ words) }.check .build environment? false).map
        fun s => [(.build, s)] := by
  induction words generalizing s values with
  | nil => rw [scan, List.append_nil, ← hp]
  | cons w words ih =>
    have hword : s.word .build w = .ok { s with pending? := some (.engineArgs, values ++ [w]) } := by
      rw [Scan.word, if_pos he, Scan.place, he, hp]
      rfl
    rw [scan_cons_of_ended he, hword]
    refine (ih (s := { s with pending? := some (.engineArgs, values ++ [w]) }) he rfl).trans ?_
    simp

/-! ## Levels as a whole -/

theorem check_eq_ok {entered : Bool} (hsettle : s.settle = .ok t) (he : environment? ≠ some "")
    (htop : level = .top → entered = true) (hc : ∀ c ∈ level.conflicts, t.has c.1 = false ∨ t.has c.2 = false)
    (hr : ∀ a ∈ level.required, t.has a = true) : s.check level environment? entered = .ok t := by
  have henvironment : ¬((!t.has .settingsPath) = true ∧ environment? = some "") := fun h => he h.2
  have hentered : ¬(level = .top ∧ (!entered) = true) := by
    rintro ⟨hl, hn⟩
    simp [htop hl] at hn
  have hconflict : ¬(level.conflicts.any fun c => t.has c.1 && t.has c.2) = true := by
    intro h
    obtain ⟨c, hmem, hboth⟩ := List.any_eq_true.1 h
    rcases hc c hmem with hnone | hnone <;> simp [hnone] at hboth
  have hmissing : ¬(level.required.any fun a => !t.has a) = true := by
    intro h
    obtain ⟨a, hmem, hnone⟩ := List.any_eq_true.1 h
    simp [hr a hmem] at hnone
  rw [Scan.check, hsettle]
  simp only [Bind.bind, Except.bind, henvironment, hentered, hconflict, hmissing, if_false]
  rfl

@[simp] theorem any_given (a b : Argument) (v? : Option String) :
    (given a v?).any (·.1 = b) = (v?.isSome && decide (a = b)) := by
  cases v? <;> simp [given]

@[simp] theorem lookup_given (a b : Argument) (v? : Option String) :
    (given a v?).lookup b = if b = a then v?.map ([·]) else none := by
  cases v? with
  | none => simp [given]
  | some v =>
    by_cases h : b = a
    · simp [given, h]
    · simp [given, List.lookup_cons, h, beq_false_of_ne h]

@[simp] theorem any_givenAll (a b : Argument) (values : List String) :
    (givenAll a values).any (·.1 = b) = (decide (values ≠ []) && decide (a = b)) := by
  by_cases h : values = [] <;> simp [givenAll, h]

@[simp] theorem lookup_givenAll (a b : Argument) (values : List String) :
    (givenAll a values).lookup b = if b = a ∧ values ≠ [] then some values else none := by
  by_cases h : values = []
  · simp [givenAll, h]
  · by_cases hb : b = a
    · simp [givenAll, h, hb]
    · simp [givenAll, h, hb, List.lookup_cons, beq_false_of_ne hb]

theorem given_sublist (a : Argument) (v? : Option String) : ((given a v?).map Prod.fst).Sublist [a] := by
  cases v? <;> simp [given]

theorem mem_given {v? : Option String} (h : p ∈ given a v?) : ∃ v, v? = some v ∧ p = (a, [v]) := by
  cases v? with
  | none => simp [given] at h
  | some v => exact ⟨v, rfl, by simpa [given] using h⟩

theorem offered_given {v? : Option String} (hl : level.long? a.longName = some a) (ha : a ≠ .help ∧ a ≠ .version)
    (ht : a.takesValue) (hf : a.taking = .path → v? ≠ some "") : ∀ p ∈ given a v?, Offered level p := by
  intro p hp
  obtain ⟨v, rfl, rfl⟩ := mem_given hp
  refine ⟨hl, ha, ?_, ?_⟩
  · rw [if_pos ht]
    exact ⟨v, rfl⟩
  · by_cases hpath : a.taking = .path
    · have hv : v ≠ "" := fun he => hf hpath (congrArg some he)
      simp [Scan.fits, hv]
    · simp [Scan.fits, hpath]

namespace BuildOptions

variable {o : BuildOptions}

theorem offered_options (ho : o.Proper) : ∀ p ∈ o.options, Offered .build p := by
  simp only [options, List.forall_mem_append]
  exact ⟨⟨⟨offered_given (by decide) (by decide) (by decide) fun _ => ho.registryFile,
    offered_given (by decide) (by decide) (by decide) fun h => absurd h (by decide)⟩,
    offered_given (by decide) (by decide) (by decide) fun _ => ho.socket⟩,
    offered_given (by decide) (by decide) (by decide) fun h => absurd h (by decide)⟩

theorem once_options : o.options.Pairwise fun p q => p.1.taking = .counted ∨ p.1 ≠ q.1 := by
  have hsublist : (o.options.map Prod.fst).Sublist [.registryFile, .registryHeader, .socket, .engine] := by
    simp only [options, List.map_append]
    exact (((given_sublist _ _).append (given_sublist _ _)).append (given_sublist _ _)).append (given_sublist _ _)
  have hnodup := List.Nodup.sublist hsublist (by decide)
  exact (List.pairwise_map.1 hnodup).imp .inr

/-- What the level of a build is given in the end. -/
def allGiven (o : BuildOptions) : List (Argument × List String) :=
  o.options ++ [(.context, [o.context])] ++ givenAll .engineArgs o.engineArgs

/-- The words of a build's level are read as what it is given. -/
theorem scan_words (ho : o.Proper) (he : environment? ≠ some "") :
    scan environment? .build {} (o.options.map optionWord ++ o.context :: "--" :: o.engineArgs) =
      .ok [(.build, { given := o.allGiven, ended := true, placed := 1 })] := by
  have hopen : Scan.Open {} := ⟨rfl, rfl, rfl⟩
  have hmay : ∀ p ∈ o.options, MayAdd {} p.1 := fun _ _ => .inr rfl
  have hopen' : Scan.Open { given := o.options } := ⟨rfl, rfl, rfl⟩
  have hcontext : ({ given := o.options, ended := true, placed := 1 } : Scan).record .context [o.context] =
      .ok { given := o.options ++ [(.context, [o.context])], ended := true, placed := 1 } := by
    refine record_eq_ok (by simp) (.inr ?_) ?_
    · simp [Scan.has, options]
    · simp [Scan.fits, ho.context]
  have hcheck {s : Scan} (h : s.settle = .ok { given := o.allGiven, ended := true, placed := 1 }) :
      s.check .build environment? false = .ok { given := o.allGiven, ended := true, placed := 1 } := by
    refine check_eq_ok h he (fun hl => nomatch hl) (fun c hc => ?_) (fun a ha => nomatch ha)
    cases List.mem_singleton.1 hc
    rcases ho.oneSource with hnone | hnone
    · exact .inl (by simp only [Scan.has, allGiven, options, List.any_append, any_given, any_givenAll, hnone]; simp)
    · exact .inr (by simp only [Scan.has, allGiven, options, List.any_append, any_given, any_givenAll, hnone]; simp)
  rw [scan_options hopen (offered_options ho) hmay once_options]
  refine (scan_context hopen' rfl ho.plain).trans ?_
  refine (scan_dashes rfl).trans ?_
  cases hargs : o.engineArgs with
  | nil =>
    rw [scan, hcheck]
    · rfl
    · have hgiven : o.allGiven = o.options ++ [(.context, [o.context])] := by simp [allGiven, givenAll, hargs]
      rw [hgiven]
      exact hcontext
  | cons w words =>
    -- The first word for the engine settles the context, and all of them are settled at the end.
    have hword : Scan.word .build ⟨o.options, some (.context, [o.context]), false, true, 1⟩ w =
        .ok ⟨o.options ++ [(.context, [o.context])], some (.engineArgs, [w]), false, true, 1⟩ := by
      show (Scan.record _ _ _).map _ = _
      rw [hcontext]
      rfl
    refine (scan_cons_of_ended rfl).trans ?_
    refine (congrArg (Except.bind · _) hword).trans ?_
    refine (scan_engineArgs rfl rfl).trans ?_
    rw [hcheck]
    · rfl
    · have hnone : Scan.has ⟨o.options ++ [(.context, [o.context])], none, false, true, 1⟩ .engineArgs = false := by
        simp [Scan.has, options]
      have hgiven : o.allGiven = o.options ++ [(.context, [o.context])] ++ [(.engineArgs, w :: words)] := by
        simp [allGiven, givenAll, hargs]
      rw [hgiven]
      exact record_eq_ok (fun _ => List.cons_ne_nil w words) (.inr hnone) rfl

/-- What a build's level is given says what the build is asked to do. -/
theorem ofScan_allGiven (o : BuildOptions) :
    Action.ofScan .build { given := o.allGiven, ended := true, placed := 1 } = .build o := by
  obtain ⟨registryFile?, registryHeader?, socket?, engine?, context, engineArgs⟩ := o
  simp only [Action.ofScan, Scan.value?, Scan.values, allGiven, options, List.lookup_append, lookup_given,
    lookup_givenAll, Action.build.injEq, BuildOptions.mk.injEq]
  refine ⟨?_, ?_, ?_, ?_, ?_, ?_⟩
  · cases registryFile? <;> rfl
  · cases registryHeader? <;> rfl
  · cases socket? <;> rfl
  · cases engine? <;> rfl
  · rfl
  · cases engineArgs <;> rfl

end BuildOptions

/-! ## Commands -/

theorem count_eq_zero (h : s.has a = false) : s.count a = 0 := by
  have hnone : s.given.filter (·.1 = a) = [] := by
    rw [List.filter_eq_nil_iff]
    exact fun p hp => by simpa using List.any_eq_false.1 h p hp
  rw [Scan.count, hnone]
  rfl

theorem value?_eq_none (h : s.has a = false) : s.value? a = none := by
  have hnone : s.given.lookup a = none := by
    rw [List.lookup_eq_none_iff]
    intro p hp
    have hne : ¬decide (p.1 = a) = true := List.any_eq_false.1 h p hp
    rw [bne_iff_ne]
    exact fun he => hne (decide_eq_true he.symm)
  rw [Scan.value?, Scan.values, hnone]
  rfl

/-- Where the first level says how much is to be told and where the settings are, the last one says what is to be
done. -/
theorem read_of_scan {words : List String} {between : List (Level × Scan)}
    (h : scan environment? .top {} words = .ok ((.top, t) :: (between ++ [(level, s)])))
    (hn : ∀ l ∈ between ++ [(level, s)], l.2.has .verbose = false ∧ l.2.has .settingsPath = false) :
    Command.read words environment? = .ok {
      verbosity := t.count .verbose
      settingsPath? := (t.value? .settingsPath).or environment?
      action := Action.ofScan level s } := by
  have hlast : ((Level.top, t) :: (between ++ [(level, s)])).getLast? = some (level, s) := by
    rw [← List.cons_append, List.getLast?_concat]
  have hverbosity : verbosityOf ((.top, t) :: (between ++ [(level, s)])) = t.count .verbose := by
    have hnone : ((between ++ [(level, s)]).map fun l => l.2.count .verbose).filter (0 < ·) = [] := by
      rw [List.filter_eq_nil_iff]
      intro n hmem
      obtain ⟨l, hl, rfl⟩ := List.mem_map.1 hmem
      rw [count_eq_zero (hn l hl).1]
      decide
    show ((t.count .verbose :: (between ++ [(level, s)]).map fun l => l.2.count .verbose).filter
      (0 < ·)).getLast?.getD 0 = _
    rw [List.filter_cons, hnone]
    split
    · rfl
    · rename_i hzero
      exact (Nat.eq_zero_of_not_pos (by simpa using hzero)).symm
  have hpath : settingsPathOf ((.top, t) :: (between ++ [(level, s)])) = t.value? .settingsPath := by
    have hnone : (between ++ [(level, s)]).filterMap (fun l => l.2.value? .settingsPath) = [] := by
      rw [List.filterMap_eq_nil_iff]
      exact fun l hl => value?_eq_none (hn l hl).2
    show (((Level.top, t) :: (between ++ [(level, s)])).filterMap fun l => l.2.value? .settingsPath).getLast? = _
    rw [List.filterMap_cons, hnone]
    cases t.value? .settingsPath <;> rfl
  rw [Command.read, h]
  simp only [Bind.bind, Except.bind, hlast, Option.getD_some, hverbosity, hpath]
  rfl

namespace Command

variable {c : Command}

theorem offered_options (hc : c.Proper) : ∀ p ∈ c.options, Offered .top p := by
  rw [options, List.forall_mem_append]
  refine ⟨fun p hp => ?_, offered_given (by decide) (by decide) (by decide) fun _ => hc.settingsPath⟩
  cases List.eq_of_mem_replicate hp
  exact ⟨rfl, by decide, rfl, rfl⟩

theorem once_options : c.options.Pairwise fun p q => p.1.taking = .counted ∨ p.1 ≠ q.1 := by
  rw [options, List.pairwise_append]
  refine ⟨List.pairwise_replicate.2 (.inr (.inl rfl)), ?_, fun p hp _ _ => ?_⟩
  · cases c.settingsPath? <;> simp [given]
  · cases List.eq_of_mem_replicate hp
    exact .inl rfl

theorem count_options (hc : c.Proper) : ({ given := c.options } : Scan).count .verbose = c.verbosity := by
  have hpath : (given .settingsPath c.settingsPath?).filter (·.1 = .verbose) = [] := by
    cases c.settingsPath? <;> simp [given]
  rw [Scan.count, options, List.filter_append, hpath, List.append_nil, List.filter_replicate]
  simp only [decide_true, if_true, List.length_replicate]
  exact Nat.min_eq_right hc.verbosity

theorem value?_options : ({ given := c.options } : Scan).value? .settingsPath = c.settingsPath? := by
  have hverbose : (List.replicate c.verbosity (Argument.verbose, ([] : List String))).lookup .settingsPath = none := by
    rw [List.lookup_eq_none_iff]
    intro p hp
    cases List.eq_of_mem_replicate hp
    rfl
  rw [Scan.value?, Scan.values, options, List.lookup_append, hverbose, lookup_given]
  cases c.settingsPath? <;> rfl

/-- What is behind the options of every level is read as if it stood alone. -/
theorem scan_action {words : List String} {deeper : List (Level × Scan)} (hc : c.Proper) (he : environment? ≠ some "")
    (hn : next ∈ Level.top.below) (h : scan environment? next {} words = .ok deeper) :
    scan environment? .top {} (c.options.map optionWord ++ next.name :: words) =
      .ok ((.top, { given := c.options }) :: deeper) := by
  have hopen : Scan.Open {} := ⟨rfl, rfl, rfl⟩
  have hopen' : Scan.Open { given := c.options } := ⟨rfl, rfl, rfl⟩
  have hcheck : ({ given := c.options } : Scan).check .top environment? true = .ok { given := c.options } :=
    check_eq_ok rfl he (fun _ => rfl) (List.forall_mem_nil _) (List.forall_mem_nil _)
  rw [scan_options hopen (offered_options hc) (fun _ _ => .inr rfl) once_options]
  refine (scan_enter hopen' hn).trans ?_
  simp only [Bind.bind, Except.bind, h, hcheck]
  rfl

/-- A command on the settings is read below their level. -/
theorem scan_below {words : List String} {last : Level × Scan} (he : environment? ≠ some "")
    (hn : next ∈ Level.settings.below) (h : scan environment? next {} words = .ok [last]) :
    scan environment? .settings {} (next.name :: words) = .ok [(.settings, {}), last] := by
  have hcheck : Scan.check .settings {} environment? true = .ok {} :=
    check_eq_ok rfl he (fun _ => rfl) (List.forall_mem_nil _) (List.forall_mem_nil _)
  rw [scan_enter ⟨rfl, rfl, rfl⟩ hn]
  simp only [Bind.bind, Except.bind, h, hcheck]
  rfl

theorem scan_nil (hs : s.pending? = none) (he : environment? ≠ some "") (hl : level ≠ .top)
    (hc : level.conflicts = []) (hr : level.required = []) : scan environment? level s [] = .ok [(level, s)] := by
  have hcheck : s.check level environment? false = .ok s := by
    refine check_eq_ok (by rw [Scan.settle, hs]) he (fun h => absurd h hl) ?_ ?_
    · rw [hc]
      exact List.forall_mem_nil _
    · rw [hr]
      exact List.forall_mem_nil _
  rw [scan, hcheck]
  rfl

theorem scan_create (he : environment? ≠ some "") (force : Bool) :
    scan environment? .create {} (if force then [optionWord (.force, [])] else []) =
      .ok [(.create, { given := if force then [(.force, [])] else [] })] := by
  cases force with
  | false => exact scan_nil rfl he (by decide) rfl rfl
  | true =>
    have hoffered : ∀ p ∈ [(Argument.force, ([] : List String))], Offered .create p := by
      intro p hp
      cases List.mem_singleton.1 hp
      exact ⟨rfl, by decide, rfl, rfl⟩
    have hopen : Scan.Open {} := ⟨rfl, rfl, rfl⟩
    have hmay : ∀ p ∈ [(Argument.force, ([] : List String))], MayAdd {} p.1 := fun _ _ => .inr rfl
    refine (scan_options hopen hoffered hmay (List.pairwise_singleton _ _)).trans ?_
    exact scan_nil rfl he (by decide) rfl rfl

/-- Behind two dashes any two words are a key and a value. -/
theorem scan_assign (he : environment? ≠ some "") (key value : String) :
    scan environment? .assign {} ["--", key, value] =
      .ok [(.assign, { given := [(.key, [key]), (.value, [value])], ended := true, placed := 2 })] := by
  have hkey : Scan.word .assign { ended := true } key = .ok ⟨[], some (.key, [key]), false, true, 1⟩ := rfl
  have hvalue : Scan.word .assign ⟨[], some (.key, [key]), false, true, 1⟩ value =
      .ok ⟨[(.key, [key])], some (.value, [value]), false, true, 2⟩ := rfl
  have hcheck : Scan.check .assign ⟨[(.key, [key])], some (.value, [value]), false, true, 2⟩ environment? false =
      .ok ⟨[(.key, [key]), (.value, [value])], none, false, true, 2⟩ := by
    refine check_eq_ok rfl he (fun h => nomatch h) (List.forall_mem_nil _) ?_
    intro a ha
    simp only [Level.required, List.mem_cons, List.not_mem_nil, or_false] at ha
    rcases ha with rfl | rfl <;> rfl
  calc scan environment? .assign {} ["--", key, value]
      = scan environment? .assign { ended := true } [key, value] := scan_dashes rfl
    _ = scan environment? .assign ⟨[], some (.key, [key]), false, true, 1⟩ [value] := by
      rw [scan_cons_of_ended rfl, hkey]
      rfl
    _ = scan environment? .assign ⟨[(.key, [key])], some (.value, [value]), false, true, 2⟩ [] := by
      rw [scan_cons_of_ended rfl, hvalue]
      rfl
    _ = .ok [(.assign, ⟨[(.key, [key]), (.value, [value])], none, false, true, 2⟩)] := by
      rw [scan, hcheck]
      rfl

/-- The words of an action are read, at a level below the first one, as the action. -/
theorem scan_actionWords {a : Action} (ha : ∀ o, a = .build o → o.Proper) (he : environment? ≠ some "") :
    ∃ next words between last, next ∈ Level.top.below ∧ a.words = next.name :: words ∧
      scan environment? next {} words = .ok (between ++ [last]) ∧ Action.ofScan last.1 last.2 = a ∧
      ∀ l ∈ between ++ [last], l.2.has .verbose = false ∧ l.2.has .settingsPath = false := by
  cases a with
  | build o =>
    refine ⟨.build, _, [], _, by decide, rfl, BuildOptions.scan_words (ha o rfl) he, o.ofScan_allGiven, ?_⟩
    rw [List.nil_append, List.forall_mem_singleton]
    simp [Scan.has, BuildOptions.allGiven, BuildOptions.options]
  | settings command? =>
    cases command? with
    | none =>
      exact ⟨.settings, [], [], (.settings, {}), by decide, rfl, scan_nil rfl he (by decide) rfl rfl, rfl,
        List.forall_mem_singleton.2 ⟨rfl, rfl⟩⟩
    | some command =>
      refine ⟨.settings, ?_⟩
      cases command with
      | print =>
        have hend : scan environment? .print {} [] = .ok [(.print, {})] := scan_nil rfl he (by decide) rfl rfl
        exact ⟨_, [_], _, by decide, rfl, scan_below he (by decide) hend, rfl, by decide⟩
      | path =>
        have hend : scan environment? .location {} [] = .ok [(.location, {})] := scan_nil rfl he (by decide) rfl rfl
        exact ⟨_, [_], _, by decide, rfl, scan_below he (by decide) hend, rfl, by decide⟩
      | create force =>
        refine ⟨_, [_], _, by decide, rfl, scan_below he (by decide) (scan_create he force), ?_, ?_⟩
        · cases force <;> rfl
        · cases force <;> decide
      | assign key value =>
        refine ⟨_, [_], _, by decide, rfl, scan_below he (by decide) (scan_assign he key value), rfl, ?_⟩
        intro l hl
        simp only [List.cons_append, List.nil_append, List.mem_cons, List.not_mem_nil, or_false] at hl
        rcases hl with rfl | rfl <;> exact ⟨rfl, rfl⟩

/-- Whatever can be meant can be said: the words of a command are read as the command, with the path that the
environment gives if it names none itself. -/
theorem read_words (hc : c.Proper) (he : environment? ≠ some "") :
    Command.read c.words environment? = .ok { c with settingsPath? := c.settingsPath?.or environment? } := by
  obtain ⟨next, words, between, last, hn, hwords, hscan, haction, hnone⟩ := scan_actionWords hc.build he
  have hlevels : scan environment? .top {} c.words = .ok ((.top, { given := c.options }) :: (between ++ [last])) := by
    rw [Command.words, hwords]
    exact scan_action hc he hn hscan
  rw [read_of_scan hlevels hnone, count_options hc, value?_options, haction]

end Command

end

end BuildCredentials.CommandLine
