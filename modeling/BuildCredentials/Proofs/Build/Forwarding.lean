import BuildCredentials.Build.Command
import BuildCredentials.Build.Forwarding
import BuildCredentials.Proofs.Json.Strings
import Mathlib.Data.List.TakeWhile

/-!
# What is passed on of an engine's output

Whatever the order in which the streams of an engine come, passing them on ends (`Run.add_weight_le`,
`exists_step_iff`), and by then the lines of each stream were passed on once and in their order, up to the first that
is no text (`Run.linesFrom_of_done`). What `forward` gives for an order of streams is what some run comes to
(`exists_run_forward`).
-/

set_option autoImplicit false

namespace BuildCredentials.Build

/-! ## Lines -/

section
variable {line rest : List UInt8}

theorem splitOn_of_not_mem (h : 10 ∉ line) : line.splitOn 10 = [line] :=
  List.splitOnP_eq_singleton fun b hb => by simpa using ne_of_mem_of_not_mem hb h

theorem linesOf_cons (h : 10 ∉ line) (rest : List UInt8) :
    linesOf (line ++ 10 :: rest) = withoutReturn line :: linesOf rest := by
  have hne : rest.splitOn 10 ≠ [] := List.splitOnP_ne_nil _ _
  rw [linesOf, List.splitOn_append_cons_self_of_not_mem h, List.dropLast_cons_of_ne_nil hne, List.getLast?_cons_of_ne_nil hne]
  rfl

theorem linesOf_last (h : 10 ∉ line) (hne : line ≠ []) : linesOf line = [line] := by
  simp [linesOf, splitOn_of_not_mem h, hne]

theorem passedOn_cons (h : 10 ∉ line) : passedOn (line ++ 10 :: rest) =
    match Utf8.decode? (withoutReturn line) with
    | some text => text :: passedOn rest
    | none => [] := by
  rw [passedOn, linesOf_cons h, textsOf]
  rfl

theorem passedOn_last (h : 10 ∉ line) (hne : line ≠ []) : passedOn line = (Utf8.decode? line).toList := by
  rw [passedOn, linesOf_last h hne, textsOf]
  cases Utf8.decode? line with
  | none => rfl
  | some text => rfl

end

/-- The lines that are passed on are those before the first that is no text. -/
theorem encode_textsOf (lines : List (List UInt8)) :
    (textsOf lines).map Utf8.encode = lines.takeWhile fun line => (Utf8.decode? line).isSome := by
  induction lines with
  | nil => rfl
  | cons line lines ih =>
    rw [textsOf]
    cases htext : Utf8.decode? line with
    | none => simp [htext]
    | some text => simp [htext, ih, Utf8.encode_of_decode? htext]

/-! ## One stream -/

namespace Tap

variable {t u : Tap} {text : String} {text? : Option String} {line rest : List UInt8}

theorem next_of_line (h : 10 ∉ line) (hheld : t.held = line ++ 10 :: rest) :
    t.next = .ofLine (withoutReturn line) rest := by
  have hline : ∀ b ∈ line, (decide (b ≠ 10)) = true := by
    intro b hb
    simpa using ne_of_mem_of_not_mem hb h
  rw [next, hheld, List.dropWhile_append_of_pos hline, List.takeWhile_append_of_pos hline]
  simp

theorem next_of_not_mem (h : 10 ∉ t.held) :
    t.next = if !t.ended then .waits else if t.held = [] then .stops else .ofLine t.held [] := by
  have hdrop : t.held.dropWhile (· ≠ 10) = [] := by
    rw [List.dropWhile_eq_nil_iff]
    intro b hb
    simpa using ne_of_mem_of_not_mem hb h
  rw [next, hdrop]

theorem line_or_not_mem (t : Tap) :
    (∃ line rest, 10 ∉ line ∧ t.held = line ++ 10 :: rest) ∨ 10 ∉ t.held := by
  by_cases h : 10 ∈ t.held
  · obtain ⟨line, rest, hheld, hline⟩ := List.eq_append_cons_of_mem h
    exact .inl ⟨line, rest, hline, hheld⟩
  · exact .inr h

theorem ofLine_eq_line {after : List UInt8} : Reading.ofLine line rest = .line text after ↔
    Utf8.decode? line = some text ∧ rest = after := by
  unfold Reading.ofLine
  cases Utf8.decode? line <;> simp

theorem ofLine_eq_stops : Reading.ofLine line rest = .stops ↔ Utf8.decode? line = none := by
  unfold Reading.ofLine
  cases Utf8.decode? line <;> simp

/-- A line that is there is the next that the stream passes on. -/
theorem passedOn_of_line (hend : t.ended = true → t.coming = []) (h : t.next = .line text rest) :
    passedOn (t.held ++ t.coming) = text :: passedOn (rest ++ t.coming) ∧ rest.length < t.held.length := by
  obtain ⟨line, after, hline, hheld⟩ | hnot := t.line_or_not_mem
  · rw [next_of_line hline hheld, ofLine_eq_line] at h
    obtain ⟨htext, rfl⟩ := h
    rw [hheld, List.append_assoc, List.cons_append, passedOn_cons hline, htext]
    exact ⟨rfl, by simp; omega⟩
  · rw [next_of_not_mem hnot] at h
    split_ifs at h with hended hnil
    obtain ⟨htext, rfl⟩ := ofLine_eq_line.1 h
    rw [hend (by simpa using hended), List.append_nil, passedOn_last hnot hnil, htext]
    exact ⟨rfl, List.length_pos_iff.2 hnil⟩

theorem passedOn_of_stops (hend : t.ended = true → t.coming = []) (h : t.next = .stops) :
    passedOn (t.held ++ t.coming) = [] := by
  obtain ⟨line, after, hline, hheld⟩ | hnot := t.line_or_not_mem
  · rw [next_of_line hline hheld, ofLine_eq_stops] at h
    rw [hheld, List.append_assoc, List.cons_append, passedOn_cons hline, h]
  · rw [next_of_not_mem hnot] at h
    split_ifs at h with hended hnil
    · rw [hend (by simpa using hended), hnil]
      rfl
    · rw [hend (by simpa using hended), List.append_nil, passedOn_last hnot hnil, ofLine_eq_stops.1 h]
      rfl

theorem ended_of_waits (h : t.next = .waits) : t.ended = false := by
  obtain ⟨line, after, hline, hheld⟩ | hnot := t.line_or_not_mem
  · rw [next_of_line hline hheld, Reading.ofLine] at h
    split at h <;> cases h
  · rw [next_of_not_mem hnot] at h
    split_ifs at h with hended hnil
    · simpa using hended
    · rw [Reading.ofLine] at h
      split at h <;> cases h

/-- Some lines of a stream were passed on, and those that are to follow are in what has come and is to come. -/
structure Passes (t : Tap) (stream : List UInt8) (texts : List String) : Prop where
  coming : t.ended = true → t.coming = []
  texts : texts ++ (if t.left then [] else passedOn (t.held ++ t.coming)) = passedOn stream

theorem Passes.step {stream : List UInt8} {texts : List String} (h : t.Passes stream texts)
    (hstep : t.Step text? u) : u.Passes stream (texts ++ text?.toList) := by
  obtain ⟨hend, htexts⟩ := h
  cases hstep with
  | comes hleft hpiece hcoming =>
    refine ⟨fun hended => ?_, ?_⟩
    · have := hcoming.symm.trans (hend hended)
      simp_all
    · simpa [hleft, hcoming] using htexts
  | ends hleft hcoming hended => exact ⟨fun _ => hcoming, by simpa using htexts⟩
  | passes hleft hnext =>
    refine ⟨hend, ?_⟩
    rw [hleft, if_neg (by decide), (passedOn_of_line hend hnext).1] at htexts
    simpa [hleft] using htexts
  | stops hleft hnext =>
    refine ⟨hend, ?_⟩
    rw [hleft, if_neg (by decide), passedOn_of_stops hend hnext] at htexts
    simpa using htexts

/-- A bound of the steps that are still to come. -/
def weight (t : Tap) : Nat :=
  if t.left then 0 else 2 * t.coming.length + t.held.length + (if t.ended then 1 else 2)

theorem Step.weight_lt (hstep : t.Step text? u) (hend : t.ended = true → t.coming = []) : u.weight < t.weight := by
  cases hstep with
  | comes hleft hpiece hcoming =>
    have hpos := List.length_pos_iff.2 hpiece
    simp only [weight, hleft, hcoming, List.length_append]
    simp
    omega
  | ends hleft hcoming hended => simp [weight, hleft, hended]
  | passes hleft hnext =>
    have hlt := (passedOn_of_line hend hnext).2
    simp only [weight, hleft]
    simp
    omega
  | stops hleft hnext =>
    simp only [weight, hleft]
    split_ifs <;> simp_all

theorem exists_step (hleft : t.left = false) : ∃ text? u, t.Step text? u := by
  cases hnext : t.next with
  | waits =>
    by_cases hcoming : t.coming = []
    · exact ⟨_, _, .ends hleft hcoming (ended_of_waits hnext)⟩
    · exact ⟨_, _, .comes hleft hcoming (List.append_nil _).symm⟩
  | line text rest => exact ⟨_, _, .passes hleft hnext⟩
  | stops => exact ⟨_, _, .stops hleft hnext⟩

theorem Step.left (hstep : t.Step text? u) : t.left = false := by
  cases hstep <;> assumption

end Tap

/-! ## Both streams -/

namespace Forwarding

variable {streams : Stream → List UInt8} {f g : Forwarding} {n : Nat}

/-- A bound of the steps that are still to come on both streams. -/
def weight (f : Forwarding) : Nat := (f.tap .output).weight + (f.tap .errors).weight

/-- Each stream passes on what it is to. -/
def Sound (streams : Stream → List UInt8) (f : Forwarding) : Prop :=
  ∀ s, (f.tap s).Passes (streams s) (f.linesFrom s)

theorem sound_start (streams : Stream → List UInt8) : Sound streams (start streams) :=
  fun _ => ⟨nofun, rfl⟩

theorem linesFrom_append (tap : Stream → Tap) (passed : List (Stream × String)) (s other : Stream)
    (text? : Option String) :
    linesFrom ⟨tap, passed ++ (text?.map fun text => (s, text)).toList⟩ other =
      linesFrom ⟨tap, passed⟩ other ++ if other = s then text?.toList else [] := by
  cases text? with
  | none => simp [linesFrom]
  | some text =>
    by_cases hs : other = s
    · simp [linesFrom, hs]
    · simp [linesFrom, hs, Ne.symm hs]

theorem Sound.step (h : Sound streams f) (hstep : f.Step g) : Sound streams g := by
  cases hstep with
  | @on s text? t htap =>
    intro other
    rw [linesFrom_append]
    show Tap.Passes (if other = s then t else f.tap other) _ (f.linesFrom other ++ _)
    by_cases hs : other = s
    · rw [hs, if_pos rfl, if_pos rfl]
      exact (h s).step htap
    · rw [if_neg hs, if_neg hs, List.append_nil]
      exact h other

theorem Step.weight_lt (hstep : f.Step g) (h : Sound streams f) : g.weight < f.weight := by
  cases hstep with
  | @on s text? t htap =>
    have hlt := htap.weight_lt (h s).coming
    cases s with
    | output => simpa [weight, setTap] using hlt
    | errors => simpa [weight, setTap] using hlt

theorem Run.sound (h : Run streams n f) : Sound streams f := by
  induction h with
  | start => exact sound_start streams
  | step _ hstep ih => exact ih.step hstep

theorem Run.add_weight_le (h : Run streams n f) : n + f.weight ≤ (Forwarding.start streams).weight := by
  induction h with
  | start => exact Nat.le_of_eq (Nat.zero_add _)
  | step hrun hstep ih =>
    have hlt := hstep.weight_lt hrun.sound
    omega

theorem exists_step_iff : (∃ g, f.Step g) ↔ ¬f.Done := by
  constructor
  · rintro ⟨g, ⟨htap⟩⟩ hdone
    cases htap.left.symm.trans (hdone _)
  · intro hnot
    obtain ⟨s, hs⟩ := not_forall.1 hnot
    obtain ⟨text?, t, htap⟩ := Tap.exists_step (Bool.eq_false_iff.2 hs)
    exact ⟨_, .on htap⟩

/-- Every run goes on to its end. -/
theorem Run.exists_done (h : Run streams n f) : ∃ m g, Run streams m g ∧ g.Done := by
  induction hk : f.weight using Nat.strong_induction_on generalizing n f with
  | _ k ih =>
    by_cases hdone : f.Done
    · exact ⟨n, f, h, hdone⟩
    · obtain ⟨g, hstep⟩ := exists_step_iff.2 hdone
      exact ih g.weight (hk ▸ hstep.weight_lt h.sound) (h.step hstep) rfl

theorem Run.linesFrom_of_done (h : Run streams n f) (hdone : f.Done) (s : Stream) :
    f.linesFrom s = passedOn (streams s) := by
  have htexts := (h.sound s).texts
  rwa [hdone s, if_pos rfl, List.append_nil] at htexts

/-- Lines are passed on in the order of their streams, if it is told. -/
theorem forward_linesFrom (tap : Stream → Tap) (passed : List (Stream × String)) :
    forward (passed.map (·.1)) (linesFrom ⟨tap, passed⟩ .output) (linesFrom ⟨tap, passed⟩ .errors) = passed := by
  induction passed with
  | nil => rfl
  | cons p passed ih =>
    obtain ⟨s, text⟩ := p
    cases s with
    | output => simpa [linesFrom, forward] using ih
    | errors => simpa [linesFrom, forward] using ih

/-! ## Streams that have come -/

/-- A stream has come to its end, and is still read. -/
structure Arrived (t : Tap) : Prop where
  coming : t.coming = []
  ended : t.ended = true
  left : t.left = false

theorem Arrived.next_of_cons {t : Tap} (h : Arrived t) {text : String} {texts : List String}
    (hheld : passedOn t.held = text :: texts) : ∃ rest, t.next = .line text rest ∧ passedOn rest = texts := by
  cases hnext : t.next with
  | waits => cases h.ended.symm.trans (Tap.ended_of_waits hnext)
  | line other rest =>
    have hline := (Tap.passedOn_of_line (fun _ => h.coming) hnext).1
    simp only [h.coming, List.append_nil, hheld, List.cons.injEq] at hline
    obtain ⟨rfl, rfl⟩ := hline
    exact ⟨rest, rfl, rfl⟩
  | stops =>
    have hstops := Tap.passedOn_of_stops (fun _ => h.coming) hnext
    rw [h.coming, List.append_nil, hheld] at hstops
    cases hstops

theorem Arrived.next_of_nil {t : Tap} (h : Arrived t) (hheld : passedOn t.held = []) : t.next = .stops := by
  cases hnext : t.next with
  | waits => cases h.ended.symm.trans (Tap.ended_of_waits hnext)
  | line text rest =>
    have hline := (Tap.passedOn_of_line (fun _ => h.coming) hnext).1
    rw [h.coming, List.append_nil, hheld] at hline
    cases hline
  | stops => rfl

/-- What happens on one stream leaves the other as it is. -/
theorem Run.exists_on (hrun : Run streams n f) {s : Stream} {text? : Option String} {t : Tap}
    (htap : (f.tap s).Step text? t) : ∃ m g, Run streams m g ∧ g.tap s = t ∧
      (∀ other, other ≠ s → g.tap other = f.tap other) ∧
      g.passed = f.passed ++ (text?.map fun text => (s, text)).toList :=
  ⟨_, _, hrun.step (.on htap), if_pos rfl, fun _ hs => if_neg hs, rfl⟩

/-- A stream comes at once. -/
theorem Run.exists_arrived (hrun : Run streams n f) {s : Stream} (hleft : (f.tap s).left = false)
    (hended : (f.tap s).ended = false) : ∃ m g, Run streams m g ∧
      (Arrived (g.tap s) ∧ (g.tap s).held = (f.tap s).held ++ (f.tap s).coming) ∧
      (∀ other, other ≠ s → g.tap other = f.tap other) ∧ g.passed = f.passed := by
  by_cases hcoming : (f.tap s).coming = []
  · obtain ⟨m, g, hg, htap, hother, hpassed⟩ := hrun.exists_on (.ends hleft hcoming hended)
    refine ⟨m, g, hg, ?_, hother, by simpa using hpassed⟩
    rw [htap, hcoming, List.append_nil]
    exact ⟨⟨rfl, rfl, hleft⟩, rfl⟩
  · obtain ⟨m, g, hg, htap, hother, hpassed⟩ :=
      hrun.exists_on (.comes hleft hcoming (List.append_nil _).symm)
    have hend : (g.tap s).Step none { g.tap s with ended := true } := by
      rw [htap]
      exact .ends hleft rfl hended
    obtain ⟨k, w, hw, htap', hother', hpassed'⟩ := hg.exists_on hend
    refine ⟨k, w, hw, ?_, fun other hs => (hother' other hs).trans (hother other hs), ?_⟩
    · rw [htap', htap]
      exact ⟨⟨rfl, rfl, hleft⟩, rfl⟩
    · rw [hpassed', hpassed]
      simp

theorem Run.exists_pass (hrun : Run streams n f) (h : ∀ s, Arrived (f.tap s)) {s : Stream} {text : String}
    {texts : List String} (hheld : passedOn (f.tap s).held = text :: texts) : ∃ m g, Run streams m g ∧
      (∀ other, Arrived (g.tap other)) ∧ passedOn (g.tap s).held = texts ∧
      (∀ other, other ≠ s → g.tap other = f.tap other) ∧ g.passed = f.passed ++ [(s, text)] := by
  obtain ⟨rest, hnext, hrest⟩ := (h s).next_of_cons hheld
  obtain ⟨m, g, hg, htap, hother, hpassed⟩ := hrun.exists_on (.passes (h s).left hnext)
  refine ⟨m, g, hg, ?_, by rw [htap, hrest], hother, hpassed⟩
  intro other
  by_cases hs : other = s
  · rw [hs, htap]
    exact ⟨(h s).coming, (h s).ended, (h s).left⟩
  · rw [hother other hs]
    exact h other

/-- Streams that have come are left when none of their lines is to be passed on. -/
theorem Run.exists_left (hrun : Run streams n f) (h : ∀ s, Arrived (f.tap s))
    (hheld : ∀ s, passedOn (f.tap s).held = []) : ∃ m g, Run streams m g ∧ g.Done ∧ g.passed = f.passed := by
  have hstops (s : Stream) : (f.tap s).Step none { f.tap s with left := true } :=
    .stops (h s).left ((h s).next_of_nil (hheld s))
  obtain ⟨m, g, hg, houtput, hother, hpassed⟩ := hrun.exists_on (hstops .output)
  obtain ⟨k, w, hw, herrors, hother', hpassed'⟩ := hg.exists_on (hother .errors nofun ▸ hstops .errors)
  refine ⟨k, w, hw, ?_, by rw [hpassed', hpassed]; simp⟩
  intro s
  cases s with
  | output => rw [hother' .output nofun, houtput]
  | errors => rw [herrors]

/-- The lines of streams that have come are passed on in any order. -/
theorem Run.exists_forward (hrun : Run streams n f) (h : ∀ s, Arrived (f.tap s)) (order : List Stream) :
    ∃ m g, Run streams m g ∧ g.Done ∧ g.passed = f.passed ++
      forward order (passedOn (f.tap .output).held) (passedOn (f.tap .errors).held) := by
  generalize houtput : passedOn (f.tap .output).held = output
  generalize herrors : passedOn (f.tap .errors).held = errors
  -- Each line of the order is one step of the run; what has no place in the order follows stream by stream.
  induction order, output, errors using forward.induct generalizing n f with
  | case1 order line output errors ih =>
    obtain ⟨m, g, hg, harrived, hheld, hother, hpassed⟩ := hrun.exists_pass h houtput
    obtain ⟨k, w, hw, hdone, hfollow⟩ := ih hg harrived hheld (by rw [hother .errors nofun, herrors])
    exact ⟨k, w, hw, hdone, by rw [hfollow, hpassed, forward]; simp⟩
  | case2 order output line errors ih =>
    obtain ⟨m, g, hg, harrived, hheld, hother, hpassed⟩ := hrun.exists_pass h herrors
    obtain ⟨k, w, hw, hdone, hfollow⟩ := ih hg harrived (by rw [hother .output nofun, houtput]) hheld
    exact ⟨k, w, hw, hdone, by rw [hfollow, hpassed, forward]; simp⟩
  | case3 order errors ih => exact ih hrun h houtput herrors
  | case4 order output ih => exact ih hrun h houtput herrors
  | case5 output errors =>
    induction output generalizing n f with
    | cons line output ih =>
      obtain ⟨m, g, hg, harrived, hheld, hother, hpassed⟩ := hrun.exists_pass h houtput
      obtain ⟨k, w, hw, hdone, hfollow⟩ := ih hg harrived hheld (by rw [hother .errors nofun, herrors])
      exact ⟨k, w, hw, hdone, by rw [hfollow, hpassed]; simp [forward]⟩
    | nil =>
      induction errors generalizing n f with
      | cons line errors ih =>
        obtain ⟨m, g, hg, harrived, hheld, hother, hpassed⟩ := hrun.exists_pass h herrors
        obtain ⟨k, w, hw, hdone, hfollow⟩ := ih hg harrived (by rw [hother .output nofun, houtput]) hheld
        exact ⟨k, w, hw, hdone, by rw [hfollow, hpassed]; simp [forward]⟩
      | nil =>
        obtain ⟨k, w, hw, hdone, hpassed⟩ := hrun.exists_left h fun s => by cases s <;> assumption
        exact ⟨k, w, hw, hdone, by rw [hpassed]; simp [forward]⟩

/-- Each order in which lines may be passed on comes about. -/
theorem exists_run_forward (streams : Stream → List UInt8) (order : List Stream) : ∃ n f, Run streams n f ∧ f.Done ∧
    f.passed = forward order (passedOn (streams .output)) (passedOn (streams .errors)) := by
  have hstart : Run streams 0 (Forwarding.start streams) := .start
  obtain ⟨m, g, hg, ⟨houtput, hheldOutput⟩, hother, hpassed⟩ := hstart.exists_arrived (s := .output) rfl rfl
  have herrors : g.tap .errors = { coming := streams .errors } := hother .errors nofun
  obtain ⟨k, w, hw, ⟨herrors', hheldErrors⟩, hother', hpassed'⟩ :=
    hg.exists_arrived (s := .errors) (by rw [herrors]) (by rw [herrors])
  have houtput' : w.tap .output = g.tap .output := hother' .output nofun
  obtain ⟨l, v, hv, hdone, hforward⟩ := hw.exists_forward (fun s => by
    cases s with
    | output => rwa [houtput']
    | errors => exact herrors') order
  refine ⟨l, v, hv, hdone, ?_⟩
  rw [hforward, hpassed', hpassed, houtput', hheldOutput, hheldErrors, herrors]
  rfl

end Forwarding

open Forwarding (Run)

/-- Passing on the streams of an engine, in whatever order they come. It ends: no run takes more steps than bytes and
ends of streams allow, and there is a next step until both streams are left. By then the lines that were passed on
of each stream are those before the first that is no text, each once and in their order, so that all of them were
passed on just if all of them are texts. They are the lines that a build writes to the log, and each order of them
in which the log may have them comes about. -/
theorem passes_on_lines_until_no_text (streams : Stream → List UInt8) :
    (∀ n f, Run streams n f → n ≤ 2 * ((streams .output).length + (streams .errors).length) + 4 ∧
      ((∃ g, f.Step g) ↔ ¬f.Done)) ∧
    (∀ n f, Run streams n f → f.Done →
      (∀ s, (f.linesFrom s).map Utf8.encode =
        (linesOf (streams s)).takeWhile fun line => (Utf8.decode? line).isSome) ∧
      (∀ s, (f.linesFrom s).map Utf8.encode = linesOf (streams s) ↔
        ∀ line ∈ linesOf (streams s), (Utf8.decode? line).isSome) ∧
      ∀ (c : Command) (i : Invocation) (ending : Ending),
        c.log i (f.passed.map (·.1)) (some ⟨streams .output, streams .errors, ending⟩) =
          (.debug, "Executing: " ++ c.describe i) :: f.passed.map fun (_, line) => (.info, line)) ∧
    ∀ order, ∃ n f, Run streams n f ∧ f.Done ∧
      f.passed = forward order (passedOn (streams .output)) (passedOn (streams .errors)) := by
  refine ⟨?_, ?_, Forwarding.exists_run_forward streams⟩
  · intro n f hrun
    refine ⟨?_, Forwarding.exists_step_iff⟩
    have hle := hrun.add_weight_le
    simp [Forwarding.weight, Tap.weight, Forwarding.start] at hle
    omega
  · intro n f hrun hdone
    have hlines (s : Stream) : (f.linesFrom s).map Utf8.encode =
        (linesOf (streams s)).takeWhile fun line => (Utf8.decode? line).isSome := by
      rw [hrun.linesFrom_of_done hdone s, passedOn, encode_textsOf]
    refine ⟨hlines, ?_, ?_⟩
    · intro s
      rw [hlines s]
      exact List.takeWhile_eq_self_iff
    · intro c i ending
      have hforward := Forwarding.forward_linesFrom f.tap f.passed
      rw [hrun.linesFrom_of_done hdone .output, hrun.linesFrom_of_done hdone .errors] at hforward
      rw [Command.log, hforward]

/-- A line that lacks its end and one that ends in a carriage return are passed on like others. -/
theorem passes_on_lines_until_no_text_of_two_streams :
    let streams : Stream → List UInt8
      | .output => Utf8.encode "one\r\n\ntwo"
      | .errors => Utf8.encode "err\n"
    ∃ n f, Run streams n f ∧ f.Done ∧ n ≤ 30 ∧
      (f.linesFrom .output).map Utf8.encode = [Utf8.encode "one", [], Utf8.encode "two"] ∧
      (f.linesFrom .errors).map Utf8.encode = [Utf8.encode "err"] := by
  intro streams
  have hstart : Run streams 0 (Forwarding.start streams) := .start
  obtain ⟨n, f, hrun, hdone⟩ := hstart.exists_done
  obtain ⟨hends, hpasses, -⟩ := passes_on_lines_until_no_text streams
  obtain ⟨-, hall, -⟩ := hpasses n f hrun hdone
  refine ⟨n, f, hrun, hdone, (hends n f hrun).1.trans (by decide), ?_, ?_⟩
  · exact ((hall .output).2 (by decide +kernel)).trans (by decide)
  · exact ((hall .errors).2 (by decide +kernel)).trans (by decide)

/-- A line that is no text takes the lines behind it away. -/
theorem line_behind_no_text_is_lost :
    let streams : Stream → List UInt8
      | .output => [97, 10, 255, 10, 98, 10]
      | .errors => []
    linesOf (streams .output) = [[97], [255], [98]] ∧ (∃ n f, Run streams n f ∧ f.Done) ∧
      ∀ n f, Run streams n f → f.Done → f.linesFrom .output = ["a"] := by
  intro streams
  refine ⟨by decide, Run.start.exists_done, ?_⟩
  intro n f hrun hdone
  rw [hrun.linesFrom_of_done hdone]
  decide +kernel

end BuildCredentials.Build
