import BuildCredentials.Proofs.Text.Cutting
import BuildCredentials.Url.Address

/-!
# Paths that were read

What reading makes of a path is the text of settled segments: in none of them is anything left to encode or to
split, and none is one of dots (`exists_segments_of_read`). Such a text is read as it stands (`read_text`), so
that reading a path once more changes nothing (`read_read`), and an address that takes the path of another one of
its kind has that path (`withPath_read`). Files are left out, whose drive letters have rules of their own.
-/

set_option autoImplicit false

namespace BuildCredentials.Url

/-! ## What is encoded -/

namespace Percent

theorem encode_eq_self {set : Char → Bool} {text : List Char} (h : ∀ c ∈ text, set c = false) :
    encode set text = text := by
  induction text with
  | nil => rfl
  | cons c rest ih =>
    obtain ⟨hc, hrest⟩ := List.forall_mem_cons.1 h
    have hsplit : encode set (c :: rest) = [c] ++ encode set rest := by simp [encode, hc]
    rw [hsplit, ih hrest, List.singleton_append]

/-- Encoding keeps characters, or puts percent signs and digits in their place. -/
theorem mem_encode {set : Char → Bool} {text : List Char} {c : Char} (h : c ∈ encode set text) :
    (c ∈ text ∧ set c = false) ∨ c = '%' ∨ ∃ n < 16, c = digit n := by
  obtain ⟨d, hd, hc⟩ := List.mem_flatMap.1 h
  split at hc
  · obtain ⟨b, -, hb⟩ := List.mem_flatMap.1 hc
    have hlt : b.toNat < 256 := b.toNat_lt
    simp only [encodeByte, List.mem_cons, List.not_mem_nil, or_false] at hb
    obtain hb | hb | hb := hb
    · exact .inr (.inl hb)
    · exact .inr (.inr ⟨_, by omega, hb⟩)
    · exact .inr (.inr ⟨_, by omega, hb⟩)
  · rename_i hset
    obtain rfl := List.mem_singleton.1 hc
    exact .inl ⟨hd, by simpa using hset⟩

end Percent

theorem eq_of_isPassedOver {c : Char} (h : isPassedOver c = true) : c = '\t' ∨ c = '\n' ∨ c = '\r' := by
  simpa [isPassedOver, or_assoc] using h

theorem isPassedOver_of_inPath {c : Char} (h : Percent.inPath c = false) : isPassedOver c = false := by
  refine Bool.eq_false_iff.2 fun hover => ?_
  obtain rfl | rfl | rfl := eq_of_isPassedOver hover
  all_goals cases h

namespace Path

/-! ## Settled segments -/

/-- A segment that reading a path leaves as it is. -/
structure Settled (kind : SchemeKind) (segment : List Char) : Prop where
  encoded : ∀ c ∈ segment, Percent.inPath c = false
  whole : ∀ c ∈ segment, isSlash kind c = false
  notSingleDot : isSingleDot segment = false
  notDoubleDot : isDoubleDot segment = false

section

variable {kind : SchemeKind}

theorem Settled.nil (kind : SchemeKind) : Settled kind [] := ⟨by simp, by simp, rfl, rfl⟩

theorem inPath_of_mem_encode {text : List Char} {c : Char} (h : c ∈ Percent.encode Percent.inPath text) :
    Percent.inPath c = false := by
  have digits : ∀ n < 16, Percent.inPath (Percent.digit n) = false := by decide
  obtain ⟨-, hc⟩ | rfl | ⟨n, hn, rfl⟩ := Percent.mem_encode h
  · exact hc
  · rfl
  · exact digits n hn

/-- Encoding a segment brings no slash into it. -/
theorem isSlash_of_mem_encode {text : List Char} (whole : ∀ c ∈ text, isSlash kind c = false) {c : Char}
    (h : c ∈ Percent.encode Percent.inPath text) : isSlash kind c = false := by
  have digits : ∀ n < 16, Percent.digit n ≠ '/' ∧ Percent.digit n ≠ '\\' := by decide
  obtain ⟨hc, -⟩ | rfl | ⟨n, hn, rfl⟩ := Percent.mem_encode h
  · exact whole c hc
  · simp [isSlash]
  · simp [isSlash, digits n hn]

/-! ## Walking -/

theorem mem_up {w : Walk} {s : List Char} (h : s ∈ w.up.segments) : s ∈ w.segments := by
  unfold Walk.up at h
  split at h
  · exact h
  · rename_i last rest hw
    split at h
    · exact h
    · exact hw ▸ .tail _ h

/-- A step keeps the segments settled if there is nothing to encode or to split in the next one. -/
theorem settled_step {w : Walk} {segment : List Char} {last : Bool} (notFile : kind ≠ .file)
    (settled : ∀ s ∈ w.segments, Settled kind s) (encoded : ∀ c ∈ segment, Percent.inPath c = false)
    (whole : ∀ c ∈ segment, isSlash kind c = false) :
    ∀ s ∈ (w.step kind segment last).segments, Settled kind s := by
  have closed {v : Walk} (hv : ∀ s ∈ v.segments, Settled kind s) :
      ∀ s ∈ (if last then v.push [] else v).segments, Settled kind s := by
    split
    · exact List.forall_mem_cons.2 ⟨.nil kind, hv⟩
    · exact hv
  unfold Walk.step
  split
  · exact closed fun s hs => settled s (mem_up hs)
  · rename_i hdouble
    split
    · exact closed settled
    · rename_i hsingle
      rw [if_neg (fun h => notFile h.1)]
      exact List.forall_mem_cons.2 ⟨⟨encoded, whole, by simpa using hsingle, by simpa using hdouble⟩, settled⟩

theorem settled_steps {w : Walk} {segments : List (List Char)} (notFile : kind ≠ .file)
    (settled : ∀ s ∈ w.segments, Settled kind s) (encoded : ∀ s ∈ segments, ∀ c ∈ s, Percent.inPath c = false)
    (whole : ∀ s ∈ segments, ∀ c ∈ s, isSlash kind c = false) :
    ∀ s ∈ (w.steps kind segments).segments, Settled kind s := by
  fun_induction Walk.steps kind w segments with
  | case1 => exact settled
  | case2 w s => exact settled_step notFile settled (encoded s (.head _)) (whole s (.head _))
  | case3 w s t rest ih =>
    refine ih (settled_step notFile settled (encoded s (.head _)) (whole s (.head _))) ?_ ?_
    · exact (List.forall_mem_cons.1 encoded).2
    · exact (List.forall_mem_cons.1 whole).2

/-- The last segment leaves a segment behind, if an empty one. -/
theorem segments_step_last_ne_nil (w : Walk) (notFile : kind ≠ .file) (segment : List Char) :
    (w.step kind segment true).segments ≠ [] := by
  unfold Walk.step
  split
  · simp [Walk.push]
  · split
    · simp [Walk.push]
    · simp [Walk.push, notFile]

theorem segments_steps_ne_nil {w : Walk} {segments : List (List Char)} (notFile : kind ≠ .file)
    (nonempty : segments ≠ []) : (w.steps kind segments).segments ≠ [] := by
  fun_induction Walk.steps kind w segments with
  | case1 => exact absurd rfl nonempty
  | case2 w s => exact segments_step_last_ne_nil w notFile s
  | case3 w s t rest ih => exact ih (by simp)

theorem step_of_settled {w : Walk} {segment : List Char} {last : Bool} (notFile : kind ≠ .file)
    (settled : Settled kind segment) : w.step kind segment last = w.push segment := by
  simp [Walk.step, settled.notDoubleDot, settled.notSingleDot, notFile]

/-- Settled segments are all taken as they are. -/
theorem segments_steps_of_settled {w : Walk} {segments : List (List Char)} (notFile : kind ≠ .file)
    (settled : ∀ s ∈ segments, Settled kind s) :
    (w.steps kind segments).segments = segments.reverse ++ w.segments := by
  fun_induction Walk.steps kind w segments with
  | case1 => rfl
  | case2 w s => rw [step_of_settled notFile (settled s (.head _))]; rfl
  | case3 w s t rest ih =>
    rw [ih (List.forall_mem_cons.1 settled).2, step_of_settled notFile (settled s (.head _)),
      List.reverse_cons (a := s), List.append_assoc]
    rfl

/-! ## Texts of segments -/

/-- The text of segments without slashes is split into these. -/
theorem splitOnP_text {segments : List (List Char)} (nonempty : segments ≠ [])
    (whole : ∀ s ∈ segments, ∀ c ∈ s, isSlash kind c = false) :
    (dropSlash kind (text segments)).splitOnP (isSlash kind) = segments := by
  have slash : isSlash kind '/' = true := by simp [isSlash]
  cases segments with
  | nil => exact absurd rfl nonempty
  | cons first rest =>
    have hdrop : dropSlash kind (text (first :: rest)) = first ++ text rest := by simp [text, dropSlash, slash]
    rw [hdrop]
    clear nonempty hdrop
    induction rest generalizing first with
    | nil => rw [text, List.flatMap_nil, List.append_nil, List.splitOnP_eq_singleton (whole first (.head _))]
    | cons second others ih =>
      obtain ⟨hfirst, hothers⟩ := List.forall_mem_cons.1 whole
      have htext : text (second :: others) = '/' :: (second ++ text others) := rfl
      rw [htext, List.splitOnP_append_cons_of_forall_mem hfirst _ slash, ih second hothers]

/-- A text of settled segments is read as it stands. -/
theorem read_text {segments : List (List Char)} (notFile : kind ≠ .file) (nonempty : segments ≠ [])
    (settled : ∀ s ∈ segments, Settled kind s) : (read kind (text segments)).1 = text segments := by
  have htext : text segments ≠ [] := by
    obtain ⟨first, rest, rfl⟩ := List.exists_cons_of_ne_nil nonempty
    simp [text]
  have hencoded : segments.map (Percent.encode Percent.inPath) = segments :=
    (List.map_congr_left fun s hs => Percent.encode_eq_self (settled s hs).encoded).trans (List.map_id _)
  have hwalk : (walk kind (dropSlash kind (text segments))).segments = segments.reverse := by
    rw [walk, splitOnP_text nonempty fun s hs => (settled s hs).whole, hencoded,
      segments_steps_of_settled notFile settled, List.append_nil]
  rw [read, if_pos (by simp [htext])]
  simp only [hwalk, List.reverse_reverse, trimFront, notFile, if_false]

/-- What is read of a path is the text of settled segments. -/
theorem exists_segments_of_read (notFile : kind ≠ .file) (cs : List Char) :
    ∃ segments, (read kind cs).1 = text segments ∧ (∀ s ∈ segments, Settled kind s) ∧
      (segments = [] → kind.isSpecial = false ∧ cs = []) := by
  by_cases hread : kind.isSpecial || cs ≠ []
  · refine ⟨(walk kind (dropSlash kind cs)).segments.reverse, ?_, fun s hs => ?_, fun hnil => ?_⟩
    · simp only [read, hread, if_true, trimFront, notFile, if_false]
    · refine settled_steps (w := {}) notFile (by simp) ?_ ?_ s (List.mem_reverse.1 hs)
      · rintro _ he c hc
        obtain ⟨part, -, rfl⟩ := List.mem_map.1 he
        exact inPath_of_mem_encode hc
      · rintro _ he c hc
        obtain ⟨part, hpart, rfl⟩ := List.mem_map.1 he
        exact isSlash_of_mem_encode (Text.of_mem_splitOnP hpart) hc
    · refine absurd (List.reverse_eq_nil_iff.1 hnil) (segments_steps_ne_nil notFile ?_)
      simp
  · refine ⟨[], ?_, by simp, fun _ => by simpa using hread⟩
    rw [read, if_neg hread]
    rfl

/-- Reading a path once more changes nothing. -/
theorem read_read (notFile : kind ≠ .file) (cs : List Char) : (read kind (read kind cs).1).1 = (read kind cs).1 := by
  obtain ⟨segments, hread, settled, hnil⟩ := exists_segments_of_read notFile cs
  by_cases hempty : segments = []
  · obtain ⟨hkind, rfl⟩ := hnil hempty
    simp [read, hkind]
  · rw [hread, read_text notFile hempty settled]

/-- Nothing in a path that was read is passed over. -/
theorem filter_read (notFile : kind ≠ .file) (cs : List Char) :
    (read kind cs).1.filter (!isPassedOver ·) = (read kind cs).1 := by
  obtain ⟨segments, hread, settled, -⟩ := exists_segments_of_read notFile cs
  rw [hread, List.filter_eq_self]
  intro c hc
  obtain ⟨s, hs, hc⟩ := List.mem_flatMap.1 hc
  rcases List.mem_cons.1 hc with rfl | hc
  · rfl
  · rw [isPassedOver_of_inPath ((settled s hs).encoded c hc)]
    rfl

end

end Path

/-! ## Taking a path -/

/-- Behind a host a path that was read under the same rules is taken as it is. -/
theorem withPath_read {u : Url} (notOpaque : u.hasOpaquePath = false) (notFile : u.kind ≠ .file) (cs : List Char) :
    u.withPath (String.ofList (Path.read u.kind cs).1) =
      { u with path := String.ofList (Path.read u.kind cs).1 } := by
  simp only [withPath, notOpaque, Bool.false_eq_true, if_false, String.toList_ofList, Path.filter_read notFile,
    Path.read_read notFile]

end BuildCredentials.Url
