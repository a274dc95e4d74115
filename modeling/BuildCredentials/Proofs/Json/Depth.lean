import BuildCredentials.Proofs.Json.Reading

/-!
# How deep a value is read

A reader with a limit reads no value in which as many arrays and objects as the limit stand in one another, and what it
reads every reader with a wider limit reads as well (`Agrees`). So a plain value is read as it was written up to the
limit, and deeper ones are refused (`Plain.parse_render_iff`).
-/

set_option autoImplicit false

namespace BuildCredentials.Json

/-- How deep what a hole holds so far is. -/
def Hole.depth : Hole → Nat
  | .array items => itemsDepth items
  | .object members _ => membersDepth members

/-- Each of the holes that stand in one another can still be closed with a value that is not too deep. -/
def Fits (limit : Nat) : List Hole → Prop
  | [] => 0 < limit
  | hole :: outer => outer.length + 1 + hole.depth < limit ∧ Fits limit outer

/-- What is read within a limit is not as deep as the limit, and is read within a wider limit just so. -/
def Agrees (limit : Nat) (narrow wide : Reading Json) : Prop :=
  ∀ v after, narrow = .ok (v, after) → v.depth < limit ∧ wide = .ok (v, after)

section
variable {limit : Nat} {holes : List Hole}

theorem Fits.length_lt (h : Fits limit holes) : holes.length < limit := by
  cases holes with
  | nil => exact h
  | cons hole outer => exact Nat.lt_of_le_of_lt (Nat.le_add_right _ _) h.1

theorem agrees_error {f : Failure} {wide : Reading Json} : Agrees limit (.error f) wide := nofun

theorem itemsDepth_reverse_le {items : List Json} {n : Nat} (h : itemsDepth items ≤ n) :
    itemsDepth items.reverse ≤ n :=
  itemsDepth_le_iff.2 fun v hv => itemsDepth_le_iff.1 h v (List.mem_reverse.1 hv)

theorem membersDepth_reverse_le {members : List (String × Json)} {n : Nat} (h : membersDepth members ≤ n) :
    membersDepth members.reverse ≤ n :=
  membersDepth_le_iff.2 fun m hm => membersDepth_le_iff.1 h m (List.mem_reverse.1 hm)

theorem depth_of_readScalar {b : UInt8} {rest after : List UInt8} {v : Json} (h : readScalar b rest = .ok (v, after)) :
    v.depth = 0 := by
  have hconstant {w : Json} {word : List UInt8} (hw : w.depth = 0)
      (h : Reading.constant w (readWord word rest) = .ok (v, after)) : v.depth = 0 := by
    cases hr : readWord word rest with
    | error f => simp [Reading.constant, hr, Except.map] at h
    | ok t =>
      simp only [Reading.constant, hr, Except.map, Except.ok.injEq, Prod.mk.injEq] at h
      rw [← h.1, hw]
  have hnumber {neg : Bool} {t : List UInt8}
      (h : (readNumber neg t).map (fun p => (ofNumber p.1, p.2)) = .ok (v, after)) : v.depth = 0 := by
    cases hr : readNumber neg t with
    | error f => simp [hr, Except.map] at h
    | ok p =>
      simp only [hr, Except.map, Except.ok.injEq, Prod.mk.injEq] at h
      rw [← h.1]
      cases p.1 <;> rfl
  unfold readScalar at h
  split at h
  · exact hconstant rfl h
  · split at h
    · exact hconstant rfl h
    · split at h
      · exact hconstant rfl h
      · split at h
        · exact hnumber h
        · split at h
          · exact hnumber h
          · split at h
            · cases hr : readString rest with
              | error f => simp [hr, Except.map] at h
              | ok p =>
                simp only [hr, Except.map, Except.ok.injEq, Prod.mk.injEq] at h
                rw [← h.1]
                rfl
            · simp [failNext] at h

theorem length_of_skipBlanks {bytes rest : List UInt8} {b : UInt8} (h : skipBlanks bytes = b :: rest) :
    rest.length < bytes.length := by
  have hle := length_skipBlanks bytes
  rwa [h] at hle

mutual

-- The recursion is that of the reader: each part is a step of it, on bytes that get fewer.
theorem agrees_readValue {limit wide : Nat} {holes : List Hole} (hw : limit ≤ wide) (hf : Fits limit holes)
    (bytes : List UInt8) : Agrees limit (readValue limit holes bytes) (readValue wide holes bytes) := by
  rw [readValue_eq, readValue_eq]
  cases hb : skipBlanks bytes with
  | nil => exact agrees_error
  | cons b rest =>
    have hshorter := length_of_skipBlanks hb
    dsimp only
    cases Frame.opened? b with
    | some frame =>
      dsimp only
      by_cases hl : limit ≤ holes.length + 1
      · rw [if_pos hl]
        exact agrees_error
      · rw [if_neg hl, if_neg (show ¬wide ≤ holes.length + 1 by omega)]
        exact agrees_readFirst hw hf (Nat.not_le.1 hl) frame rest
    | none =>
      cases hs : readScalar b rest with
      | error f => exact agrees_error
      | ok p =>
        obtain ⟨v, after⟩ := p
        have hafter := length_of_readScalar hs
        have hv : holes.length + v.depth < limit := by
          rw [depth_of_readScalar hs]
          exact hf.length_lt
        exact agrees_fill hw hf hv after
termination_by (bytes.length, 0)
decreasing_by
  all_goals exact Prod.Lex.left _ _ (by omega)

theorem agrees_readFirst {limit wide : Nat} {holes : List Hole} (hw : limit ≤ wide) (hf : Fits limit holes)
    (hl : holes.length + 1 < limit) (frame : Frame) (bytes : List UInt8) :
    Agrees limit (readFirst limit frame holes bytes) (readFirst wide frame holes bytes) := by
  rw [readFirst_eq, readFirst_eq]
  cases hb : skipBlanks bytes with
  | nil => exact agrees_error
  | cons b rest =>
    have hshorter := length_of_skipBlanks hb
    cases frame with
    | array =>
      dsimp only
      split
      · have hempty : holes.length + (Json.array []).depth < limit := hl
        exact agrees_fill hw hf hempty rest
      · have hopen : Fits limit (.array [] :: holes) := ⟨hl, hf⟩
        exact agrees_readValue hw hopen (b :: rest)
    | object =>
      dsimp only
      split
      · have hempty : holes.length + (Json.object []).depth < limit := hl
        exact agrees_fill hw hf hempty rest
      · have hopen : holes.length + 1 + membersDepth [] < limit := hl
        exact agrees_readMember hw hf hopen (b :: rest)
termination_by (bytes.length, 2)
decreasing_by
  all_goals simp only [Prod.lex_def, List.length_cons]; omega

theorem agrees_readMember {limit wide : Nat} {holes : List Hole} {members : List (String × Json)}
    (hw : limit ≤ wide) (hf : Fits limit holes) (hl : holes.length + 1 + membersDepth members < limit)
    (bytes : List UInt8) :
    Agrees limit (readMember limit members holes bytes) (readMember wide members holes bytes) := by
  rw [readMember_eq, readMember_eq]
  cases hn : readName bytes with
  | error f => exact agrees_error
  | ok p =>
    obtain ⟨name, after⟩ := p
    have hafter := length_of_readName hn
    have hopen : Fits limit (.object members name :: holes) := ⟨hl, hf⟩
    exact agrees_readValue hw hopen after
termination_by (bytes.length, 1)
decreasing_by
  simp only [Prod.lex_def]; omega

theorem agrees_fill {limit wide : Nat} {holes : List Hole} {v : Json} (hw : limit ≤ wide) (hf : Fits limit holes)
    (hv : holes.length + v.depth < limit) (bytes : List UInt8) :
    Agrees limit (fill limit v holes bytes) (fill wide v holes bytes) := by
  match holes with
  | [] =>
    intro w after h
    rw [fill] at h ⊢
    cases h
    exact ⟨by simpa using hv, rfl⟩
  | .array items :: outer =>
    obtain ⟨hl, hf⟩ := hf
    have hdepth : outer.length + 1 + itemsDepth (v :: items) < limit := by
      simp only [Hole.depth, List.length_cons, itemsDepth] at *
      omega
    rw [fill_array_eq, fill_array_eq]
    cases hb : skipBlanks bytes with
    | nil => exact agrees_error
    | cons b rest =>
      have hshorter := length_of_skipBlanks hb
      dsimp only
      split
      · have hclosed := itemsDepth_reverse_le (Nat.le_refl (itemsDepth (v :: items)))
        refine agrees_fill hw hf ?_ rest
        rw [depth]
        omega
      · split
        · cases hc : afterComma 93 rest with
          | error f => exact agrees_error
          | ok after =>
            have hafter := length_of_afterComma hc
            have hopen : Fits limit (.array (v :: items) :: outer) := ⟨hdepth, hf⟩
            exact agrees_readValue hw hopen after
        · exact agrees_error
  | .object members name :: outer =>
    obtain ⟨hl, hf⟩ := hf
    have hdepth : outer.length + 1 + membersDepth ((name, v) :: members) < limit := by
      simp only [Hole.depth, List.length_cons, membersDepth] at *
      omega
    rw [fill_object_eq, fill_object_eq]
    cases hb : skipBlanks bytes with
    | nil => exact agrees_error
    | cons b rest =>
      have hshorter := length_of_skipBlanks hb
      dsimp only
      split
      · have hclosed := membersDepth_reverse_le (Nat.le_refl (membersDepth ((name, v) :: members)))
        refine agrees_fill hw hf ?_ rest
        rw [depth]
        omega
      · split
        · cases hc : afterComma 125 rest with
          | error f => exact agrees_error
          | ok after =>
            have hafter := length_of_afterComma hc
            exact agrees_readMember hw hf hdepth after
        · exact agrees_error
termination_by (bytes.length, 3)
decreasing_by
  all_goals simp only [Prod.lex_def]; omega

end

end

theorem finish_eq_ok {α : Type} {r : Reading α} {v : α} :
    finish r = .ok v ↔ ∃ after, r = .ok (v, after) ∧ skipBlanks after = [] := by
  constructor
  · intro h
    rw [finish.eq_def] at h
    split at h
    · cases h
    · split at h
      · rename_i hend
        cases h
        exact ⟨_, rfl, hend⟩
      · cases h
  · rintro ⟨after, rfl, hend⟩
    simp only [finish, hend]

/-- A text that is read within a limit holds a value that is not as deep as the limit, and is read so within a wider
limit. -/
theorem parseWithin_mono {limit wide : Nat} {bytes : List UInt8} {v : Json} (hl : 0 < limit) (hw : limit ≤ wide)
    (h : parseWithin limit bytes = .ok v) : v.depth < limit ∧ parseWithin wide bytes = .ok v := by
  obtain ⟨after, hread, hend⟩ := finish_eq_ok.1 h
  have hfits : Fits limit [] := hl
  obtain ⟨hd, hwide⟩ := agrees_readValue hw hfits bytes v after hread
  exact ⟨hd, finish_eq_ok.2 ⟨after, hwide, hend⟩⟩

/-- A plain value that was written is read if it is not as deep as the limit, and then as it was. -/
theorem Plain.parse_render_iff {v w : Json} (h : Plain v) :
    parse (Utf8.encode v.render) = .ok w ↔ w = v ∧ v.depth < depthLimit := by
  constructor
  · intro hread
    have hle : depthLimit ≤ max depthLimit (v.depth + 1) := Nat.le_max_left _ _
    have hlt : v.depth < max depthLimit (v.depth + 1) := by omega
    obtain ⟨hd, hwide⟩ := parseWithin_mono (by decide) hle hread
    cases hwide.symm.trans (h.parseWithin_render hlt)
    exact ⟨rfl, hd⟩
  · rintro ⟨rfl, hd⟩
    exact h.parseWithin_render hd

end BuildCredentials.Json
