import BuildCredentials.Build.Scopes
import BuildCredentials.Proofs.Build.Lifetime
import BuildCredentials.Proofs.Store.History
import Mathlib.Data.List.Infix
import Mathlib.Tactic.Tauto

/-!
# Scopes over their histories

A scope's credentials are stored from its opening until it is closed or they are removed, and the log tells just
of the openings and of the closings that removed something (`matches_of_legal`). Each kind of step keeps that up:
`Matches.acquire`, `Matches.drop`, `Matches.operation`, `Matches.settle`.
-/

set_option autoImplicit false

namespace BuildCredentials.Build.Scopes

open Registry

section
variable {α : Type}

/-! ## Histories -/

/-- A scope was opened under an identifier. -/
def Acquired (h : List (Step α)) (id : BuildId) : Prop := ∃ auths, .acquire id auths ∈ h

/-- Someone has removed what is stored under an identifier, be it there or not. -/
def Removed (h : List (Step α)) (id : BuildId) : Prop := ∃ o, .operation o ∈ h ∧ o.mutates id

/-- A scope was closed before anyone else had removed its credentials. -/
def Releases (h : List (Step α)) (id : BuildId) : Prop := ∃ before, before ++ [.drop id] <+: h ∧ ¬Removed before id

/-- A scope with `auths` is open, and nobody has removed them. -/
structure Live (h : List (Step α)) (id : BuildId) (auths : Auths) : Prop where
  acquired : .acquire id auths ∈ h
  undropped : .drop id ∉ h
  kept : ¬Removed h id

/-- Every scope is opened under an identifier of its own and closed once at most, and operations look up or
remove what scopes have stored. -/
inductive Legal : List (Step α) → Prop where
  | start : Legal []
  | acquire {h : List (Step α)} {id : BuildId} (before : Legal h) (auths : Auths) (fresh : ¬Acquired h id) :
      Legal (h ++ [.acquire id auths])
  | drop {h : List (Step α)} {id : BuildId} (before : Legal h) (acquired : Acquired h id)
      (undropped : .drop id ∉ h) : Legal (h ++ [.drop id])
  | operation {h : List (Step α)} {o : Store.Operation α} (before : Legal h) (stores : o.stored? = none)
      (own : ∀ id, o.mutates id → Acquired h id) : Legal (h ++ [.operation o])
  | settle {h : List (Step α)} (before : Legal h) (position : Nat) : Legal (h ++ [.settle position])

section
variable {h : List (Step α)} {x : Step α} {id b : BuildId} {auths : Auths} {o : Store.Operation α}
  {event : Audit.Event} {line : Audit.Entry} {events events' : List Audit.Event}

theorem acquired_concat : Acquired (h ++ [x]) id ↔ Acquired h id ∨ ∃ auths, x = .acquire id auths := by
  simp [Acquired, exists_or, eq_comm (a := x)]

theorem removed_concat : Removed (h ++ [x]) id ↔ Removed h id ∨ ∃ o, x = .operation o ∧ o.mutates id := by
  simp [Removed, or_and_right, exists_or, eq_comm (a := x)]

theorem releases_concat : Releases (h ++ [x]) id ↔ Releases h id ∨ x = .drop id ∧ ¬Removed h id := by
  constructor
  · rintro ⟨before, hp, hr⟩
    rcases List.prefix_concat_iff.1 hp with he | hp
    · obtain ⟨rfl, hx⟩ := List.append_inj' he rfl
      exact .inr ⟨(List.singleton_inj.1 hx).symm, hr⟩
    · exact .inl ⟨before, hp, hr⟩
  · rintro (⟨before, hp, hr⟩ | ⟨rfl, hr⟩)
    · exact ⟨before, hp.trans (List.prefix_append _ _), hr⟩
    · exact ⟨h, List.prefix_rfl, hr⟩

theorem Releases.mem_drop (hr : Releases h id) : .drop id ∈ h := by
  obtain ⟨before, hp, -⟩ := hr
  exact hp.subset (List.mem_append_right _ (.head _))

theorem Acquired.concat (ha : Acquired h id) (x : Step α) : Acquired (h ++ [x]) id := acquired_concat.2 (.inl ha)

/-- Nothing but scopes that were opened is closed or removed. -/
theorem Legal.acquired (legal : Legal h) : (.drop id ∈ h → Acquired h id) ∧ (Removed h id → Acquired h id) := by
  -- Only closings and operations can add to what is closed or removed.
  induction legal with
  | start => exact ⟨nofun, fun ⟨_, ho, _⟩ => nomatch ho⟩
  | acquire _ auths _ ih =>
    refine ⟨fun hd => .concat (ih.1 (by simpa using hd)) _, fun hr => .concat (ih.2 ?_) _⟩
    simpa [removed_concat] using hr
  | @drop _ closed _ acquired _ ih =>
    refine ⟨fun hd => ?_, fun hr => .concat (ih.2 (by simpa [removed_concat] using hr)) _⟩
    rcases List.mem_append.1 hd with hd | hd
    · exact .concat (ih.1 hd) _
    · cases List.mem_singleton.1 hd
      exact .concat acquired _
  | operation _ _ own ih =>
    refine ⟨fun hd => .concat (ih.1 (by simpa using hd)) _, fun hr => ?_⟩
    rcases removed_concat.1 hr with hr | ⟨o, ho, hm⟩
    · exact .concat (ih.2 hr) _
    · cases ho
      exact .concat (own id hm) _
  | settle _ _ ih =>
    refine ⟨fun hd => .concat (ih.1 (by simpa using hd)) _, fun hr => .concat (ih.2 ?_) _⟩
    simpa [removed_concat] using hr

theorem Legal.of_prefix (legal : Legal h) : ∀ {earlier}, earlier <+: h → Legal earlier := by
  have step {h : List (Step α)} {x : Step α} (legal : Legal (h ++ [x]))
      (ih : ∀ {earlier}, earlier <+: h → Legal earlier) {earlier : List (Step α)} (hp : earlier <+: h ++ [x]) :
      Legal earlier := by
    rcases List.prefix_concat_iff.1 hp with rfl | hp
    · exact legal
    · exact ih hp
  induction legal with
  | start => exact fun hp => List.prefix_nil.1 hp ▸ .start
  | acquire before auths fresh ih => exact step (.acquire before auths fresh) ih
  | drop before acquired undropped ih => exact step (.drop before acquired undropped) ih
  | operation before stores own ih => exact step (.operation before stores own) ih
  | settle before position ih => exact step (.settle before position) ih

theorem Legal.open_of_drop (legal : Legal (h ++ [.drop id])) : Acquired h id ∧ .drop id ∉ h := by
  generalize he : h ++ [.drop id] = h' at legal
  cases legal with
  | start => simp at he
  | drop _ acquired undropped =>
    obtain ⟨rfl, hd⟩ := List.append_inj' he rfl
    cases hd
    exact ⟨acquired, undropped⟩
  | acquire | operation | settle => exact nomatch (List.append_inj' he rfl).2

/-- A scope is closed at one point only. -/
theorem Legal.drop_unique (legal : Legal h) {before before' : List (Step α)} (hp : before ++ [.drop id] <+: h)
    (hp' : before' ++ [.drop id] <+: h) : before = before' := by
  have shorter {p p' : List (Step α)} (hs : p ++ [.drop id] <+: p' ++ [.drop id])
      (hp' : p' ++ [.drop id] <+: h) : p = p' := by
    rcases List.prefix_concat_iff.1 hs with he | hs
    · exact List.append_cancel_right he
    · exact absurd (hs.subset (List.mem_append_right _ (.head _))) (legal.of_prefix hp').open_of_drop.2
  rcases List.prefix_or_prefix_of_prefix hp hp' with hs | hs
  · exact shorter hs hp'
  · exact (shorter hs hp).symm

theorem Legal.releases_iff (legal : Legal h) {before : List (Step α)} (hp : before ++ [.drop id] <+: h) :
    Releases h id ↔ ¬Removed before id := by
  constructor
  · rintro ⟨before', hp', kept⟩
    rwa [legal.drop_unique hp hp']
  · exact fun kept => ⟨before, hp, kept⟩

/-! ## What is stored -/

/-- Closing a scope removes what is stored under its identifier, be it there still or not. -/
theorem getElem?_closeScope (store : Store) (id b : BuildId) :
    (closeScope store id).1[b]? = if id = b then none else store[b]? := getElem?_leave { store } id b

theorem live_iff : Live h b auths ↔ .acquire b auths ∈ h ∧ .drop b ∉ h ∧ ¬Removed h b :=
  ⟨fun ⟨ha, hd, hr⟩ => ⟨ha, hd, hr⟩, fun ⟨ha, hd, hr⟩ => ⟨ha, hd, hr⟩⟩

theorem live_concat : Live (h ++ [x]) b auths ↔ (.acquire b auths ∈ h ∨ x = .acquire b auths) ∧
    (.drop b ∉ h ∧ x ≠ .drop b) ∧ ¬Removed h b ∧ ∀ o, x = .operation o → ¬o.mutates b := by
  rw [live_iff, removed_concat]
  simp [eq_comm (a := x)]

theorem live_acquire (legal : Legal h) (fresh : ¬Acquired h id) {kept : Auths} :
    Live (h ++ [.acquire id auths]) b kept ↔ id = b ∧ auths = kept ∨ Live h b kept := by
  have hd : id = b → .drop b ∉ h := by
    rintro rfl
    exact fun hd => fresh (legal.acquired.1 hd)
  have hr : id = b → ¬Removed h b := by
    rintro rfl
    exact fun hr => fresh (legal.acquired.2 hr)
  rw [live_concat, live_iff]
  simp only [Step.acquire.injEq, reduceCtorEq]
  tauto

theorem live_drop : Live (h ++ [.drop id]) b auths ↔ id ≠ b ∧ Live h b auths := by
  rw [live_concat, live_iff]
  simp only [ne_eq, Step.drop.injEq, reduceCtorEq]
  tauto

theorem live_operation : Live (h ++ [.operation o]) b auths ↔ ¬o.mutates b ∧ Live h b auths := by
  rw [live_concat, live_iff]
  simp only [Step.operation.injEq, reduceCtorEq, forall_eq']
  tauto

theorem live_settle {position : Nat} : Live (h ++ [.settle position]) b auths ↔ Live h b auths := by
  rw [live_concat, live_iff]
  simp only [reduceCtorEq]
  tauto

/-! ## What the log tells -/

/-- The addresses of credentials, each once and in their order. -/
structure Names (auths : Auths) (registries : List String) : Prop where
  sorted : registries.Pairwise (· < ·)
  mem : ∀ address, address ∈ registries ↔ address ∈ auths

theorem names_keys (auths : Auths) : Names auths auths.keys where
  sorted := (Std.ExtTreeMap.ordered_keys (t := auths)).imp compareOfLessAndEq_eq_lt.1
  mem _ := Std.ExtTreeMap.mem_keys

/-- There is but one way to put addresses in their order. -/
theorem Names.eq_keys {registries : List String} (hn : Names auths registries) : registries = auths.keys := by
  have hk := names_keys auths
  have nodup {l : List String} (sorted : l.Pairwise (· < ·)) : l.Nodup :=
    sorted.imp (S := (· ≠ ·)) fun hlt => String.ne_of_lt hlt
  refine List.Perm.eq_of_pairwise (fun a b _ _ hab hba => absurd hba (String.lt_asymm hab)) hn.sorted hk.sorted ?_
  rw [List.perm_ext_iff_of_nodup (nodup hn.sorted) (nodup hk.sorted)]
  exact fun address => (hn.mem address).trans (hk.mem address).symm

/-- The line of an opening, with the addresses of the credentials. -/
def storedLine (id : BuildId) (registries : List String) : Audit.Entry :=
  ⟨"credentials.stored", .object [("build_ref", .text id.fingerprint), ("registries", .array (registries.map .text))]⟩

/-- The line of a closing that removed credentials. -/
def removedLine (id : BuildId) : Audit.Entry :=
  ⟨"credentials.removed", .object [("build_ref", .text id.fingerprint)]⟩

/-- What the log has to tell, and in which line: of each opening, and of each closing that removed credentials. -/
inductive Tells (h : List (Step α)) : Audit.Event → Audit.Entry → Prop where
  | stored {id : BuildId} {auths : Auths} {registries : List String} (acquired : .acquire id auths ∈ h)
      (names : Names auths registries) : Tells h (.stored id registries) (storedLine id registries)
  | removed {id : BuildId} (releases : Releases h id) : Tells h (.removed id) (removedLine id)

theorem Tells.acquired {registries : List String} (ht : Tells h (.stored id registries) line) : Acquired h id := by
  cases ht with
  | stored acquired => exact ⟨_, acquired⟩

theorem Tells.releases (ht : Tells h (.removed id) line) : Releases h id := by
  cases ht with
  | removed releases => exact releases

/-- Events with lines that tell all that they have to, each thing once, and nothing else. -/
structure Logged (h : List (Step α)) (events : List Audit.Event) : Prop where
  once : events.Nodup
  mem : ∀ event line, event ∈ events ∧ line = event.entry ↔ Tells h event line

theorem Logged.mem_iff (hl : Logged h events) (event : Audit.Event) :
    event ∈ events ↔ Tells h event event.entry := by
  rw [← hl.mem, and_iff_left rfl]

theorem Logged.perm (hl : Logged h events) (hp : events.Perm events') : Logged h events' :=
  ⟨hp.nodup hl.once, fun event line => by rw [← hl.mem, hp.mem_iff]⟩

/-- A step of which there is nothing to tell. -/
theorem Logged.silent (hl : Logged h events) (hx : ∀ event line, Tells (h ++ [x]) event line ↔ Tells h event line) :
    Logged (h ++ [x]) events :=
  ⟨hl.once, fun event line => (hl.mem event line).trans (hx event line).symm⟩

/-- A step that there is a line of. -/
theorem Logged.cons {new : Audit.Event} (hl : Logged h events) (hn : ∀ line, ¬Tells h new line)
    (hx : ∀ event line, Tells (h ++ [x]) event line ↔ event = new ∧ line = event.entry ∨ Tells h event line) :
    Logged (h ++ [x]) (new :: events) := by
  refine ⟨List.nodup_cons.2 ⟨fun hm => hn _ ((hl.mem_iff new).1 hm), hl.once⟩, fun event line => ?_⟩
  rw [List.mem_cons, or_and_right, hx, hl.mem]

/-- A step is told of if it opens a scope, or closes one whose credentials nobody has removed. -/
theorem tells_concat : Tells (h ++ [x]) event line ↔
    (∃ id auths, x = .acquire id auths ∧ event = .stored id auths.keys ∧ line = event.entry) ∨
    (∃ id, x = .drop id ∧ ¬Removed h id ∧ event = .removed id ∧ line = event.entry) ∨ Tells h event line := by
  constructor
  · rintro (⟨ha, hn⟩ | hr)
    · rcases List.mem_append.1 ha with ha | ha
      · exact .inr (.inr (.stored ha hn))
      · exact .inl ⟨_, _, (List.mem_singleton.1 ha).symm, by rw [hn.eq_keys], rfl⟩
    · rcases releases_concat.1 hr with hr | ⟨he, kept⟩
      · exact .inr (.inr (.removed hr))
      · exact .inr (.inl ⟨_, he, kept, rfl, rfl⟩)
  · rintro (⟨id, auths, rfl, rfl, rfl⟩ | ⟨id, rfl, kept, rfl, rfl⟩ | ⟨ha, hn⟩ | hr)
    · exact .stored (List.mem_append_right _ (.head _)) (names_keys auths)
    · exact .removed (releases_concat.2 (.inr ⟨rfl, kept⟩))
    · exact .stored (List.mem_append_left _ ha) hn
    · exact .removed (releases_concat.2 (.inl hr))

theorem tells_acquire : Tells (h ++ [.acquire id auths]) event line ↔
    event = .stored id auths.keys ∧ line = event.entry ∨ Tells h event line := by
  simp [tells_concat]

theorem tells_drop : Tells (h ++ [.drop id]) event line ↔
    ¬Removed h id ∧ event = .removed id ∧ line = event.entry ∨ Tells h event line := by
  simp [tells_concat]

theorem tells_silent (hx : (∀ id auths, x ≠ .acquire id auths) ∧ ∀ id, x ≠ .drop id) (event : Audit.Event)
    (line : Audit.Entry) : Tells (h ++ [x]) event line ↔ Tells h event line := by
  simp [tells_concat, hx.1, hx.2]

/-! ## Steps -/

/-- A state is what a history leaves: the store has the credentials of those scopes that are open still and that
nobody has removed, and the log tells what it has to, be it written already or not. -/
structure Matches (h : List (Step α)) (s : Scopes) : Prop where
  store : ∀ id auths, s.store[id]? = some auths ↔ Live h id auths
  log : Logged h (s.written ++ s.pending)

variable {s : Scopes}

theorem Matches.mem_store (hm : Matches h s) : id ∈ s.store ↔ ∃ auths, Live h id auths := by
  rw [Std.ExtTreeMap.mem_iff_isSome_getElem?, Option.isSome_iff_exists]
  exact exists_congr fun auths => hm.store id auths

theorem matches_start : Matches ([] : List (Step α)) {} where
  store id auths := by
    have hnone : (∅ : Store)[id]? = none := Std.ExtTreeMap.getElem?_empty
    rw [hnone]
    exact ⟨nofun, fun live => nomatch live.acquired⟩
  log := by
    refine ⟨.nil, fun event line => ⟨nofun, ?_⟩⟩
    rintro (⟨acquired, -⟩ | releases)
    · cases acquired
    · cases releases.mem_drop

theorem Matches.acquire (hm : Matches h s) (legal : Legal h) (fresh : ¬Acquired h id) (auths : Auths) :
    Matches (h ++ [.acquire id auths]) (s.step (.acquire id auths : Step α)) where
  store b kept := by
    rw [live_acquire legal fresh, ← hm.store]
    show (s.store.put id auths)[b]? = some kept ↔ _
    rw [Store.getElem?_put]
    by_cases hb : id = b
    · subst hb
      have hnone : s.store[id]? = none :=
        Option.eq_none_iff_forall_ne_some.2 fun kept hk => fresh ⟨kept, ((hm.store id kept).1 hk).acquired⟩
      simp [hnone]
    · simp [hb]
  log := by
    have hn : ∀ line, ¬Tells h (.stored id auths.keys) line := fun _ ht => fresh ht.acquired
    refine (hm.log.cons hn fun _ _ => tells_acquire).perm ?_
    show List.Perm _ (s.written ++ [.stored id auths.keys] ++ s.pending)
    rw [List.append_assoc]
    exact List.perm_middle.symm

theorem Matches.drop (hm : Matches h s) (acquired : Acquired h id) (undropped : .drop id ∉ h) :
    Matches (h ++ [.drop id]) (s.step (.drop id : Step α)) where
  store b kept := by
    rw [live_drop, ← hm.store]
    show (closeScope s.store id).1[b]? = some kept ↔ _
    rw [getElem?_closeScope]
    by_cases hb : id = b <;> simp [hb]
  log := by
    show Logged _ (s.written ++ (s.pending ++ (closeScope s.store id).2))
    by_cases hin : id ∈ s.store
    · obtain ⟨auths, live⟩ := hm.mem_store.1 hin
      -- The scope was open until now, so that no line tells of its closing yet.
      have hn : ∀ line, ¬Tells h (.removed id) line := fun _ ht => undropped ht.releases.mem_drop
      refine (hm.log.cons hn fun event line => ?_).perm ?_
      · rw [tells_drop, and_iff_right live.kept]
      · rw [closeScope, Store.remove_of_mem hin, ← List.append_assoc]
        exact (List.perm_append_singleton _ _).symm
    · obtain ⟨auths, ha⟩ := acquired
      -- The scope was open until now, so that only a removal can have emptied its place.
      have removed : Removed h id :=
        Classical.not_not.1 fun kept => hin (hm.mem_store.2 ⟨auths, ha, undropped, kept⟩)
      rw [closeScope, Store.remove_of_not_mem hin, List.append_nil]
      refine hm.log.silent fun event line => ?_
      rw [tells_drop, or_iff_right fun hr => hr.1 removed]

theorem Matches.operation (hm : Matches h s) (stores : o.stored? = none) :
    Matches (h ++ [.operation o]) (s.step (.operation o)) where
  store b kept := by
    rw [live_operation, ← hm.store]
    show (s.store.perform o).1[b]? = some kept ↔ _
    rw [Store.getElem?_perform]
    by_cases hb : o.mutates b <;> simp [hb, stores]
  log := hm.log.silent (tells_silent ⟨nofun, nofun⟩)

theorem Matches.settle (hm : Matches h s) (position : Nat) :
    Matches (h ++ [.settle position]) (s.step (.settle position : Step α)) := by
  have hl := hm.log.silent (tells_silent (x := .settle position) ⟨nofun, nofun⟩)
  cases he : s.pending[position]? with
  | none =>
    simp only [step, he]
    exact ⟨fun b kept => (hm.store b kept).trans live_settle.symm, hl⟩
  | some event =>
    simp only [step, he]
    refine ⟨fun b kept => (hm.store b kept).trans live_settle.symm, hl.perm ?_⟩
    obtain ⟨hlt, rfl⟩ := List.getElem?_eq_some_iff.1 he
    rw [List.append_assoc]
    exact (List.getElem_cons_eraseIdx_perm hlt).symm.append_left s.written

theorem after_concat (s : Scopes) (h : List (Step α)) (x : Step α) : s.after (h ++ [x]) = (s.after h).step x := by
  simp [after, List.foldl_append]

/-- A legal history leaves what it tells of. -/
theorem matches_of_legal (legal : Legal h) : Matches h (after {} h) := by
  -- A history grows at its end, as the state does: each case is the lemma of its last step.
  induction legal with
  | start => exact matches_start
  | acquire before auths fresh ih => exact after_concat _ _ _ ▸ ih.acquire before fresh auths
  | drop _ acquired undropped ih => exact after_concat _ _ _ ▸ ih.drop acquired undropped
  | operation _ stores _ ih => exact after_concat _ _ _ ▸ ih.operation stores
  | settle _ position ih => exact after_concat _ _ _ ▸ ih.settle position

/-- What is stored is released when its scope is closed. -/
theorem Legal.releases_iff_mem_store (legal : Legal h) {before : List (Step α)} (hp : before ++ [.drop id] <+: h) :
    Releases h id ↔ id ∈ (after {} before).store := by
  have hl := legal.of_prefix hp
  obtain ⟨⟨auths, acquired⟩, undropped⟩ := hl.open_of_drop
  rw [legal.releases_iff hp, (matches_of_legal (hl.of_prefix (List.prefix_append _ _))).mem_store]
  exact ⟨fun kept => ⟨auths, acquired, undropped, kept⟩, fun ⟨_, live⟩ => live.kept⟩

/-- What is still to be written is written in the end. -/
theorem after_settle (s : Scopes) : s.after (List.replicate s.pending.length (.settle 0 : Step α)) =
    { s with written := s.written ++ s.pending, pending := [] } := by
  obtain ⟨store, written, pending⟩ := s
  induction pending generalizing written with
  | nil => simp [after]
  | cons event pending ih =>
    have h := ih (written ++ [event])
    rw [List.append_assoc] at h
    exact h

/-- At every point of a history in which scopes are opened and closed, and what they have stored is looked up or
removed, in any order. Stored are just the credentials of the scopes that are open and that nobody has removed,
each as its scope was opened with them. To close a scope leaves those of all others alone, and everything if its
own are gone. The log tells, in the lines that are written and those that are left to be, just of each opening,
with the addresses in their order, and of each closing that removed something, each once: of those that found
their credentials, and of none that found them gone. -/
theorem scopes_follow_history (legal : Legal h) :
    let s := after {} h
    let events := s.written ++ s.pending
    (∀ id auths, s.store[id]? = some auths ↔ Live h id auths) ∧
    (∀ id b, id ≠ b → (s.step (.drop id : Step α)).store[b]? = s.store[b]?) ∧
    (∀ id, Removed h id → s.step (.drop id : Step α) = s) ∧
    Logged h events ∧
    (∀ before id, before ++ [.drop id] <+: h → (.removed id ∈ events ↔ id ∈ (after {} before).store)) ∧
    (s.after (List.replicate s.pending.length (.settle 0 : Step α))).written = events := by
  have hm := matches_of_legal legal
  refine ⟨hm.store, fun id b hne => ?_, fun id removed => ?_, hm.log, fun before id hp => ?_, ?_⟩
  · exact (getElem?_closeScope _ id b).trans (if_neg hne)
  · have hin : id ∉ (after {} h).store := fun hin => by
      obtain ⟨auths, live⟩ := hm.mem_store.1 hin
      exact live.kept removed
    simp only [step, closeScope, Store.remove_of_not_mem hin, List.append_nil]
  · rw [hm.log.mem_iff, ← legal.releases_iff_mem_store hp]
    exact ⟨Tells.releases, .removed⟩
  · rw [after_settle]

end

/-- Of two scopes one is removed early, twice, and closed: the other's credentials stay, and no closing is told
of. -/
theorem scopes_follow_history_of_early_removal :
    let first : Auths := Auths.ofRecords [("b", {}), ("a", {})]
    let second : Auths := Auths.ofRecords [("c", {})]
    let h : List (Step Unit) := [.acquire ⟨"1"⟩ first, .acquire ⟨"2"⟩ second, .operation (.remove ⟨"1"⟩),
      .operation (.remove ⟨"1"⟩), .drop ⟨"1"⟩]
    let s := after {} h
    Legal h ∧ s.store[(⟨"1"⟩ : BuildId)]? = none ∧ s.store[(⟨"2"⟩ : BuildId)]? = some second ∧
      .removed ⟨"1"⟩ ∉ s.written ++ s.pending ∧ .stored ⟨"1"⟩ ["a", "b"] ∈ s.written ++ s.pending := by
  intro first second h s
  have both : Legal [.acquire ⟨"1"⟩ first, (.acquire ⟨"2"⟩ second : Step Unit)] := by
    refine .acquire (h := [.acquire ⟨"1"⟩ first]) (.acquire .start first ?_) second ?_ <;> simp [Acquired]
  have removed : Legal (h.take 4) := by
    refine .operation (h := h.take 3) (.operation (h := h.take 2) both rfl ?_) rfl ?_
    all_goals
      intro id hm
      cases of_decide_eq_true hm
      exact ⟨first, .head _⟩
  have legal : Legal h := .drop (h := h.take 4) removed ⟨first, .head _⟩ (by simp [h])
  obtain ⟨hstore, -, -, hlog, hdrop, -⟩ := scopes_follow_history legal
  refine ⟨legal, ?_, (hstore _ _).2 ⟨by simp [h], by simp [h], ?_⟩, fun hl => ?_, ?_⟩
  · exact Option.eq_none_iff_forall_ne_some.2 fun auths hs => ((hstore _ _).1 hs).undropped (by simp [h])
  · rintro ⟨o, ho, hm⟩
    simp only [h, List.mem_cons, List.not_mem_nil, reduceCtorEq, or_false, false_or, Step.operation.injEq,
      or_self] at ho
    subst ho
    exact absurd hm (by decide)
  · obtain ⟨auths, live⟩ := (matches_of_legal removed).mem_store.1 ((hdrop (h.take 4) _ List.prefix_rfl).1 hl)
    exact live.kept ⟨.remove ⟨"1"⟩, by simp [h], rfl⟩
  · have acquired : Step.acquire ⟨"1"⟩ first ∈ h := .head _
    exact (hlog.mem_iff _).2 (.stored acquired (names_keys first))

end

end BuildCredentials.Build.Scopes
