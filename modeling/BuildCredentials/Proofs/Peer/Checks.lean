import BuildCredentials.Proofs.Peer.Admission

/-!
# The checks of the guard and what they look up

A peer is rejected for the first check that it fails, in the order of `Rejection.all`
(`firstFails_of_verdict`). The process table is asked only about a peer of the daemon's user and group, and
then about the peer, about its parent if that is found, and about nobody else (`walked_of_runsAlike`); no
other entry of the table matters (`examine_congr`).
-/

set_option autoImplicit false

namespace BuildCredentials.Peer

/-- The kernel reports `peer` as the other end of a connection. -/
def Reports (connection : Connection) (peer : Identity) : Prop :=
  connection = .unix (.ok ⟨peer.uid, peer.gid, some peer.pid⟩)

/-- A check is passed, each taken by itself. -/
def Passes (daemon : Identity) (parent : ProcessTable) (connection : Connection) : Rejection → Prop
  | .notLocal => ∃ credentials, connection = .unix credentials
  | .noIdentity => ∃ peer, Reports connection peer
  | .uidMismatch => ∃ peer, Reports connection peer ∧ peer.uid = daemon.uid
  | .gidMismatch => ∃ peer, Reports connection peer ∧ peer.gid = daemon.gid
  | .ancestryUnresolved => ∃ peer, Reports connection peer ∧
      ∃ middle ancestor, parent peer.pid = .ok middle ∧ parent middle = .ok ancestor
  | .ancestryMismatch => ∃ peer, Reports connection peer ∧
      ∃ middle, parent peer.pid = .ok middle ∧ parent middle = .ok daemon.pid

/-- The checks that stand before that of `reason` are passed. -/
def Reaches (daemon : Identity) (parent : ProcessTable) (connection : Connection) (reason : Rejection) : Prop :=
  ∀ r, Rejection.all.idxOf r < Rejection.all.idxOf reason → Passes daemon parent connection r

/-- The check of `reason` is the first that is not passed. -/
def FirstFails (daemon : Identity) (parent : ProcessTable) (connection : Connection) (reason : Rejection) : Prop :=
  Reaches daemon parent connection reason ∧ ¬Passes daemon parent connection reason

/-- `peer` is reported and runs as the daemon's user and group. -/
structure RunsAlike (daemon : Identity) (connection : Connection) (peer : Identity) : Prop where
  reports : Reports connection peer
  uid : peer.uid = daemon.uid
  gid : peer.gid = daemon.gid

section
variable {daemon peer peer' : Identity} {parent parent' : ProcessTable} {connection : Connection}
  {reason reason' : Rejection}

theorem reports_iff : Reports connection peer ↔ connection.identity? = .ok peer := identity?_eq_ok_iff.symm

theorem Reports.unique (h : Reports connection peer) (h' : Reports connection peer') : peer' = peer :=
  Except.ok.inj ((reports_iff.1 h').symm.trans (reports_iff.1 h))

/-- A check of the peer that is reported is passed just if this peer meets it. -/
theorem Reports.exists_iff (h : Reports connection peer) {p : Identity → Prop} :
    (∃ peer, Reports connection peer ∧ p peer) ↔ p peer := by
  constructor
  · rintro ⟨other, ho, hp⟩
    rwa [h.unique ho] at hp
  · intro hp
    exact ⟨peer, h, hp⟩

/-! ## The order of the checks -/

theorem eq_of_idxOf_all (h : Rejection.all.idxOf reason = Rejection.all.idxOf reason') : reason = reason' := by
  cases reason <;> cases reason' <;> first | rfl | exact absurd h (by decide)

theorem reaches_first : Reaches daemon parent connection .notLocal :=
  fun _ hr => absurd hr (Nat.not_lt_zero _)

/-- A check that is reached and passed leads to the one behind it. -/
theorem Reaches.next (h : Reaches daemon parent connection reason)
    (hp : Passes daemon parent connection reason)
    (hn : Rejection.all.idxOf reason' = Rejection.all.idxOf reason + 1) :
    Reaches daemon parent connection reason' := by
  intro r hr
  rw [hn] at hr
  rcases Nat.lt_succ_iff_lt_or_eq.1 hr with hlt | heq
  · exact h r hlt
  · rwa [eq_of_idxOf_all heq]

theorem FirstFails.unique (h : FirstFails daemon parent connection reason)
    (h' : FirstFails daemon parent connection reason') : reason = reason' := by
  rcases Nat.lt_trichotomy (Rejection.all.idxOf reason) (Rejection.all.idxOf reason') with hlt | heq | hgt
  · exact absurd (h'.1 _ hlt) h.2
  · exact eq_of_idxOf_all heq
  · exact absurd (h.1 _ hgt) h'.2

theorem firstFails_of_reports (h : Reports connection peer)
    (hv : (examine daemon parent connection).verdict = .error reason) :
    FirstFails daemon parent connection reason := by
  -- Down the checks: each is the one that fails, or leads to the next.
  have hknown : Reaches daemon parent connection .noIdentity := reaches_first.next ⟨_, h⟩ rfl
  have huid : Reaches daemon parent connection .uidMismatch := hknown.next ⟨peer, h⟩ rfl
  rw [verdict_examine_of_identity? (reports_iff.1 h)] at hv
  split at hv
  · rename_i hne
    cases hv
    exact ⟨huid, fun hp => hne (h.exists_iff.1 hp)⟩
  rename_i hu
  have hgid : Reaches daemon parent connection .gidMismatch :=
    huid.next (h.exists_iff.2 (Decidable.not_not.1 hu)) rfl
  split at hv
  · rename_i hne
    cases hv
    exact ⟨hgid, fun hp => hne (h.exists_iff.1 hp)⟩
  rename_i hg
  have hwalk : Reaches daemon parent connection .ancestryUnresolved :=
    hgid.next (h.exists_iff.2 (Decidable.not_not.1 hg)) rfl
  cases ha : (ancestor? parent ancestryDepth peer.pid).1 with
  | none =>
    rw [ha] at hv
    cases hv
    refine ⟨hwalk, fun hp => ?_⟩
    obtain ⟨middle, ancestor, hancestor⟩ := h.exists_iff.1 hp
    rw [ancestor?_ancestryDepth.2 ⟨middle, hancestor⟩] at ha
    cases ha
  | some ancestor =>
    obtain ⟨middle, hancestor⟩ := ancestor?_ancestryDepth.1 ha
    rw [ha, judgeAncestry] at hv
    split at hv
    · cases hv
    · rename_i hne
      cases hv
      refine ⟨hwalk.next (h.exists_iff.2 ⟨middle, ancestor, hancestor⟩) rfl, fun hp => ?_⟩
      have hd := ancestor?_ancestryDepth.2 (h.exists_iff.1 hp)
      rw [ha] at hd
      exact hne (Option.some.inj hd)

theorem firstFails_of_verdict (hv : (examine daemon parent connection).verdict = .error reason) :
    FirstFails daemon parent connection reason := by
  match connection with
  | .network =>
    cases hv
    exact ⟨reaches_first, fun ⟨_, hp⟩ => nomatch hp⟩
  | .unix (.error _) | .unix (.ok ⟨_, _, none⟩) =>
    cases hv
    exact ⟨reaches_first.next ⟨_, rfl⟩ rfl, fun ⟨_, hp⟩ => nomatch hp⟩
  | .unix (.ok ⟨uid, gid, some pid⟩) => exact @firstFails_of_reports _ ⟨uid, gid, pid⟩ _ _ _ rfl hv

/-- An admitted peer passes every check. -/
theorem IsGrandchild.passes (h : IsGrandchild daemon parent connection peer) (reason : Rejection) :
    Passes daemon parent connection reason := by
  obtain ⟨middle, hm, hd⟩ := h.ancestry
  cases reason with
  | notLocal => exact ⟨_, h.captured⟩
  | noIdentity => exact ⟨peer, h.captured⟩
  | uidMismatch => exact ⟨peer, h.captured, h.uid⟩
  | gidMismatch => exact ⟨peer, h.captured, h.gid⟩
  | ancestryUnresolved => exact ⟨peer, h.captured, middle, _, hm, hd⟩
  | ancestryMismatch => exact ⟨peer, h.captured, middle, hm, hd⟩

theorem verdict_eq_error_iff :
    (examine daemon parent connection).verdict = .error reason ↔ FirstFails daemon parent connection reason := by
  refine ⟨firstFails_of_verdict, fun h => ?_⟩
  cases hv : (examine daemon parent connection).verdict with
  | error r => rw [(firstFails_of_verdict hv).unique h]
  | ok peer => exact absurd ((verdict_examine_eq_ok_iff.1 hv).passes reason) h.2

/-! ## Lookups -/

theorem identityLookups_examine :
    (examine daemon parent connection).identityLookups = if connection.isLocal then 1 else 0 := by
  unfold examine
  cases connection.isLocal with
  | false => rfl
  | true => cases hi : connection.identity? <;> simp [identify, hi]

theorem examine_of_runsAlike (h : RunsAlike daemon connection peer) :
    examine daemon parent connection =
      { verdict := judgeAncestry daemon peer (ancestor? parent ancestryDepth peer.pid).1
        identityLookups := 1
        walked := (ancestor? parent ancestryDepth peer.pid).2 } := by
  simp only [examine_of_identity? (reports_iff.1 h.reports), judge, h.uid, h.gid, ne_eq, not_true_eq_false, if_false]

/-- The table is not asked about a peer of another user or group, or about nobody. -/
theorem examine_of_not_runsAlike (h : ∀ peer, ¬RunsAlike daemon connection peer) (parent parent' : ProcessTable) :
    (examine daemon parent connection).walked = [] ∧
      examine daemon parent' connection = examine daemon parent connection := by
  match connection with
  | .network | .unix (.error _) | .unix (.ok ⟨_, _, none⟩) => exact ⟨rfl, rfl⟩
  | .unix (.ok ⟨uid, gid, some pid⟩) =>
    by_cases hu : uid = daemon.uid
    · have hg : gid ≠ daemon.gid := fun hg => h ⟨uid, gid, pid⟩ ⟨rfl, hu, hg⟩
      simp [examine, identify, judge, Connection.isLocal, Connection.identity?, hu, hg]
    · simp [examine, identify, judge, Connection.isLocal, Connection.identity?, hu]

theorem walked_of_runsAlike (h : RunsAlike daemon connection peer) :
    (∀ middle, parent peer.pid = .ok middle →
      (examine daemon parent connection).walked = [peer.pid, middle]) ∧
    ∀ fault, parent peer.pid = .error fault → (examine daemon parent connection).walked = [peer.pid] := by
  rw [examine_of_runsAlike h]
  constructor
  · intro middle hm
    simp only [ancestryDepth, ancestor?, hm]
    cases parent middle <;> rfl
  · intro fault hf
    simp only [ancestryDepth, ancestor?, hf]

/-- A walk depends on the parents of those that it passes. -/
theorem ancestor?_congr (depth : Nat) {pid : Pid}
    (h : ∀ p ∈ (ancestor? parent depth pid).2, parent' p = parent p) :
    ancestor? parent' depth pid = ancestor? parent depth pid := by
  induction depth generalizing pid with
  | zero => rfl
  | succ depth ih =>
    rw [ancestor?] at h
    cases hp : parent pid with
    | error f =>
      rw [hp] at h
      simp only [ancestor?, h pid (.head _), hp]
    | ok next =>
      rw [hp] at h
      simp only [ancestor?, h pid (.head _), hp, ih fun p hm => h p (.tail _ hm)]

/-- Two tables that agree on what is asked of one of them come to the same. -/
theorem examine_congr (h : ∀ p ∈ (examine daemon parent connection).walked, parent' p = parent p) :
    examine daemon parent' connection = examine daemon parent connection := by
  by_cases ha : ∃ peer, RunsAlike daemon connection peer
  · obtain ⟨peer, ha⟩ := ha
    rw [examine_of_runsAlike ha] at h
    rw [examine_of_runsAlike ha, examine_of_runsAlike ha, ancestor?_congr _ h]
  · exact (examine_of_not_runsAlike (not_exists.1 ha) parent parent').2

/-- The guard admits the daemon's grandchildren and rejects anybody else for the first check that fails. It looks
up who the peer of a local socket is, once, and of no other. It asks for the parent of a peer that runs as the
daemon's user and group, and for that one's parent if there is one, and for no other; and so no other entry of
the process table matters. -/
theorem admits_grandchildren_by_ordered_checks (daemon : Identity) (parent : ProcessTable) (connection : Connection) :
    (∀ peer, (examine daemon parent connection).verdict = .ok peer ↔
      connection = .unix (.ok ⟨peer.uid, peer.gid, some peer.pid⟩) ∧ peer.uid = daemon.uid ∧
        peer.gid = daemon.gid ∧ ∃ middle, parent peer.pid = .ok middle ∧ parent middle = .ok daemon.pid) ∧
    (∀ reason, (examine daemon parent connection).verdict = .error reason ↔
      FirstFails daemon parent connection reason) ∧
    (examine daemon parent connection).identityLookups = (if connection.isLocal then 1 else 0) ∧
    ((∀ peer, ¬RunsAlike daemon connection peer) → (examine daemon parent connection).walked = []) ∧
    (∀ peer, RunsAlike daemon connection peer →
      (∀ middle, parent peer.pid = .ok middle →
        (examine daemon parent connection).walked = [peer.pid, middle]) ∧
      ∀ fault, parent peer.pid = .error fault → (examine daemon parent connection).walked = [peer.pid]) ∧
    ∀ parent' : ProcessTable, (∀ p ∈ (examine daemon parent connection).walked, parent' p = parent p) →
      examine daemon parent' connection = examine daemon parent connection := by
  refine ⟨fun peer => ?_, fun _ => verdict_eq_error_iff, identityLookups_examine,
    fun h => (examine_of_not_runsAlike h parent parent).1, fun _ h => walked_of_runsAlike h,
    fun _ h => examine_congr h⟩
  rw [verdict_examine_eq_ok_iff]
  exact ⟨fun ⟨hc, hu, hg, ha⟩ => ⟨hc, hu, hg, ha⟩, fun ⟨hc, hu, hg, ha⟩ => ⟨hc, hu, hg, ha⟩⟩

/-- A peer and its parent are each the other's child: the walk goes two steps round, asks about both, and ends
at the peer itself, which is not the daemon. -/
theorem admits_grandchildren_by_ordered_checks_in_cycle :
    let daemon : Identity := ⟨501, 20, 100⟩
    let round : ProcessTable := .ofParents [(300, 200), (200, 300)]
    let connection : Connection := .unix (.ok ⟨501, 20, some 300⟩)
    FirstFails daemon round connection .ancestryMismatch ∧
      (examine daemon round connection).walked = [300, 200] ∧
      examine daemon (.ofParents [(200, 300), (300, 200), (400, 100)]) connection =
        examine daemon round connection := by
  intro daemon round connection
  obtain ⟨-, hfirst, -, -, hwalked, hsame⟩ := admits_grandchildren_by_ordered_checks daemon round connection
  have hw : (examine daemon round connection).walked = [300, 200] :=
    (hwalked ⟨501, 20, 300⟩ ⟨rfl, rfl, rfl⟩).1 200 rfl
  refine ⟨(hfirst _).1 rfl, hw, hsame _ fun p hp => ?_⟩
  rw [hw, List.mem_cons, List.mem_singleton] at hp
  rcases hp with rfl | rfl <;> rfl

end

end BuildCredentials.Peer
