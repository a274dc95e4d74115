import BuildCredentials.Peer.Guard

/-!
# Who is admitted

The guard admits the daemon's grandchildren that run as its user and group, and nobody else
(`verdict_examine_eq_ok_iff`).
-/

set_option autoImplicit false

namespace BuildCredentials.Peer

section
variable {daemon peer : Identity} {parent : ProcessTable} {connection : Connection}

/-- `peer` is on the other end of a local socket, runs as the daemon's user and group, and is a child of one
of the daemon's children. -/
structure IsGrandchild (daemon : Identity) (parent : ProcessTable) (connection : Connection)
    (peer : Identity) : Prop where
  captured : connection = .unix (.ok ⟨peer.uid, peer.gid, some peer.pid⟩)
  uid : peer.uid = daemon.uid
  gid : peer.gid = daemon.gid
  ancestry : ∃ middle, parent peer.pid = .ok middle ∧ parent middle = .ok daemon.pid

theorem identity?_eq_ok_iff :
    connection.identity? = .ok peer ↔ connection = .unix (.ok ⟨peer.uid, peer.gid, some peer.pid⟩) := by
  obtain ⟨uid, gid, pid⟩ := peer
  match connection with
  | .network | .unix (.error _) => simp [Connection.identity?]
  | .unix (.ok ⟨_, _, none⟩) | .unix (.ok ⟨_, _, some _⟩) => simp [Connection.identity?]

theorem ancestor?_succ {depth : Nat} {pid ancestor : Pid} :
    (ancestor? parent (depth + 1) pid).1 = some ancestor ↔
      ∃ next, parent pid = .ok next ∧ (ancestor? parent depth next).1 = some ancestor := by
  simp only [ancestor?]
  cases parent pid <;> simp

theorem ancestor?_ancestryDepth {pid ancestor : Pid} :
    (ancestor? parent ancestryDepth pid).1 = some ancestor ↔
      ∃ middle, parent pid = .ok middle ∧ parent middle = .ok ancestor := by
  rw [ancestryDepth, ancestor?_succ]
  refine exists_congr fun middle => and_congr_right fun _ => ?_
  rw [ancestor?_succ]
  simp [ancestor?]

theorem judgeAncestry_eq_ok_iff {found? : Option Pid} {admitted : Identity} :
    judgeAncestry daemon peer found? = .ok admitted ↔ found? = some daemon.pid ∧ admitted = peer := by
  cases found? with
  | none => simp [judgeAncestry]
  | some pid =>
    by_cases h : pid = daemon.pid
    · simp [judgeAncestry, h, eq_comm]
    · simp [judgeAncestry, h]

/-- A peer that is known is judged, and was asked for once. -/
theorem examine_of_identity? (h : connection.identity? = .ok peer) :
    examine daemon parent connection =
      { verdict := (judge daemon parent peer).1
        identityLookups := 1
        walked := (judge daemon parent peer).2 } := by
  have hl : connection.isLocal = true := by rw [identity?_eq_ok_iff.1 h]; rfl
  simp only [examine, identify, hl, h, Bool.not_true, Bool.false_eq_true, if_false]

/-- The checks on a peer that is known. -/
theorem verdict_examine_of_identity? (h : connection.identity? = .ok peer) :
    (examine daemon parent connection).verdict =
      if peer.uid ≠ daemon.uid then .error .uidMismatch
      else if peer.gid ≠ daemon.gid then .error .gidMismatch
      else judgeAncestry daemon peer (ancestor? parent ancestryDepth peer.pid).1 := by
  rw [examine_of_identity? h, judge]
  by_cases hu : peer.uid = daemon.uid <;> by_cases hg : peer.gid = daemon.gid <;> simp [hu, hg]

/-- A peer that is admitted is known. -/
theorem identity?_of_verdict_examine (h : (examine daemon parent connection).verdict = .ok peer) :
    ∃ found, connection.identity? = .ok found := by
  unfold examine identify at h
  split at h
  · cases h
  · cases hi : connection.identity? with
    | error f => rw [hi] at h; cases h
    | ok found => exact ⟨found, rfl⟩

/-- The guard admits a peer just if it is a grandchild of the daemon. -/
theorem verdict_examine_eq_ok_iff :
    (examine daemon parent connection).verdict = .ok peer ↔
      IsGrandchild daemon parent connection peer := by
  constructor
  · intro h
    obtain ⟨found, hi⟩ := identity?_of_verdict_examine h
    rw [verdict_examine_of_identity? hi] at h
    split at h
    · cases h
    · rename_i hu
      split at h
      · cases h
      · rename_i hg
        obtain ⟨ha, rfl⟩ := judgeAncestry_eq_ok_iff.1 h
        exact ⟨identity?_eq_ok_iff.1 hi, Decidable.not_not.1 hu, Decidable.not_not.1 hg,
          ancestor?_ancestryDepth.1 ha⟩
  · rintro ⟨hc, hu, hg, ha⟩
    rw [verdict_examine_of_identity? (identity?_eq_ok_iff.2 hc), if_neg (not_not_intro hu),
      if_neg (not_not_intro hg)]
    exact judgeAncestry_eq_ok_iff.2 ⟨ancestor?_ancestryDepth.2 ha, rfl⟩

end

end BuildCredentials.Peer
