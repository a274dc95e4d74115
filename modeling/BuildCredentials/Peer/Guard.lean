import BuildCredentials.Peer.Connection

/-!
# Who may ask for credentials

A peer is admitted if it is on a local socket, runs as the same user and group as the daemon, and is a child
of a child of the daemon: the helper that the build engine starts. `examine` answers the verdict together with
every lookup that was made for it, in order.
-/

set_option autoImplicit false

namespace BuildCredentials.Peer

/-- Parent links between a peer and the daemon. -/
def ancestryDepth : Nat := 2

/-- The check that a peer failed. -/
inductive Rejection where
  | notLocal
  | noIdentity
  | uidMismatch
  | gidMismatch
  | ancestryUnresolved
  | ancestryMismatch
  deriving DecidableEq, Repr

namespace Rejection

/-- The text of a rejection. -/
def message : Rejection → String
  | .notLocal => "connection is not a local socket"
  | .noIdentity => "peer identity could not be determined"
  | .uidMismatch => "peer uid differs from daemon uid"
  | .gidMismatch => "peer gid differs from daemon gid"
  | .ancestryUnresolved => "peer ancestry could not be resolved"
  | .ancestryMismatch => "peer is not a grandchild of the daemon"

/-- The word that an audit log has for a rejection. -/
def code : Rejection → String
  | .notLocal => "not_local"
  | .noIdentity => "no_identity"
  | .uidMismatch => "uid_mismatch"
  | .gidMismatch => "gid_mismatch"
  | .ancestryUnresolved => "ancestry_unresolved"
  | .ancestryMismatch => "ancestry_mismatch"

/-- Every rejection, in the order of the checks. -/
def all : List Rejection :=
  [.notLocal, .noIdentity, .uidMismatch, .gidMismatch, .ancestryUnresolved, .ancestryMismatch]

/-- The rejection of a word. -/
def ofCode? (code : String) : Option Rejection := all.find? (·.code = code)

end Rejection

/-- A verdict and the lookups it took. -/
structure Admission where
  verdict : Except Rejection Identity
  /-- How often the peer's identity was looked up. -/
  identityLookups : Nat := 0
  /-- The processes whose parents were looked up, in order. -/
  walked : List Pid := []

/-- Asks who the peer of a connection is, and counts that it was asked. -/
def identify (connection : Connection) : Except LookupFault Identity × Nat := (connection.identity?, 1)

/-- A process some links up from `pid`, if every link is known, and the processes that were asked about. -/
def ancestor? (parent : ProcessTable) : Nat → Pid → Option Pid × List Pid
  | 0, pid => (some pid, [])
  | depth + 1, pid =>
    match parent pid with
    | .error _ => (none, [pid])
    | .ok next =>
      let (found?, walked) := ancestor? parent depth next
      (found?, pid :: walked)

/-- The verdict on a peer of the right user and group, by the process that its ancestry leads to. -/
def judgeAncestry (daemon peer : Identity) : Option Pid → Except Rejection Identity
  | none => .error .ancestryUnresolved
  | some pid => if pid = daemon.pid then .ok peer else .error .ancestryMismatch

/-- The verdict on a peer that is known, and the processes that were asked about. -/
def judge (daemon : Identity) (parent : ProcessTable) (peer : Identity) : Except Rejection Identity × List Pid :=
  if peer.uid ≠ daemon.uid then (.error .uidMismatch, [])
  else if peer.gid ≠ daemon.gid then (.error .gidMismatch, [])
  else
    let (found?, walked) := ancestor? parent ancestryDepth peer.pid
    (judgeAncestry daemon peer found?, walked)

/-- Decides whether the peer of a connection may ask the daemon for credentials. -/
def examine (daemon : Identity) (parent : ProcessTable) (connection : Connection) : Admission :=
  if !connection.isLocal then { verdict := .error .notLocal }
  else
    let (peer?, identityLookups) := identify connection
    match peer? with
    | .error _ => { verdict := .error .noIdentity, identityLookups }
    | .ok peer =>
      let (verdict, walked) := judge daemon parent peer
      { verdict, identityLookups, walked }

end BuildCredentials.Peer
