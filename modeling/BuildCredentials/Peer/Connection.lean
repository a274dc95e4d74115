/-!
# Peers and their connections

A process is known by its user, group and process number. The kernel reports these for the other end of a
local socket; for a connection over the network it reports nothing.
-/

set_option autoImplicit false

namespace BuildCredentials.Peer

/-- Number of a process. -/
abbrev Pid := UInt32

/-- Who a process runs as, and which process it is. -/
structure Identity where
  uid : UInt32
  gid : UInt32
  pid : Pid
  deriving DecidableEq, Repr

/-- What the kernel reports of the other end of a local socket. -/
structure Credentials where
  uid : UInt32
  gid : UInt32
  /-- The process number, where the system reports it. -/
  pid? : Option Pid
  deriving DecidableEq, Repr

/-- The transport that a request arrived on. -/
inductive Connection where
  /-- A local socket, with the peer's credentials or the reason why they could not be looked up. -/
  | unix (credentials : Except String Credentials)
  | network

/-- Whether a connection is over a local socket. -/
def Connection.isLocal : Connection → Bool
  | .unix _ => true
  | .network => false

/-- Why a peer or its ancestors are not known. -/
inductive LookupFault where
  | notLocal
  | credentials (reason : String)
  | noPid
  | parent (pid : Pid) (reason : String)
  deriving DecidableEq, Repr

/-- The text of a fault. -/
def LookupFault.message : LookupFault → String
  | .notLocal => "connection is not a local socket"
  | .credentials reason => "peer credentials unavailable: " ++ reason
  | .noPid => "peer process id not reported"
  | .parent pid reason => "cannot resolve parent of pid " ++ toString pid ++ ": " ++ reason

/-- The process on the other end of a connection. -/
def Connection.identity? : Connection → Except LookupFault Identity
  | .network => .error .notLocal
  | .unix (.error reason) => .error (.credentials reason)
  | .unix (.ok ⟨uid, gid, some pid⟩) => .ok ⟨uid, gid, pid⟩
  | .unix (.ok ⟨_, _, none⟩) => .error .noPid

/-- The parents of processes, where they are known. -/
abbrev ProcessTable := Pid → Except LookupFault Pid

/-- The table in which only the given processes are known. -/
def ProcessTable.ofParents (parents : List (Pid × Pid)) : ProcessTable := fun pid =>
  match parents.lookup pid with
  | some parent => .ok parent
  | none => .error (.parent pid "process not found")

/-- A table under which the first process of the system runs, which has no parent. -/
def ProcessTable.withFirst (table : ProcessTable) : ProcessTable := fun pid =>
  if pid = 1 then .error (.parent pid "process has no parent") else table pid

end BuildCredentials.Peer
