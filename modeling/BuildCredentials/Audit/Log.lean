import BuildCredentials.Audit.Entry
import BuildCredentials.FileTree
import BuildCredentials.Bytes.Utf8

/-!
# The audit log

Entries are added to the end of a file, one line each. A log that is off records nothing, and an entry that
cannot be written is dropped.
-/

set_option autoImplicit false

namespace BuildCredentials.Audit

/-- Where entries go. -/
structure Log where
  enabled : Bool := true
  path : String
  deriving DecidableEq, Repr

namespace Log

/-- Makes the directories of the log's file. -/
def makeParents (log : Log) (files : FileTree) : FileTree × Except FileFault Unit :=
  match FileTree.parentPath? log.path with
  | none => (files, .ok ())
  | some parent => files.makeDirectories parent

/-- Adds an entry at a time. -/
def record (log : Log) (time : String) (files : FileTree) (e : Entry) : FileTree :=
  if !log.enabled then files
  else match log.makeParents files with
    | (files, .error _) => files
    | (files, .ok ()) =>
      match files.append log.path (Utf8.encode (e.line time ++ "\n")) with
      | .ok files => files
      | .error _ => files

/-- Adds entries in order. -/
def recordAll (log : Log) (time : String) (files : FileTree) (entries : List Entry) : FileTree :=
  entries.foldl (log.record time) files

end Log

end BuildCredentials.Audit
