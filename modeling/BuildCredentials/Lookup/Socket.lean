import BuildCredentials.Error
import BuildCredentials.FileTree

/-!
# The socket file

The daemon binds its socket at a path, in place of what an earlier daemon left there, and takes the socket
away when it stops serving.
-/

set_option autoImplicit false

namespace BuildCredentials.Lookup.Socket

/-- Takes away what stands at the path of a socket; nothing there is fine. -/
def clear (files : FileTree) (path : String) : Except Error FileTree :=
  match files.remove path with
  | .ok files => .ok files
  | .error .notFound => .ok files
  | .error _ => .error (.io ("removing socket file " ++ path))

/-- Makes the directories of a socket. -/
def makeParents (files : FileTree) (path : String) : FileTree × Except Error Unit :=
  match FileTree.parentPath? path with
  | none => (files, .ok ())
  | some parent =>
    let (files, made) := files.makeDirectories parent
    (files, made.mapError fun _ => .io ("creating socket directory " ++ parent))

/-- Makes the socket itself. The empty path names no file whose permissions could be set. -/
def create (files : FileTree) (path : String) (mode : Nat) : Except Error FileTree :=
  if path = "" then .error (.io "setting credential socket permissions")
  else (files.makeSocket path mode).mapError fun _ => .io ("binding " ++ path)

/-- Binds a socket with permission bits at a path. Directories that were made and a file that was taken away
stay so, also when binding fails. -/
def bind (files : FileTree) (path : String) (mode : Nat) : FileTree × Except Error Unit :=
  match makeParents files path with
  | (files, .error e) => (files, .error e)
  | (files, .ok ()) =>
    match clear files path with
    | .error e => (files, .error e)
    | .ok cleared =>
      match create cleared path mode with
      | .error e => (cleared, .error e)
      | .ok bound => (bound, .ok ())

/-- Stops serving: the socket is taken away. -/
def close (files : FileTree) (path : String) : FileTree × Except Error Unit :=
  match clear files path with
  | .ok files => (files, .ok ())
  | .error e => (files, .error e)

end BuildCredentials.Lookup.Socket
