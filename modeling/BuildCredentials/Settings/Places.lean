import BuildCredentials.FileTree
import BuildCredentials.Helper.Environment

/-!
# Where files are kept

Settings and state have directories that the environment names by absolute paths, or else ones below the user's
home.
-/

set_option autoImplicit false

namespace BuildCredentials.Settings

open Helper (Variables)

/-- Whether a path starts at the root. -/
def isAbsolute (files : FileTree) (path : String) : Bool :=
  ['/'].isPrefixOf path.toList || (FileTree.belowWorkdir? files.workdir.toList path.toList).isSome

/-- A path with one more name. -/
def join (path name : String) : String := if FileTree.endsInSlash path then path ++ name else path ++ "/" ++ name

/-- The directory that a variable names, or else the one below the user's home. -/
def directory (files : FileTree) (vars : Variables) (name belowHome : String) : String :=
  match (vars.lookup name).filter (isAbsolute files) with
  | some path => path
  | none =>
    match Helper.value? vars "HOME" with
    | some home => join home belowHome
    | none => "."

/-- The path of the settings file unless something else is said. -/
def usualPath (files : FileTree) (vars : Variables) : String :=
  join (join (directory files vars "XDG_CONFIG_HOME" ".config") "finchcred") "config.toml"

/-- The variable that carries the path of the settings file. -/
def pathVariable : String := "FINCHCRED_CONFIG"

/-- The directory of what is kept between builds. -/
def stateDirectory (files : FileTree) (vars : Variables) : String :=
  join (directory files vars "XDG_STATE_HOME" ".local/state") "finchcred"

/-- The path of the audit log. -/
def auditPath (files : FileTree) (vars : Variables) : String :=
  join (stateDirectory files vars) "audit.log"

end BuildCredentials.Settings
