/-!
# What a build engine tells its helper

The engine passes the build's identifier and the daemon's socket in its environment. Empty values count as
none, and without a socket the usual place is taken.
-/

set_option autoImplicit false

namespace BuildCredentials.Helper

/-- The variable that carries the identifier of a build. -/
def buildVariable : String := "FINCH_BUILD_ID"

/-- The variable that carries the path of the daemon's socket. -/
def socketVariable : String := "FINCH_CREDENTIAL_SOCKET"

/-- Where the daemon's socket is unless something else is said. -/
def defaultSocket : String := "/var/run/finch-credential.sock"

/-- Variables and their values; of two values of one name the first counts. -/
abbrev Variables := List (String × String)

/-- The value of a variable that is set and not empty. -/
def value? (vars : Variables) (name : String) : Option String := (vars.lookup name).filter (· ≠ "")

/-- What an engine tells its helper. -/
structure Environment where
  build? : Option String
  socket : String
  deriving DecidableEq, Repr

/-- Reads what an engine tells. -/
def Environment.ofVariables (vars : Variables) : Environment where
  build? := value? vars buildVariable
  socket := (value? vars socketVariable).getD defaultSocket

end BuildCredentials.Helper
