import BuildCredentials.Build.Output
import BuildCredentials.Build.Run
import BuildCredentials.Helper.Environment

/-!
# Engines that are programs

An engine is a program with arguments of its own, which are followed by those of a build and by its context. Its
environment names the build and the socket if the build has credentials, and says nothing of either if it has none,
whatever the environment of the daemon says.
-/

set_option autoImplicit false

namespace BuildCredentials.Build

open Helper (Variables)

/-- A program that builds, and the arguments that it always gets. -/
structure Command where
  program : String
  args : List String := []
  deriving DecidableEq, Repr

/-- How a program ended. -/
inductive Ending where
  | exited (code : Nat)
  | signaled
  /-- The user interrupted the build. -/
  | interrupted
  deriving DecidableEq, Repr

/-- What a program did that was started. -/
structure Ran where
  output : List UInt8 := []
  errors : List UInt8 := []
  ending : Ending
  deriving Repr

/-- How important a line of the log is. -/
inductive Level where
  | debug
  | info
  deriving DecidableEq, Repr

/-- The variables of the program, given those of the daemon. -/
def Invocation.environment (i : Invocation) (parent : Variables) : Variables :=
  let others := parent.filter fun (name, _) => name ≠ Helper.buildVariable ∧ name ≠ Helper.socketVariable
  match i.build? with
  | some build => [(Helper.buildVariable, build.text), (Helper.socketVariable, i.socket)] ++ others
  | none => others

namespace Command

/-- All arguments of a build. -/
def words (c : Command) (i : Invocation) : List String := c.args ++ i.args ++ [i.context]

/-- The program and its arguments as a text. -/
def describe (c : Command) (i : Invocation) : String := " ".intercalate (c.program :: c.words i)

/-- What becomes of a build, given what its program did if it could be started. -/
def outcome (c : Command) (i : Invocation) : Option Ran → Except Error Int
  | none => .error (.commandFailed (c.describe i))
  | some ran =>
    match ran.ending with
    | .exited code => .ok code
    | .signaled => .error .signaled
    | .interrupted => .error (.user "Build interrupted")

/-- The lines that a build writes to the log, with those of the streams in the given order. -/
def log (c : Command) (i : Invocation) (order : List Stream) (ran? : Option Ran) : List (Level × String) :=
  let lines := match ran? with
    | some ran => forward order (passedOn ran.output) (passedOn ran.errors)
    | none => []
  (.debug, "Executing: " ++ c.describe i) :: lines.map fun (_, line) => (.info, line)

end Command

end BuildCredentials.Build
