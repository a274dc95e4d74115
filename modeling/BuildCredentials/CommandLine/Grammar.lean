/-!
# The grammar of the command line

A command line names a command, perhaps a command below it, and at each level arguments of that level. The
arguments of the first level may also be given at any level below.
-/

set_option autoImplicit false

namespace BuildCredentials.CommandLine

/-- The levels of commands. -/
inductive Level where
  | top
  | build
  | settings
  | print
  | location
  | create
  | assign
  deriving DecidableEq, Repr

/-- What can be given at a level. -/
inductive Argument where
  | verbose
  | settingsPath
  | help
  | version
  | registryFile
  | registryHeader
  | socket
  | engine
  | context
  | engineArgs
  | force
  | key
  | value
  deriving DecidableEq, Repr

/-- What an argument takes. -/
inductive Taking where
  /-- No value; it may be given again. -/
  | counted
  /-- No value. -/
  | nothing
  | text
  /-- A text that is not empty. -/
  | path
  | texts
  deriving DecidableEq, Repr

namespace Argument

/-- What an argument takes. -/
def taking : Argument → Taking
  | verbose => .counted
  | help | version | force => .nothing
  | settingsPath | registryFile | socket | context => .path
  | registryHeader | engine | key | value => .text
  | engineArgs => .texts

/-- Whether an argument is given with a value. -/
def takesValue (a : Argument) : Bool := a.taking ≠ .counted && a.taking ≠ .nothing

end Argument

namespace Level

/-- The name by which a level is entered from the one above. -/
def name : Level → String
  | top => "finchcred"
  | build => "build"
  | settings => "config"
  | print => "show"
  | location => "path"
  | create => "init"
  | assign => "set"

/-- The levels that can be entered from a level. -/
def below : Level → List Level
  | top => [build, settings]
  | settings => [print, location, create, assign]
  | _ => []

/-- The level of this name below a level. -/
def enter? (level : Level) (word : String) : Option Level := level.below.find? (·.name = word)

/-- The word that asks for help at a level with others below it. -/
def helpWord : String := "help"

/-- Whether a word stands for help at a level. -/
def isHelp (level : Level) (word : String) : Bool := level.below ≠ [] && word = helpWord

/-- The names of the levels down to a level. -/
def fullName : Level → String
  | top => "finchcred"
  | build => "finchcred-build"
  | settings => "finchcred-config"
  | print => "finchcred-config-show"
  | location => "finchcred-config-path"
  | create => "finchcred-config-init"
  | assign => "finchcred-config-set"

/-- The long names of a level's own arguments. -/
def ownLong : Level → List (String × Argument)
  | build => [("registry-config", .registryFile), ("registry-config-header", .registryHeader), ("socket", .socket),
      ("engine", .engine)]
  | create => [("force", .force)]
  | _ => []

/-- The long names of the arguments of every level. -/
def commonLong : List (String × Argument) :=
  [("verbose", .verbose), ("config", .settingsPath), ("help", .help), ("version", .version)]

/-- The argument of a long name. -/
def long? (level : Level) (name : String) : Option Argument := (level.ownLong ++ commonLong).lookup name

/-- The letters of a level's own arguments. -/
def ownShort : Level → List (Char × Argument)
  | create => [('f', .force)]
  | _ => []

/-- The letters of the arguments of every level. -/
def commonShort : List (Char × Argument) :=
  [('v', .verbose), ('c', .settingsPath), ('h', .help), ('V', .version)]

/-- The argument of a letter. -/
def short? (level : Level) (letter : Char) : Option Argument := (level.ownShort ++ commonShort).lookup letter

/-- The arguments that are given by their places. -/
def places : Level → List Argument
  | build => [.context]
  | assign => [.key, .value]
  | _ => []

/-- The argument of all words after two dashes, if a level has one. -/
def rest? : Level → Option Argument
  | build => some .engineArgs
  | _ => none

/-- The arguments that have to be given. -/
def required : Level → List Argument
  | assign => [.key, .value]
  | _ => []

/-- Pairs of arguments of which only one may be given. -/
def conflicts : Level → List (Argument × Argument)
  | build => [(.registryFile, .registryHeader)]
  | _ => []

end Level

/-- The version of the program. -/
def programVersion : String := "0.3.0"

/-- Why a command line is no command to run. -/
inductive Fault where
  | argumentConflict
  | invalidValue
  | unknownArgument
  | tooManyValues
  | invalidCommand
  | missingArgument
  | missingCommand
  /-- Nothing is said at all. -/
  | nothingSaid
  | helpAsked
  /-- The version is asked for at a level. -/
  | versionAsked (level : Level)
  deriving DecidableEq, Repr

/-- The exit code of the program for a command line that is no command to run. -/
def Fault.exitCode : Fault → Nat
  | helpAsked | versionAsked _ => 0
  | _ => 2

/-- The text that names the version. -/
def versionText (level : Level) : String := level.fullName ++ " " ++ programVersion ++ "\n"

end BuildCredentials.CommandLine
