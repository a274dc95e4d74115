/-!
# Scripts

The command language in which engines are often written: words are put together from texts, parameters and the
output of commands, and commands are combined into pipelines, lists and loops.

Engines are programs outside of this development, named by whoever runs a build. So that such a build can be run to its
end, the modules of `Shell` stand for the machine that engines run on: `Program.engine` makes an engine of a script, or
of a tool, with them. Nothing is proved of scripts: statements about builds are about every `Build.Engine`.
-/

set_option autoImplicit false

namespace BuildCredentials.Shell

/-- What becomes of the value of a parameter. -/
inductive Change where
  | asIs
  | length
  /-- The word stands in for a missing value. -/
  | standIn
  /-- The word becomes the value if it is missing. -/
  | assign
  /-- A missing value is a fault, with the word as its message. -/
  | demand
  /-- The word stands in for a value that is there. -/
  | whenSet
  /-- A pattern is cut off at the front or at the end, in its shortest or its longest match. -/
  | cut (atEnd longest : Bool)
  deriving DecidableEq, Repr

/-- Where a redirection leads. -/
inductive Direction where
  | read
  | write
  | append
  /-- To where another descriptor leads. -/
  | copy
  deriving DecidableEq, Repr

mutual

/-- A part of a word. Quoted parts are neither split nor matched against file names. -/
inductive Part where
  | literal (text : List Char) (quoted : Bool)
  /-- A parameter; with `orEmpty`, an empty value counts as missing. -/
  | parameter (name : String) (change : Change) (orEmpty : Bool) (word : List Part) (quoted : Bool)
  | output (script : Command) (quoted : Bool)
  | arithmetic (expression : List Part) (quoted : Bool)

/-- A redirection of a descriptor. -/
inductive Redirection where
  | mk (descriptor : Nat) (direction : Direction) (target : List Part)

/-- A command. -/
inductive Command where
  | nothing
  | simple (assignments : List (String × List Part)) (words : List (List Part)) (redirections : List Redirection)
  | pipeline (negated : Bool) (commands : List Command)
  | both (first second : Command)
  | either (first second : Command)
  | sequence (first second : Command)
  | apart (command : Command)
  | subshell (body : Command) (redirections : List Redirection)
  | group (body : Command) (redirections : List Redirection)
  | conditional (test body otherwise : Command) (redirections : List Redirection)
  | loop (untilTrue : Bool) (test body : Command) (redirections : List Redirection)
  | each (name : String) (words : Option (List (List Part))) (body : Command) (redirections : List Redirection)
  | choose (word : List Part) (branches : List (List (List Part) × Command)) (redirections : List Redirection)
  | define (name : String) (body : Command)

end

/-- A word. -/
abbrev Word := List Part

end BuildCredentials.Shell
