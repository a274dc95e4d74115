import BuildCredentials.CommandLine.Grammar

/-!
# Reading the words of a command line

Words are read in order, level by level. An argument whose value is the next word, or one given by its place,
is settled only when the next argument of its level comes or the level ends, and a level ends only after the
levels below it: of two faults, the deeper one is reported.
-/

set_option autoImplicit false

namespace BuildCredentials.CommandLine

/-- What a level has been given so far. -/
structure Scan where
  /-- Settled arguments with their values. -/
  given : List (Argument × List String) := []
  /-- The argument that is not settled yet, with the values that came for it. -/
  pending? : Option (Argument × List String) := none
  /-- Whether the next word is a value of the argument that is not settled yet. -/
  awaiting : Bool := false
  /-- Whether two dashes came, after which no word is an option or a command. -/
  ended : Bool := false
  /-- How many arguments were given by their places. -/
  placed : Nat := 0
  deriving Repr

namespace Scan

/-- The greatest count of an argument that may be given again. -/
def countLimit : Nat := 255

/-- How often a counted argument was given. -/
def count (s : Scan) (a : Argument) : Nat := min countLimit (s.given.filter (·.1 = a)).length

/-- Whether an argument was given. -/
def has (s : Scan) (a : Argument) : Bool := s.given.any (·.1 = a)

/-- The values of an argument. -/
def values (s : Scan) (a : Argument) : List String := (s.given.lookup a).getD []

/-- The value of an argument. -/
def value? (s : Scan) (a : Argument) : Option String := (s.values a).head?

/-- Whether values are fit for an argument. -/
def fits (a : Argument) (values : List String) : Bool := a.taking ≠ .path || values.all (· ≠ "")

/-- Records an argument with its values. -/
def record (s : Scan) (a : Argument) (values : List String) : Except Fault Scan :=
  if a.takesValue ∧ values = [] then .error .invalidValue
  else if a.taking ≠ .counted ∧ s.has a then .error .argumentConflict
  else if !fits a values then .error .invalidValue
  else .ok { s with given := s.given ++ [(a, values)] }

/-- Settles the argument that is not settled yet. -/
def settle (s : Scan) : Except Fault Scan :=
  match s.pending? with
  | none => .ok s
  | some (a, values) => { s with pending? := none, awaiting := false }.record a values

/-- Takes an argument that needs no further word. -/
def take (level : Level) (s : Scan) (a : Argument) (values : List String) : Except Fault Scan := do
  let s ← s.settle
  match a with
  | .help => .error .helpAsked
  | .version => .error (.versionAsked level)
  | _ => s.record a values

/-- Takes an argument whose value is the next word. -/
def await (s : Scan) (a : Argument) : Except Fault Scan := do
  let s ← s.settle
  return { s with pending? := some (a, []), awaiting := true }

/-- Takes an option by its long name, with the text after an equals sign. -/
def long (level : Level) (s : Scan) (name : String) (attached? : Option String) : Except Fault Scan :=
  match level.long? name, attached? with
  | none, _ => .error .unknownArgument
  | some a, some v => if a.takesValue then s.take level a [v] else .error .tooManyValues
  | some a, none => if a.takesValue then s.await a else s.take level a []

/-- Takes options by their letters; the first that takes a value takes the rest of the word. -/
def short (level : Level) (s : Scan) : List Char → Except Fault Scan
  | [] => .ok s
  | c :: rest =>
    match level.short? c with
    | none => .error .unknownArgument
    | some a =>
      if !a.takesValue then (s.take level a []).bind fun s => s.short level rest
      else match rest with
        | [] => s.await a
        | '=' :: attached => s.take level a [String.ofList attached]
        | _ => s.take level a [String.ofList rest]

/-- Takes a word as the argument of the next place, or among the words after two dashes. -/
def place (level : Level) (s : Scan) (word : String) : Except Fault Scan :=
  match s.ended, level.rest? with
  | true, some a =>
    match s.pending? with
    | some (b, values) =>
      if a = b then .ok { s with pending? := some (a, values ++ [word]) }
      else s.settle.map fun s => { s with pending? := some (a, [word]) }
    | none => .ok { s with pending? := some (a, [word]) }
  | _, _ =>
    match level.places[s.placed]? with
    | some a => s.settle.map fun s => { s with pending? := some (a, [word]), placed := s.placed + 1 }
    | none =>
      if level.below = [] ∨ (s.ended ∧ ((level.enter? word).isSome ∨ level.isHelp word)) then .error .unknownArgument
      else .error .invalidCommand

/-- The text before the first equals sign, and the text after it. -/
def splitAttached (cs : List Char) : String × Option String :=
  (String.ofList (cs.takeWhile (· ≠ '=')), (cs.dropWhile (· ≠ '=')).tail?.map String.ofList)

/-- Takes a word that is no command. -/
def word (level : Level) (s : Scan) (w : String) : Except Fault Scan :=
  let plain : Except Fault Scan :=
    if s.awaiting then
      .ok { s with pending? := s.pending?.map fun (a, values) => (a, values ++ [w]), awaiting := false }
    else s.place level w
  if s.ended then s.place level w
  else match w.toList with
    | ['-', '-'] => .ok { s with ended := true }
    | '-' :: '-' :: cs =>
      let (name, attached?) := splitAttached cs
      s.long level name attached?
    | '-' :: c :: cs => s.short level (c :: cs)
    | _ => plain

/-- Checks what a level was given as a whole. -/
def check (level : Level) (s : Scan) (environment? : Option String) (entered : Bool) : Except Fault Scan := do
  let s ← s.settle
  if !s.has .settingsPath ∧ environment? = some "" then throw .invalidValue
  if level = .top ∧ !entered then
    throw (if s.given = [] ∧ environment?.isNone then .nothingSaid else .missingCommand)
  if level.conflicts.any fun (a, b) => s.has a && s.has b then throw .argumentConflict
  if level.required.any fun a => !s.has a then throw .missingArgument
  return s

end Scan

/-- What follows a word that asks for help: the names of levels, down to the one that help is asked for. -/
def helpFault : Option Level → List String → Fault
  | _, [] => .helpAsked
  | none, _ :: _ => .invalidCommand
  | some level, word :: rest =>
    if level.isHelp word then helpFault none rest
    else match level.enter? word with
      | some next => helpFault (some next) rest
      | none => .invalidCommand

/-- What each level was given, from a level down to the deepest that is entered. -/
def scan (environment? : Option String) (level : Level) (s : Scan) :
    List String → Except Fault (List (Level × Scan))
  | [] => (s.check level environment? false).map fun s => [(level, s)]
  | word :: rest =>
    let mayEnter := !s.ended && !s.awaiting
    if mayEnter && level.isHelp word then .error (helpFault (some level) rest)
    else match (if mayEnter then level.enter? word else none) with
      | some next => do
        let below ← scan environment? next {} rest
        let s ← s.check level environment? true
        return (level, s) :: below
      | none => (s.word level word).bind fun s => scan environment? level s rest

end BuildCredentials.CommandLine
