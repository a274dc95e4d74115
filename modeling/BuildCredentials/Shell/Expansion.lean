import BuildCredentials.Shell.Arithmetic
import BuildCredentials.Shell.Machine
import BuildCredentials.Shell.Pattern

/-!
# Expansion of words

A word becomes any number of fields. Text from parameters and commands is split at blanks outside of quotes,
and a field with a pattern outside of quotes becomes the names of files that it matches, if there are any.

It is there for engines that are scripts, like all of `Shell`.
-/

set_option autoImplicit false

namespace BuildCredentials.Shell

/-- A field whose characters are each quoted or not. -/
abbrev Field := List (Char × Bool)

/-- The text of a field. -/
def Field.text (f : Field) : String := String.ofList (f.map (·.1))

/-- The fields so far, and the one that is being put together. -/
structure Fields where
  done : List Field := []
  current? : Option Field := none

namespace Fields

/-- Adds text to the current field. -/
def add (fs : Fields) (quoted : Bool) (text : List Char) : Fields :=
  { fs with current? := some (fs.current?.getD [] ++ text.map (·, quoted)) }

/-- Ends the current field, if there is one. -/
def close (fs : Fields) : Fields :=
  match fs.current? with
  | some f => { done := fs.done ++ [f] }
  | none => fs

/-- Adds text that is split at separators. -/
def split (fs : Fields) (separators : List Char) : List Char → Fields
  | [] => fs
  | c :: rest =>
    if separators.contains c then
      if c = ' ' || c = '\t' || c = '\n' then fs.close.split separators rest
      else ({ fs with current? := some (fs.current?.getD []) } : Fields).close.split separators rest
    else (fs.add false [c]).split separators rest

/-- All fields. -/
def toList (fs : Fields) : List Field := fs.close.done

end Fields

/-- How text from parameters and commands is taken. -/
structure Taking where
  quoted : Bool
  /-- The characters to split at; none in places that take one field. -/
  separators : List Char

/-- Adds text as it is taken. -/
def Fields.take (fs : Fields) (t : Taking) (text : String) : Fields :=
  if t.quoted then fs.add true text.toList
  else if t.separators = [] then fs.add false text.toList
  else fs.split t.separators text.toList

/-- Adds a list of texts, each a field of its own. -/
def Fields.takeAll (fs : Fields) (t : Taking) : List String → Fields
  | [] => fs
  | [text] => fs.take t text
  | text :: rest => ((fs.take t text).close).takeAll t rest

/-- The characters that fields are split at. -/
def separatorsOf (p : Process) : List Char := ((p.value? "IFS").getD " \t\n").toList

/-- The numbers of variables that have one. -/
def numbersOf (p : Process) : Arithmetic.Values :=
  p.vars.filterMap fun (name, v) => (Arithmetic.ofText? v.value).map (name, ·)

/-- Sets the variables whose numbers changed. -/
def withNumbers (p : Process) (before after : Arithmetic.Values) : Process :=
  let changed := after.take (after.length - before.length)
  changed.reverse.foldl (fun p (name, n) => p.assign name (toString n)) p

/-- The value of a parameter after it is changed by a pattern. -/
def cutBy (pattern : Field) (atEnd longest : Bool) (value : String) : String :=
  let p := Pattern.ofChars pattern
  String.ofList (if atEnd then p.cutEnd longest value.toList else p.cutFront longest value.toList)

section

variable {σ : Type} (output : Command → On σ (Option String))

/-- Adds the fields of parts; none after a fault, which has been reported. -/
def expandParts (splits : Bool) : Nat → List Part → Fields → On σ (Option Fields)
  | 0, _, _ => return none
  | _, [], fs => return some fs
  | fuel + 1, part :: rest, fs => do
    let m ← get
    let taking (quoted : Bool) : Taking := ⟨quoted, if splits then separatorsOf m.process else []⟩
    let one (word : List Part) : On σ (Option Field) := do
      match ← expandParts false fuel word {} with
      | some fields => return some (fields.current?.getD [])
      | none => return none
    match part with
    | .literal text quoted => expandParts splits fuel rest (fs.add quoted text)
    | .output script quoted =>
      match ← output script with
      | some text => expandParts splits fuel rest (fs.take (taking quoted) text)
      | none => return none
    | .arithmetic expression quoted =>
      match ← one expression with
      | none => return none
      | some field =>
        let m ← get
        let values := numbersOf m.process
        match Arithmetic.evaluate (field.map (·.1)) values with
        | .ok (n, after) =>
          modify (·.onProcess fun p => withNumbers p values after)
          expandParts splits fuel rest (fs.take (taking quoted) (toString n))
        | .error fault =>
          modify (·.complain ("arithmetic expression: " ++ fault.message ++ ": \"" ++ field.text ++ "\""))
          return none
    | .parameter name change orEmpty word quoted =>
      let t := taking quoted
      if name = "@" ∨ name = "*" then
        let args := m.process.args
        if change = .length then expandParts splits fuel rest (fs.take t (toString args.length))
        else if change ≠ .asIs ∧ args = [] then
          match change with
          | .standIn => expandParts splits fuel (word ++ rest) fs
          | _ => expandParts splits fuel rest fs
        else if name = "*" ∧ quoted then
          let joint := String.ofList ((separatorsOf m.process).take 1)
          expandParts splits fuel rest (fs.take t (joint.intercalate args))
        else if !splits then expandParts splits fuel rest (fs.take t (" ".intercalate args))
        else expandParts splits fuel rest (fs.takeAll t args)
      else
        let value? := m.process.parameter? name
        let there := if orEmpty then value?.any (· ≠ "") else value?.isSome
        let value := value?.getD ""
        let needed : Bool := match change with
          | .asIs | .length | .cut _ _ => true
          | _ => false
        if needed && value?.isNone && m.process.demandsValues then
          modify (·.complain (name ++ ": parameter not set"))
          return none
        match change with
        | .asIs =>
          let fs := if value = "" ∧ !quoted then fs else fs.take t value
          expandParts splits fuel rest fs
        | .length => expandParts splits fuel rest (fs.take t (toString value.length))
        | .standIn =>
          if there then expandParts splits fuel rest (fs.take t value)
          else expandParts splits fuel (word ++ rest) fs
        | .whenSet =>
          if there then expandParts splits fuel (word ++ rest) fs else expandParts splits fuel rest fs
        | .assign =>
          if there then expandParts splits fuel rest (fs.take t value)
          else
            match ← one word with
            | none => return none
            | some field =>
              modify (·.onProcess (·.assign name field.text))
              expandParts splits fuel rest (fs.take t field.text)
        | .demand =>
          if there then expandParts splits fuel rest (fs.take t value)
          else
            match ← one word with
            | none => return none
            | some field =>
              let usual := if orEmpty then "parameter not set or null" else "parameter not set"
              modify (·.complain (name ++ ": " ++ if word = [] then usual else field.text))
              return none
        | .cut atEnd longest =>
          match ← one word with
          | none => return none
          | some field =>
            let cut := cutBy field atEnd longest value
            let fs := if cut = "" ∧ !quoted then fs else fs.take t cut
            expandParts splits fuel rest fs

/-- The one field of a word in a place that takes one. -/
def expandField (fuel : Nat) (word : Word) : On σ (Option Field) := do
  match ← expandParts output false fuel word {} with
  | some fields => return some (fields.current?.getD [])
  | none => return none

/-- The text of a word in a place that takes one. -/
def expandText (fuel : Nat) (word : Word) : On σ (Option String) := do
  return (← expandField output fuel word).map Field.text

/-- The names of files that a pattern matches, or the pattern itself if there are none. -/
def matchFiles (files : FileTree) (field : Field) : List String :=
  let pattern := Pattern.ofChars field
  if !pattern.isWild then [field.text]
  else
    let shown (name : String) : Bool := name.toList.head? ≠ some '.' || field.head?.any (·.1 = '.')
    match (files.childNames files.here).filter fun name => shown name && pattern.accepts name.toList with
    | [] => [field.text]
    | names => names

/-- The texts of all fields of words. -/
def expandWords (fuel : Nat) : List Word → On σ (Option (List String))
  | [] => return some []
  | word :: rest => do
    match ← expandParts output true fuel word {} with
    | none => return none
    | some fields =>
      let m ← get
      let texts := fields.toList.flatMap (matchFiles m.files)
      return (← expandWords fuel rest).map (texts ++ ·)

end

end BuildCredentials.Shell
