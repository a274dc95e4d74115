import BuildCredentials.Toml.Document
import BuildCredentials.Toml.Scalar
import BuildCredentials.Toml.Text

/-!
# Statements

A text is a list of statements, one on a line: a table is opened, an item is added to an array of tables, or a
key is given a value. Brackets may be nested up to a limit, and a key has a limited number of names, so that
reading a value recurses on how many brackets may still be opened.
-/

set_option autoImplicit false

namespace BuildCredentials.Toml

/-! ## Keys -/

/-- A character of a name without quotes. -/
def isBare (c : Char) : Bool := c.isAlphanum || c = '_' || c = '-'

/-- Reads one name of a key. -/
def readName : List Char → Reading (List Char)
  | [] => none
  | c :: rest =>
    if c = '"' then Text.readBasic rest
    else if c = '\'' then Text.readLiteral rest
    else if isBare c then some ((c :: rest).takeWhile isBare, (c :: rest).dropWhile isBare)
    else none

/-- Drops blanks within a line. -/
def skipSpaces (s : List Char) : List Char := s.dropWhile isSpace

/-- Reads a key of at most so many names, with points between them. -/
def readNames : Nat → List Char → Option (List String × List Char)
  | 0, _ => none
  | limit + 1, s => do
    let (name, rest) ← readName (skipSpaces s)
    match skipSpaces rest with
    | '.' :: after =>
      let (names, left) ← readNames limit after
      return (String.ofList name :: names, left)
    | after => return ([String.ofList name], after)

/-- The most names of a key. -/
def nameLimit : Nat := 79

/-- Reads a key. -/
def readKey (s : List Char) : Option (Key × List Char) := do
  let (names, rest) ← readNames nameLimit s
  return (← Key.ofNames? names, rest)

/-! ## Values -/

/-- Drops a comment that stands here. -/
def skipComment : List Char → List Char
  | '#' :: rest => rest.dropWhile isPlain
  | s => s

/-- Drops blanks, ends of lines and comments. -/
def skipGap (s : List Char) : List Char :=
  let rest := skipComment (skipBlankLines s)
  if rest.length < s.length then skipGap rest else rest
termination_by s.length

/-- Reads the items of an array, the first bracket being read; a comma may stand after the last one. -/
def readItems (item : List Char → Reading Value) : Nat → List Char → Option (List Value × List Char)
  | 0, _ => none
  | fuel + 1, s =>
    match skipGap s with
    | ']' :: rest => some ([], rest)
    | s => do
      let (v, rest) ← item s
      match skipGap rest with
      | ']' :: after => return ([v], after)
      | ',' :: after =>
        let (vs, left) ← readItems item fuel after
        return (v :: vs, left)
      | _ => none

/-- Reads a key and its value. -/
def readPair (item : List Char → Reading Value) (s : List Char) : Option ((Key × Value) × List Char) := do
  match ← readKey s with
  | (key, '=' :: rest) =>
    let (v, after) ← item (skipSpaces rest)
    return ((key, v), after)
  | _ => none

/-- Reads the pairs of a table on one line, at least one. -/
def readPairs (item : List Char → Reading Value) : Nat → List Char → Option (List (Key × Value) × List Char)
  | 0, _ => none
  | fuel + 1, s => do
    let (pair, rest) ← readPair item s
    match skipSpaces rest with
    | '\x7d' :: after => return ([pair], after)
    | ',' :: after =>
      let (pairs, left) ← readPairs item fuel after
      return (pair :: pairs, left)
    | _ => none

/-- Reads a table on one line, the first bracket being read. -/
def readTable (item : List Char → Reading Value) (s : List Char) : Option (Value × List Char) :=
  match skipSpaces s with
  | '\x7d' :: rest => some (.table [], rest)
  | s => do
    let (pairs, rest) ← readPairs item s.length s
    return (← tableOfPairs? pairs, rest)

/-- Reads a value in which so many brackets may be nested. -/
def readValue : Nat → List Char → Reading Value
  | _, [] => none
  | depth, c :: rest =>
    if c = '"' ∨ c = '\'' then (Text.read (c :: rest)).map fun (cs, after) => (.text (String.ofList cs), after)
    else if c = '[' then
      match depth with
      | 0 => none
      | d + 1 => (readItems (readValue d) (rest.length + 1) rest).map fun (vs, after) => (.array vs, after)
    else if c = '\x7b' then
      match depth with
      | 0 => none
      | d + 1 => readTable (readValue d) rest
    else Scalar.read (c :: rest)

/-- The most brackets that may be nested. -/
def depthLimit : Nat := 79

/-! ## Lines -/

/-- What follows a line that ends here, perhaps with a comment. -/
def endLine? (s : List Char) : Option (List Char) :=
  match skipComment (skipSpaces s) with
  | [] => some []
  | rest => lineEnd? rest

/-- Reads a statement and the end of its line. -/
def readStatement (s : List Char) : Option (Statement × List Char) :=
  match s with
  | '[' :: '[' :: rest => do
    match ← readKey rest with
    | (key, ']' :: ']' :: after) => return (.item key, ← endLine? after)
    | _ => none
  | '[' :: rest => do
    match ← readKey rest with
    | (key, ']' :: after) => return (.table key, ← endLine? after)
    | _ => none
  | s => do
    let ((key, v), after) ← readPair (readValue depthLimit) s
    return (.assign key v, ← endLine? after)

/-- Reads statements to the end, with blank lines and comments between them. -/
def readStatements : Nat → List Char → Option (List Statement)
  | 0, _ => none
  | fuel + 1, s =>
    match skipSpaces s with
    | [] => some []
    | s =>
      match endLine? s with
      | some rest => readStatements fuel rest
      | none => do
        let (statement, rest) ← readStatement s
        return statement :: (← readStatements fuel rest)

/-- Drops the mark that a text may begin with. -/
def dropMark : List Char → List Char
  | '\uFEFF' :: rest => rest
  | s => s

/-- The entries of the table that a text describes, or none if it describes none. -/
def parse (text : String) : Option (List (String × Value)) := do
  let s := dropMark text.toList
  entriesOf? (← readStatements (s.length + 1) s)

end BuildCredentials.Toml
