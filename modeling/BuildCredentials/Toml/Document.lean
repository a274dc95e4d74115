import BuildCredentials.Toml.Value

/-!
# Tables from statements

A table is made by a header of its own, on the way to a deeper header, or by a key with several names, and
only the first may be opened no more and the last added to by such keys. A name that has a value keeps it:
a statement that would change it has no meaning, and neither has the whole text.
-/

set_option autoImplicit false

namespace BuildCredentials.Toml

/-- The names that lead to a place: those of tables, then the last one. -/
structure Key where
  tables : List String
  last : String
  deriving DecidableEq, Repr

/-- The key with these names; there has to be one. -/
def Key.ofNames? : List String → Option Key
  | [] => none
  | [name] => some ⟨[], name⟩
  | name :: rest => (Key.ofNames? rest).map fun k => ⟨name :: k.tables, k.last⟩

/-- What one statement says. -/
inductive Statement where
  /-- Opens a table. -/
  | table (key : Key)
  /-- Opens a new item of an array of tables. -/
  | item (key : Key)
  /-- Gives a key of the open table a value. -/
  | assign (key : Key) (value : Value)
  deriving Repr

/-- How a table came about. -/
inductive Origin where
  | header
  /-- On the way to the table of a deeper header. -/
  | passed
  /-- By a key with several names. -/
  | dotted
  deriving DecidableEq, Repr

/-- What stands at a name. -/
inductive Item where
  | value (v : Value)
  | table (origin : Origin) (entries : List (String × Item))
  /-- The items of an array of tables, the last one apart. -/
  | tables (earlier : List (List (String × Item))) (last : List (String × Item))

/-- Items and their names, which are distinct. -/
abbrev Entries := List (String × Item)

/-- Puts an item at a name, in the place of an earlier one. -/
def Entries.set (name : String) (item : Item) : Entries → Entries
  | [] => [(name, item)]
  | (other, i) :: rest => if other = name then (name, item) :: rest else (other, i) :: Entries.set name item rest

/-- Gives a key a value, from the table whose entries these are. -/
def Entries.assign (entries : Entries) (names : List String) (last : String) (v : Value) : Option Entries :=
  match names with
  | [] =>
    match entries.lookup last with
    | none => some (entries.set last (.value v))
    | some _ => none
  | name :: rest =>
    match entries.lookup name with
    | none => (Entries.assign [] rest last v).map fun es => entries.set name (.table .dotted es)
    | some (.table .dotted inner) =>
      (Entries.assign inner rest last v).map fun es => entries.set name (.table .dotted es)
    | some (.table .passed inner) =>
      if rest = [] then none
      else (Entries.assign inner rest last v).map fun es => entries.set name (.table .passed es)
    | some (.tables earlier inner) =>
      if rest = [] then none
      else (Entries.assign inner rest last v).map fun es => entries.set name (.tables earlier es)
    | some (.table .header _) | some (.value _) => none

/-- Changes the table that names lead to; tables that are missing on the way are made. -/
def Entries.at (change : Entries → Option Entries) (entries : Entries) : List String → Option Entries
  | [] => change entries
  | name :: rest =>
    match entries.lookup name with
    | none => (Entries.at change [] rest).map fun es => entries.set name (.table .passed es)
    | some (.table origin inner) => (Entries.at change inner rest).map fun es => entries.set name (.table origin es)
    | some (.tables earlier inner) => (Entries.at change inner rest).map fun es => entries.set name (.tables earlier es)
    | some (.value _) => none

/-- Opens a table by its header. -/
def Entries.openTable (last : String) (entries : Entries) : Option Entries :=
  match entries.lookup last with
  | none => some (entries.set last (.table .header []))
  | some (.table .passed inner) => some (entries.set last (.table .header inner))
  | some _ => none

/-- Opens a new item of an array of tables. -/
def Entries.openItem (last : String) (entries : Entries) : Option Entries :=
  match entries.lookup last with
  | none => some (entries.set last (.tables [] []))
  | some (.tables earlier inner) => some (entries.set last (.tables (earlier ++ [inner]) []))
  | some _ => none

/-- What is described so far, and the names of the open table. -/
structure Progress where
  entries : Entries := []
  current : List String := []

/-- Follows one statement. -/
def Progress.step (p : Progress) : Statement → Option Progress
  | .table key => do
    return { entries := ← p.entries.at (Entries.openTable key.last) key.tables, current := key.tables ++ [key.last] }
  | .item key => do
    return { entries := ← p.entries.at (Entries.openItem key.last) key.tables, current := key.tables ++ [key.last] }
  | .assign key v => do
    return { p with entries := ← p.entries.at (fun es => es.assign key.tables key.last v) p.current }

mutual

/-- The value that an item amounts to. -/
def Item.toValue : Item → Value
  | .value v => v
  | .table _ entries => .table (toValues entries)
  | .tables earlier last => .array (toTables earlier ++ [.table (toValues last)])

/-- The values of entries. -/
def toValues : List (String × Item) → List (String × Value)
  | [] => []
  | (name, item) :: rest => (name, item.toValue) :: toValues rest

/-- The values of items of an array of tables. -/
def toTables : List (List (String × Item)) → List Value
  | [] => []
  | entries :: rest => .table (toValues entries) :: toTables rest

end

/-- The entries that statements describe. -/
def entriesOf? (statements : List Statement) : Option (List (String × Value)) :=
  (statements.foldlM Progress.step {}).map fun p => toValues p.entries

/-- The table that pairs on one line describe. -/
def tableOfPairs? (pairs : List (Key × Value)) : Option Value :=
  let step (entries : Entries) (pair : Key × Value) : Option Entries :=
    entries.assign pair.1.tables pair.1.last pair.2
  (pairs.foldlM step []).map fun entries => .table (toValues entries)

end BuildCredentials.Toml
