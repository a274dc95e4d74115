import Std.Data.ExtTreeMap

/-!
# Files, directories and sockets

A tree holds what stands at each place below the working directory and below the root. Paths are followed name
by name: every name before the last has to be a directory. An operation answers the tree after it, or the
fault for which it left the tree as it was.
-/

set_option autoImplicit false

namespace BuildCredentials

/-- What stands at a place. -/
inductive Node where
  | file (content : List UInt8)
  | directory
  /-- A local socket with its permission bits. -/
  | socket (mode : Nat)
  deriving DecidableEq, Repr

/-- Why an operation on files fails. -/
inductive FileFault where
  | notFound
  | notDirectory
  | isDirectory
  /-- A socket stands where a file is asked for. -/
  | notFile
  | nameTooLong
  | invalidName
  | alreadyThere
  deriving DecidableEq, Repr

/-- The names on the way to a place, from the working directory, or from the root if the first is a slash. -/
abbrev Location := List String

/-- Everything that stands at places. -/
structure FileTree where
  nodes : Std.ExtTreeMap Location Node := ∅
  /-- The absolute path of the working directory. -/
  workdir : String := "/work"
  /-- The place where relative paths start; another one than the working directory while a script is elsewhere. -/
  here : Location := []

namespace FileTree

/-- The most bytes of a name. -/
def nameLimit : Nat := 255

/-- The most bytes of a path. -/
def pathLimit : Nat := 4095

/-- The name of the root. -/
def root : Location := ["/"]

/-- The names of a path; empty ones and single dots mean nothing. -/
def names (path : List Char) : List String :=
  ((path.splitOn '/').filter fun n => n ≠ [] && n ≠ ['.']).map String.ofList

/-- The way from the root to the working directory. -/
def workdirPlace (t : FileTree) : Location := root ++ names t.workdir.toList

/-- What stands at a place; the working directory and those above it are always there. -/
def node? (t : FileTree) (l : Location) : Option Node :=
  if l.isPrefixOf t.workdirPlace then some .directory else t.nodes[l]?

/-- Puts something at a place. -/
def set (t : FileTree) (l : Location) (n : Node) : FileTree := { t with nodes := t.nodes.insert l n }

/-- Takes away what stands at a place. -/
def clear (t : FileTree) (l : Location) : FileTree := { t with nodes := t.nodes.erase l }

/-! ## Paths -/

/-- What is left of a path in the working directory, if its absolute path goes before. -/
def belowWorkdir? (workdir path : List Char) : Option (List Char) :=
  if workdir.isPrefixOf path then
    match path.drop workdir.length with
    | [] => some []
    | '/' :: rest => some rest
    | _ :: _ => none
  else none

/-- Where a path starts and the names to follow from there. -/
def start (t : FileTree) (path : String) : Location × List String :=
  match belowWorkdir? t.workdir.toList path.toList with
  | some rest => ([], names rest)
  | none => (if ['/'].isPrefixOf path.toList then root else t.here, names path.toList)

/-- The path of a place, from the root. -/
def absolutePath (t : FileTree) (l : Location) : String :=
  match l with
  | [] => t.workdir
  | "/" :: names => "/" ++ "/".intercalate names
  | names => t.workdir ++ "/" ++ "/".intercalate names

/-- The place above a place; nothing is above the root. -/
def above (t : FileTree) (l : Location) : Location :=
  if l = [] then t.workdirPlace.dropLast else if l = root then root else l.dropLast

/-- The place one name on. The working directory is one place, from wherever it is reached. -/
def child (t : FileTree) (l : Location) (name : String) : Location :=
  if name = ".." then t.above l
  else if l ++ [name] = t.workdirPlace then []
  else l ++ [name]

/-- Whether a name may be given to anything. -/
def checkName (name : String) : Except FileFault Unit :=
  if nameLimit < name.utf8ByteSize then .error .nameTooLong else .ok ()

/-- Whether a path can be asked for at all. -/
def checkPath (path : String) : Except FileFault Unit :=
  if '\x00' ∈ path.toList then .error .invalidName
  else if pathLimit < path.utf8ByteSize then .error .nameTooLong
  else .ok ()

/-- Whether names can be followed from a place. -/
def checkDirectory (t : FileTree) (l : Location) : Except FileFault Unit :=
  match t.node? l with
  | some .directory => .ok ()
  | some _ => .error .notDirectory
  | none => .error .notFound

/-- The place that names lead to. -/
def follow (t : FileTree) (l : Location) : List String → Except FileFault Location
  | [] => .ok l
  | name :: rest => do
    t.checkDirectory l
    checkName name
    t.follow (t.child l name) rest

/-- Whether the last character of a path is a slash. -/
def endsInSlash (path : String) : Bool := path.toList.getLast? = some '/'

/-- Whether a path asks for a directory: no name stands behind its last slash, or a single dot. -/
def asksDirectory (path : String) : Bool :=
  match (path.toList.splitOn '/').getLast? with
  | some last => last = [] || last = ['.']
  | none => false

/-- The place of a path, which has to be a directory if the path asks for one. -/
def locate (t : FileTree) (path : String) : Except FileFault Location := do
  if path = "" then throw .notFound
  checkPath path
  let (l, ns) := t.start path
  let l ← t.follow l ns
  if asksDirectory path then t.checkDirectory l
  return l

/-- What stands at a path. -/
def lookup (t : FileTree) (path : String) : Except FileFault Node := do
  match t.node? (← t.locate path) with
  | some n => .ok n
  | none => .error .notFound

/-- Whether anything stands at a path. -/
def isThere (t : FileTree) (path : String) : Bool := (t.lookup path).isOk

/-- The names of what stands in a directory, in order. -/
def childNames (t : FileTree) (l : Location) : List String :=
  (t.nodes.keys.filter fun other => other.dropLast = l && other ≠ [] && other ≠ root).filterMap List.getLast?

/-- Whether a path leads to the socket that another path leads to. -/
def leadsTo (t : FileTree) (path other : String) : Bool :=
  match t.locate path, t.locate other with
  | .ok l, .ok m => l = m && match t.node? l with
    | some (.socket _) => true
    | _ => false
  | _, _ => false

/-- The path without its last name, as it is shown; the root and the empty path have none. -/
def parentPath? (path : String) : Option String :=
  let isSlash (c : Char) : Bool := c = '/'
  let rec trim : List Char → List Char
    | '/' :: rest => trim rest
    | '.' :: '/' :: rest => trim ('/' :: rest)
    | cs => cs
  termination_by cs => cs.length
  match trim path.toList.reverse with
  | [] => none
  | cs =>
    let parent := cs.dropWhile (!isSlash ·)
    match parent, trim parent with
    | _ :: _, [] => some "/"
    | _, rest => some (String.ofList rest.reverse)

/-! ## Operations -/

/-- The content of a file. -/
def read (t : FileTree) (path : String) : Except FileFault (List UInt8) := do
  match ← t.lookup path with
  | .file content => .ok content
  | .directory => .error .isDirectory
  | .socket _ => .error .notFile

/-- Changes the content of a file, which is made if it is missing. -/
def modify (t : FileTree) (path : String) (change : List UInt8 → List UInt8) : Except FileFault FileTree := do
  let l ← t.locate path
  match t.node? l with
  | none => .ok (t.set l (.file (change [])))
  | some (.file content) => .ok (t.set l (.file (change content)))
  | some .directory => .error .isDirectory
  | some (.socket _) => .error .notFile

/-- Gives a file a content. -/
def write (t : FileTree) (path : String) (content : List UInt8) : Except FileFault FileTree :=
  t.modify path fun _ => content

/-- Adds to the end of a file. -/
def append (t : FileTree) (path : String) (content : List UInt8) : Except FileFault FileTree :=
  t.modify path (· ++ content)

/-- Makes the directories on the way that names lead from a place, as far as they can be made. -/
def makeWay (t : FileTree) (l : Location) : List String → FileTree × Except FileFault Unit
  | [] => (t, t.checkDirectory l)
  | name :: rest =>
    match t.checkDirectory l, checkName name with
    | .error f, _ => (t, .error f)
    | _, .error f => (t, .error f)
    | .ok (), .ok () =>
      let next := t.child l name
      match t.node? next with
      | none => (t.set next .directory).makeWay next rest
      | some .directory => t.makeWay next rest
      | some _ => (t, .error (if rest = [] then .alreadyThere else .notDirectory))

/-- Makes a directory and those that lead to it. What could be made stays, also on a fault. -/
def makeDirectories (t : FileTree) (path : String) : FileTree × Except FileFault Unit :=
  match checkPath path with
  | .error f => (t, .error f)
  | .ok () =>
    let (l, ns) := t.start path
    t.makeWay l ns

/-- Makes relative paths start at a directory. -/
def enter (t : FileTree) (path : String) : Except FileFault FileTree := do
  let l ← t.locate path
  t.checkDirectory l
  return { t with here := l }

/-- Takes away a file or a socket. -/
def remove (t : FileTree) (path : String) : Except FileFault FileTree := do
  let l ← t.locate path
  match t.node? l with
  | none => .error .notFound
  | some .directory => .error .isDirectory
  | some _ => .ok (t.clear l)

/-- The most bytes of the path of a socket. -/
def socketPathLimit : Nat := 107

/-- Makes a socket where nothing stands yet. -/
def makeSocket (t : FileTree) (path : String) (mode : Nat) : Except FileFault FileTree := do
  if socketPathLimit < path.utf8ByteSize then throw .nameTooLong
  let l ← t.locate path
  match t.node? l with
  | none => .ok (t.set l (.socket mode))
  | some _ => .error .alreadyThere

end FileTree

end BuildCredentials
