import BuildCredentials.Bytes.Utf8
import BuildCredentials.FileTree

/-!
# What tools do

Tools are the small programs that scripts are made of. A tool gets its arguments, its input and the files, and
answers the files after it, its output, its messages and its exit code.

Engines that are scripts start them, and `Program.engine` may name one itself; no statement is about a tool.
-/

set_option autoImplicit false

namespace BuildCredentials.Shell

/-- What a tool did. -/
structure Tool.Done where
  files : FileTree
  output : List UInt8 := []
  errors : List UInt8 := []
  status : Nat := 0

/-- A tool. -/
abbrev Tool := List String → List UInt8 → FileTree → Tool.Done

namespace Tool

/-- Bytes of a message of a tool. -/
def message (name text : String) : List UInt8 := Utf8.encode (name ++ ": " ++ text ++ "\n")

/-- The lines of bytes, without their ends. -/
def linesOf (bytes : List UInt8) : List (List UInt8) :=
  let lines := bytes.splitOn 10
  if lines.getLast? = some [] then lines.dropLast else lines

/-- Lines with their ends. -/
def joinLines (lines : List (List UInt8)) : List UInt8 := lines.flatMap (· ++ [10])

/-- Arguments that begin with a dash, and the others. -/
def splitOptions (args : List String) : List String × List String :=
  args.partition fun a => a.toList.head? = some '-' && a ≠ "-"

/-- What a file is refused for. -/
def reasonOf : FileFault → String
  | .isDirectory => "Is a directory"
  | .notDirectory => "Not a directory"
  | .alreadyThere => "File exists"
  | .nameTooLong => "File name too long"
  | .notFile => "No such device or address"
  | .notFound | .invalidName => "No such file or directory"

/-- What a tool says of a file that it cannot read. -/
def unreadable (name path : String) (f : FileFault) : List UInt8 :=
  if f = .isDirectory ∧ ["head", "tail"].contains name then
    message name ("error reading '" ++ path ++ "': " ++ reasonOf f)
  else if name = "sort" then
    message name ((if f = .isDirectory then "read failed: " else "cannot read: ") ++ path ++ ": " ++ reasonOf f)
  else if ["head", "tail"].contains name then
    message name ("cannot open '" ++ path ++ "' for reading: " ++ reasonOf f)
  else message name (path ++ ": " ++ reasonOf f)

/-- The content of the files named, or the input if none is; messages for those that cannot be read. -/
def gather (name : String) (paths : List String) (input : List UInt8) (files : FileTree) :
    List UInt8 × List UInt8 :=
  if paths = [] then (input, [])
  else paths.foldl (fun (content, errors) path =>
    if path = "-" then (content ++ input, errors)
    else if path = "/dev/null" then (content, errors)
    else match files.read path with
      | .ok bytes => (content ++ bytes, errors)
      | .error f => (content, errors ++ unreadable name path f)) ([], [])

/-- A tool that turns the content of files into output. -/
def filter (name : String) (paths : List String) (work : List UInt8 → List UInt8 × Nat) (input : List UInt8)
    (files : FileTree) : Done :=
  let (content, errors) := gather name paths input files
  let (output, status) := work content
  { files, output, errors
    status := if errors = [] then status else if ["sort", "grep"].contains name then 2 else 1 }

end Tool

end BuildCredentials.Shell
