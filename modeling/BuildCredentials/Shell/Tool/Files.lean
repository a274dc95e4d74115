import BuildCredentials.Shell.Tool.Basic

/-!
# Tools for files

These tools make, take away, list and copy files.

Engines that are scripts start them.
-/

set_option autoImplicit false

namespace BuildCredentials.Shell.Tool

/-- Makes directories. -/
def mkdir : Tool := fun args _ files =>
  let (options, paths) := splitOptions args
  paths.foldl (fun d path =>
    if !options.contains "-p" && d.files.isThere path then
      { d with errors := d.errors ++ message "mkdir" ("cannot create directory '" ++ path ++ "': File exists"), status := 1 }
    else match d.files.makeDirectories path with
      | (files, .ok ()) => { d with files }
      | (files, .error f) =>
        { d with files, status := 1
                 errors := d.errors ++ message "mkdir" ("cannot create directory '" ++ path ++ "': " ++ reasonOf f) })
    { files }

/-- Takes files away. -/
def rm : Tool := fun args _ files =>
  let (options, paths) := splitOptions args
  let force := options.any fun o => o.toList.contains 'f'
  paths.foldl (fun d path =>
    match d.files.remove path with
    | .ok files => { d with files }
    | .error .notFound =>
      if force then d
      else { d with status := 1
                    errors := d.errors ++ message "rm" ("cannot remove '" ++ path ++ "': No such file or directory") }
    | .error f =>
      { d with status := 1, errors := d.errors ++ message "rm" ("cannot remove '" ++ path ++ "': " ++ reasonOf f) })
    { files }

/-- Makes files that are missing. -/
def touch : Tool := fun args _ files =>
  (splitOptions args).2.foldl (fun d path =>
    match d.files.append path [] with
    | .ok files => { d with files }
    | .error f =>
      { d with status := 1, errors := d.errors ++ message "touch" ("cannot touch '" ++ path ++ "': " ++ reasonOf f) })
    { files }

/-- The names that stand in a directory and are shown. -/
def shownNames (files : FileTree) (path : String) (hidden : Bool) : List String :=
  match files.locate path with
  | .ok l => (files.childNames l).filter fun name => hidden || name.toList.head? ≠ some '.'
  | .error _ => []

/-- Lists files and what stands in directories. -/
def ls : Tool := fun args _ files =>
  let (options, paths) := splitOptions args
  let hidden := options.any fun o => o.toList.contains 'A'
  let paths := if paths = [] then ["."] else paths
  let failed := paths.filter fun path => !files.isThere path
  let isDirectory (path : String) : Bool := (files.lookup path).toOption = some .directory
  let plain := paths.filter fun path => files.isThere path && !isDirectory path
  let listed := (paths.filter isDirectory).map fun path =>
    let names := (shownNames files path hidden).map (· ++ "\n")
    (if 1 < paths.length then path ++ ":\n" else "") ++ String.join names
  let blocks := (if plain = [] then [] else [String.join (plain.map (· ++ "\n"))]) ++ listed
  { files, output := Utf8.encode ("\n".intercalate blocks), status := if failed = [] then 0 else 2
    errors := failed.flatMap fun path =>
      message "ls" ("cannot access '" ++ path ++ "': No such file or directory") }

/-- The last name of a path. -/
def lastName (path : String) : String :=
  let kept := (path.toList.reverse.dropWhile (· = '/')).takeWhile (· ≠ '/')
  if kept = [] ∧ path ≠ "" then "/" else String.ofList kept.reverse

/-- Where something goes that is brought to a path: into it, if it is a directory. -/
def destination (files : FileTree) (source target : String) : String :=
  if (files.lookup target).toOption = some .directory then target ++ "/" ++ lastName source else target

/-- Copies a file, or moves it. -/
def bring (name : String) (keeps : Bool) : Tool := fun args _ files =>
  match (splitOptions args).2 with
  | [source, target] =>
    match files.read source with
    | .error f =>
      { files, status := 1
        errors := message name ("cannot stat '" ++ source ++ "': " ++ reasonOf f) }
    | .ok content =>
      match files.write (destination files source target) content with
      | .error f =>
        { files, status := 1
          errors := message name ("cannot create regular file '" ++ target ++ "': " ++ reasonOf f) }
      | .ok written => { files := if keeps then written else (written.remove source).toOption.getD written }
  | _ => { files, errors := message name "missing file operand", status := 1 }

/-- Copies the input to the output and to files. -/
def tee : Tool := fun args input files =>
  let (options, paths) := splitOptions args
  let adding := options.contains "-a"
  let after := paths.foldl (fun (t : FileTree) path =>
    ((if adding then t.append path input else t.write path input).toOption).getD t) files
  { files := after, output := input }

/-- Writes the last name of a path, without an ending. -/
def basename : Tool := fun args _ files =>
  match args with
  | [] => { files, errors := message "basename" "missing operand", status := 1 }
  | path :: rest =>
    let name := lastName path
    let ending := rest.headD ""
    let cut := if ending ≠ "" ∧ ending ≠ name ∧ ending.toList.isSuffixOf name.toList then
        String.ofList (name.toList.take (name.length - ending.length))
      else name
    { files, output := Utf8.encode (cut ++ "\n") }

/-- Writes a path without its last name. -/
def dirname : Tool := fun args _ files =>
  match args with
  | [] => { files, errors := message "dirname" "missing operand", status := 1 }
  | path :: _ =>
    let parent := match FileTree.parentPath? path with
      | none => if path.toList.head? = some '/' then "/" else "."
      | some parent => if parent = "" then "." else parent
    { files, output := Utf8.encode (parent ++ "\n") }

/-- The permission bits of a node, where files and directories have the usual ones. -/
def modeOf : Node → Nat
  | .file _ => 0o644
  | .directory => 0o755
  | .socket mode => mode

/-- Writes the permission bits of files. -/
def stat : Tool := fun args _ files =>
  match args with
  | "-c" :: "%a" :: paths =>
    paths.foldl (fun d path =>
      match files.lookup path with
      | .ok node =>
        { d with output := d.output ++ Utf8.encode (String.ofList (Nat.toDigits 8 (modeOf node)) ++ "\n") }
      | .error f =>
        { d with status := 1
                 errors := d.errors ++ message "stat" ("cannot stat '" ++ path ++ "': " ++ reasonOf f) })
      { files }
  | _ => { files, errors := message "stat" "missing operand", status := 1 }

end BuildCredentials.Shell.Tool
