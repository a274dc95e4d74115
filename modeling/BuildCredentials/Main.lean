import BuildCredentials.Program.Run

/-!
# The command line

The files that a run may read are put into a tree, the run is computed, and what changed in the tree is written
back. Called by the name of the helper, the program is the helper.
-/

set_option autoImplicit false

namespace BuildCredentials.Main

/-- The variables that are looked at. -/
def names : List String := [
  "HOME", "XDG_CONFIG_HOME", "XDG_STATE_HOME", Settings.pathVariable, Helper.buildVariable, Helper.socketVariable]

/-- The variables that are set. -/
def readVariables : IO Helper.Variables :=
  names.filterMapM fun name => return (← IO.getEnv name).map (name, ·)

/-- Puts a file into a tree, if it can be read. -/
def readFile (files : FileTree) (path : String) : IO FileTree := do
  try
    let bytes ← IO.FS.readBinFile path
    let files := match FileTree.parentPath? path with
      | some parent => (files.makeDirectories parent).1
      | none => files
    return (files.write path bytes.data.toList).toOption.getD files
  catch _ => return files

/-- Writes what is new or has changed in a tree. -/
def writeChanges (before after : FileTree) : IO Unit := do
  for (place, node) in after.nodes.toList do
    if before.nodes[place]? ≠ some node then
      let path := after.absolutePath place
      match node with
      | .file content => IO.FS.writeBinFile path ⟨content.toArray⟩
      | .directory => IO.FS.createDirAll path
      | .socket _ => pure ()

/-- The files that a run may read. -/
def pathsRead (files : FileTree) (vars : Helper.Variables) (words : List String) : List String :=
  match CommandLine.Command.read words (vars.lookup Settings.pathVariable) with
  | .error _ => []
  | .ok c =>
    let registry := match c.action with
      | .build o => o.registryFile?.toList
      | .settings _ => []
    c.settingsPath?.getD (Settings.usualPath files vars) :: registry

/-- The tree in which nothing stands yet. -/
def emptyTree : IO FileTree := return { workdir := (← IO.currentDir).toString }

/-- Runs the program. -/
def runProgram (words : List String) : IO UInt32 := do
  let vars ← readVariables
  let empty ← emptyTree
  let files ← (pathsRead empty vars words).foldlM readFile empty
  let fresh := Build.idOfBytes (← IO.getRandomBytes (USize.ofNat Build.idBytes)).data.toList
  let finish := Program.run {
    files, vars, words, helper := "docker-credential-finch", fresh, time := toString (← IO.monoMsNow) }
  writeChanges files finish.files
  IO.print finish.output
  IO.eprint (finish.errors ++ Program.complaint finish.result)
  return UInt32.ofNat (Program.exitCode finish.result)

/-- Runs the helper, which no daemon answers here. -/
def runHelper (words : List String) : IO UInt32 := do
  let vars ← readVariables
  let empty ← emptyTree
  let files ← readFile empty (Helper.settingsPath empty vars)
  let input ← (← IO.getStdin).readBinToEnd
  let call := Helper.call files vars (fun _ => none) words input.data.toList
  IO.print call.output
  IO.eprint call.errors
  return if call.success then 0 else 1

end BuildCredentials.Main

/-- Runs the program, or the helper if that is what it is called. -/
def main (words : List String) : IO UInt32 := do
  if (← IO.appPath).fileName = some "docker-credential-finch" then BuildCredentials.Main.runHelper words
  else BuildCredentials.Main.runProgram words
