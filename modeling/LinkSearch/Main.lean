import LinkSearch.CommandLine.Command
import LinkSearch.Links.DatabaseFile

/-!
# The program

Reads the files that a command may look at into a tree, runs the command in that tree, and writes
the file that the command made, if it made one.
-/

namespace LinkSearch

open CommandLine Files Links

/-- What a file with these bytes holds. -/
def contentOf (bytes : ByteArray) : Content Database :=
  match DatabaseFile.read? bytes with
  | some database => .database database
  | none =>
    match String.fromUTF8? bytes with
    | some s => .text s
    | none => .bytes bytes.size

/-- The place that a path names, read from left to right. -/
def placeOf (cwd : Address) (path : Path) : Address :=
  path.steps.foldl (fun place name => if name = ".." then place.dropLast else place ++ [name])
    (Tree.start cwd path)

/-- A tree with a directory at a place, unless something is there already. -/
def addDirectory (place : Address) (tree : FileTree Database) : FileTree Database :=
  if (tree.get? place).isSome then tree else Tree.set (.directory []) place tree

/-- Adds the file or directory at a path to a tree, if there is one. -/
def addPath (cwd : Address) (tree : FileTree Database) (path : Path) :
    IO (FileTree Database) := do
  let place := placeOf cwd path
  try
    let bytes ← IO.FS.readBinFile place.path.text
    return Tree.set (.file (contentOf bytes)) place tree
  catch
    | .inappropriateType .. => return addDirectory place tree
    | _ => return tree

/-- The home directory, and the settings files that a command may look at. -/
def settingsFiles (here : Surroundings) (config : Option Path) : List Path :=
  here.home.toList ++ here.cwd.path.ancestors.map (·.join Settings.fileName) ++
    (Settings.globalFile here.home).toList ++ config.toList

/-- The paths of the store that a command may look at. -/
def storeFiles (here : Surroundings) (invocation : Invocation) : List Path :=
  let configured := match here.settings invocation.config with
    | .ok settings => settings.store.toList
    | .error _ => []
  let names := match invocation.command with
    | .inquire (.search _ (some db) _ _) => [db]
    | _ => configured
  names.filterMap fun name => StoreName.path? name.text

/-- Where the program runs, with the files that its command may look at. -/
def surroundings (invocation : Invocation) : IO Surroundings := do
  let cwd := (Files.Path.mk (toString (← IO.currentDir))).steps
  let home := (← IO.getEnv "HOME").map Files.Path.mk
  let bare : Surroundings := ⟨addDirectory cwd (.directory []), home, cwd⟩
  let tree ← (settingsFiles bare invocation.config).foldlM (addPath cwd) bare.tree
  let configured : Surroundings := ⟨tree, home, cwd⟩
  let tree ← (storeFiles configured invocation).foldlM (addPath cwd) tree
  return ⟨tree, home, cwd⟩

/-- Writes the settings file that a command has made. -/
def writeNewFile (here : Surroundings) (command : Command) (tree : FileTree Database) :
    IO Unit := do
  match command with
  | .init global _ =>
    if let some path := here.newFile global then
      if let .ok s := tree.readText here.cwd path then
        IO.FS.writeFile path.text s
  | .inquire _ => return

/-- Runs a command; the exit code. -/
def execute (invocation : Invocation) : IO UInt32 := do
  let here ← surroundings invocation
  let (report, tree) := here.run invocation
  if report.succeeded then writeNewFile here invocation.command tree
  IO.print report.output
  IO.eprint report.errors
  return report.exitCode.toUInt32

end LinkSearch

open LinkSearch.CommandLine in
/-- Reads the command line and runs the command. -/
def main (words : List String) : IO UInt32 := do
  match Invocation.read words with
  | .ok invocation => LinkSearch.execute invocation
  | .error error =>
    IO.eprintln error.message
    return error.exitCode.toUInt32
