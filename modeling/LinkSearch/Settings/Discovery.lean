import LinkSearch.Files.Content
import LinkSearch.Settings.Basic

/-!
# Which settings apply

The settings of a directory are in the nearest settings file, in the directory itself or above it;
where there is none, in that of the home directory.  A directory with the name of a settings file is
passed over.
-/

namespace LinkSearch.Settings

open LinkSearch.Files

variable {δ : Type}

/-- The name of a settings file. -/
def fileName : Path := ⟨".haudoi.toml"⟩

/-- The settings file of the home directory, whether it exists or not. -/
def globalFile (home : Option Path) : Option Path :=
  home.map (·.join fileName)

/-- Whether a path is that of the settings file of the home directory. -/
def isGlobal (home : Option Path) (path : Path) : Bool :=
  (globalFile home).any path.same

/-- The settings file that applies to a directory, looked for in a tree. -/
def discover? (tree : FileTree δ) (home : Option Path) (cwd : Address) (directory : Path) :
    Option Path :=
  ((directory.ancestors.map (·.join fileName)).find? (tree.isFile cwd)).or
    ((globalFile home).filter (tree.isFile cwd))

def loadFile (tree : FileTree δ) (home : Option Path) (cwd : Address) (path : Path) :
    Except Settings.Error Settings :=
  match tree.readText cwd path with
  | .error cause => .error (.unreadable path cause)
  | .ok text =>
    match Declared.read text with
    | .error fault => .error (.malformed path fault)
    | .ok declared => ofDeclared home (some path) declared

/-- The settings that apply to a directory: those of its settings file, or the built-in ones. -/
def load (tree : FileTree δ) (home : Option Path) (cwd : Address) (directory : Path) :
    Except Settings.Error Settings :=
  match discover? tree home cwd directory with
  | some path => loadFile tree home cwd path
  | none => .ok default

end LinkSearch.Settings
