import LinkSearch.Files.Path

/-!
# The path of the link store

A path in a settings file is taken from the directory of that file, unless it is absolute.  A tilde,
alone or before a slash, stands for the home directory.
-/

namespace LinkSearch.Settings

open LinkSearch.Files

/-- The path with a leading tilde replaced; none if the home directory is needed and not known. -/
def expandTilde? (home : Option Path) (text : String) : Option Path :=
  match text.toList with
  | ['~'] => home
  | '~' :: '/' :: rest => home.map (·.join ⟨String.ofList rest⟩)
  | _ => some ⟨text⟩

/-- The path of the store for the settings of a directory. -/
def resolveStorePath? (home : Option Path) (text : String) (directory : Path) : Option Path :=
  (expandTilde? home text).map directory.join

/-- An expanded path that is absolute does not depend on the directory. -/
theorem resolveStorePath?_of_isAbsolute {home : Option Path} {text : String} {path : Path}
    (expanded : expandTilde? home text = some path) (absolute : path.isAbsolute = true)
    (directory : Path) : resolveStorePath? home text directory = some path := by
  simp [resolveStorePath?, expanded, Path.join, absolute]

end LinkSearch.Settings
