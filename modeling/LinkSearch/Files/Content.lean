import LinkSearch.Files.Tree

/-!
# What files hold

Most files are texts.  A file may also hold a database, whose nature is left open here, or bytes
that are neither.
-/

namespace LinkSearch.Files

/-- What a file holds. -/
inductive Content (δ : Type) where
  | text (s : String)
  | database (stored : δ)
  | bytes (size : Nat)

/-- A tree whose files are texts, databases or other bytes. -/
abbrev FileTree (δ : Type) := Tree (Content δ)

/-- The text of the file that a path leads to. -/
def Tree.readText {δ : Type} (tree : FileTree δ) (cwd : Address) (path : Path) :
    Except AccessError String := do
  match ← tree.read cwd path with
  | .text s => return s
  | .database _ | .bytes _ => .error .notText

end LinkSearch.Files
