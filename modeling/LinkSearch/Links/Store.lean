import LinkSearch.Files.Content
import LinkSearch.Links.Statement
import LinkSearch.Links.StoreName

/-!
# The link store

The store is a file that holds the table of links, or an empty one in memory.  Its path is resolved
by names alone: `..` takes back the name before it, whatever that name leads to, and slashes at the
end do not matter.  Opening a store does not look at what its file holds, except that it must be a
file.
-/

namespace LinkSearch.Links

open LinkSearch.Files

/-- What a database holds: the table of links, if it has one. -/
abbrev Database := Option Table

/-- What an opened store turns out to hold. -/
inductive Store where
  | links (table : Table)
  /-- A database without the table of links. -/
  | empty
  /-- Not a database at all. -/
  | foreign

/-- The table of links, if the store has it. -/
def Store.table : Store → Except Fault Table
  | .links table => .ok table
  | .empty => .error (.noTable "link")
  | .foreign => .error .noDatabase

/-- The store that a file holds.  A file of one byte at most is a database that nobody wrote to. -/
def Store.ofContent : Content Database → Store
  | .database (some table) => .links table
  | .database none => .empty
  | .text s => if s.utf8ByteSize ≤ 1 then .empty else .foreign
  | .bytes size => if size ≤ 1 then .empty else .foreign

/-- Why a store cannot be opened. -/
inductive OpenError where
  /-- The name stands for no store. -/
  | badName (error : NameError)
  /-- There is no file to open; the name is given. -/
  | noFile (name : Path)
  /-- The path leads to a directory. -/
  | directory
  /-- The path holds the null character after so many bytes. -/
  | nullInPath (offset : Nat)
  deriving DecidableEq

def OpenError.message : OpenError → String
  | .badName error => error.message
  | .noFile name => "unable to open database file: " ++ name.text
  | .directory => "disk I/O error"
  | .nullInPath offset => "nul byte found in provided data at position: " ++ toString offset

/-- The names on the way to a store; none if a file stands where a directory must be. -/
def walk? (tree : FileTree Database) (place : Address) (piece : List Char) : Option Address :=
  if Path.isIdle piece then some place
  else if piece = ['.', '.'] then some place.dropLast
  else
    match tree.get? place with
    | some (.file _) => none
    | _ => if Tree.isTooLong piece then none else some (place ++ [String.ofList piece])

/-- The longest path of a store in bytes. -/
def longestPath : Nat := 504

/-- Where the file of a store is, if its path leads anywhere. -/
def locate? (tree : FileTree Database) (cwd : Address) (path : Path) : Option Address := do
  let place ← path.pieces.foldlM (walk? tree) (Tree.start cwd path)
  if place.isEmpty || longestPath < place.path.text.utf8ByteSize then none else some place

/-- How many bytes stand before the first null character of a text, if it has one. -/
def nullOffset? (s : String) : Option Nat :=
  let before := s.toList.takeWhile (· ≠ '\x00')
  if before.length < s.toList.length then some (String.ofList before).utf8ByteSize else none

/-- Opens the store of a name. -/
def Store.open (tree : FileTree Database) (cwd : Address) (name : Path) :
    Except OpenError Store := do
  if let some offset := nullOffset? name.text then throw (.nullInPath offset)
  match ← (StoreName.read name.text).mapError .badName with
  | .memory => return .empty
  | .file path? =>
    match (path?.bind (locate? tree cwd)).bind tree.get? with
    | none => throw (.noFile name)
    | some (.directory _) => throw .directory
    | some (.file content) => return .ofContent content

end LinkSearch.Links
