import LinkSearch.Files.Path

/-!
# File trees

A tree of directories and files as a value.  A path is walked from the root or from the working
directory; every step must start in a directory, `..` goes up, and names must exist.  What a file
holds is left open here.
-/

namespace LinkSearch.Files

/-- Why a path leads nowhere, or to the wrong thing. -/
inductive AccessError where
  | notFound
  | notADirectory
  | isADirectory
  | nameTooLong
  /-- The path holds the null character. -/
  | nullInPath
  /-- The file is not a text. -/
  | notText
  deriving DecidableEq

def AccessError.message : AccessError → String
  | .notFound => "No such file or directory (os error 2)"
  | .notADirectory => "Not a directory (os error 20)"
  | .isADirectory => "Is a directory (os error 21)"
  | .nameTooLong => "File name too long (os error 36)"
  | .nullInPath => "file name contained an unexpected NUL byte"
  | .notText => "stream did not contain valid UTF-8"

/-- A file or a directory; the names in a directory are distinct. -/
inductive Tree (α : Type) where
  | file (content : α)
  | directory (entries : List (String × Tree α))

namespace Tree

variable {α : Type}

/-- What the directory holds under a name. -/
def child? (tree : Tree α) (name : String) : Option (Tree α) :=
  match tree with
  | .file _ => none
  | .directory entries => (entries.find? (·.1 == name)).map Prod.snd

/-- What stands at an address. -/
def get? (tree : Tree α) : Address → Option (Tree α)
  | [] => some tree
  | name :: rest => (tree.child? name).bind (·.get? rest)

/-- Puts something under a name, in place of what was there. -/
def setEntry (name : String) (node : Tree α) :
    List (String × Tree α) → List (String × Tree α)
  | [] => [(name, node)]
  | (found, old) :: rest =>
    if found = name then (name, node) :: rest else (found, old) :: setEntry name node rest

/--
Puts something at an address, making the directories on the way.  A file on the way gives way to a
directory.
-/
def set (node : Tree α) : Address → Tree α → Tree α
  | [], _ => node
  | name :: rest, tree =>
    let entries := match tree with
      | .directory entries => entries
      | .file _ => []
    .directory (setEntry name (set node rest ((tree.child? name).getD (.directory []))) entries)

/-- Whether the system refuses a name for its length in bytes. -/
def isTooLong (name : List Char) : Bool :=
  255 < (String.ofList name).utf8ByteSize

/-- One step from a place: idle steps stay, `..` goes up but not past the root. -/
def step (tree : Tree α) (place : Address) (piece : List Char) : Except AccessError Address :=
  match tree.get? place with
  | some (.directory _) =>
    if Path.isIdle piece then .ok place
    else if piece = ['.', '.'] then .ok place.dropLast
    else if isTooLong piece then .error .nameTooLong
    else
      let next := place ++ [String.ofList piece]
      if (tree.get? next).isSome then .ok next else .error .notFound
  | some (.file _) => .error .notADirectory
  | none => .error .notFound

/-- Where a path starts. -/
def start (cwd : Address) (path : Path) : Address :=
  if path.isAbsolute then [] else cwd

/-- What the system refuses in a path before it looks anywhere. -/
def checkText (path : Path) : Except AccessError Unit :=
  if path.text.toList.contains '\x00' then .error .nullInPath
  else if path.text.isEmpty then .error .notFound
  else if 4096 ≤ path.text.utf8ByteSize then .error .nameTooLong
  else .ok ()

/-- The address of an existing place that a path leads to. -/
def locate (tree : Tree α) (cwd : Address) (path : Path) : Except AccessError Address := do
  checkText path
  path.pieces.foldlM (step tree) (start cwd path)

/-- What stands where a path leads to. -/
def find (tree : Tree α) (cwd : Address) (path : Path) : Except AccessError (Tree α) := do
  let place ← tree.locate cwd path
  match tree.get? place with
  | some node => return node
  | none => .error .notFound

/-- Whether a path leads to anything. -/
def doesExist (tree : Tree α) (cwd : Address) (path : Path) : Bool :=
  (tree.find cwd path).toBool

/-- Whether a path leads to a file. -/
def isFile (tree : Tree α) (cwd : Address) (path : Path) : Bool :=
  match tree.find cwd path with
  | .ok (.file _) => true
  | _ => false

/-- The content of the file that a path leads to. -/
def read (tree : Tree α) (cwd : Address) (path : Path) : Except AccessError α := do
  match ← tree.find cwd path with
  | .file content => return content
  | .directory _ => .error .isADirectory

/-- The address at which a write to a path puts its file: the directory above it must exist. -/
def target (tree : Tree α) (cwd : Address) (path : Path) : Except AccessError Address := do
  checkText path
  match path.pieces.getLast? with
  | none => .error .notFound
  | some last =>
    let place ← path.pieces.dropLast.foldlM (step tree) (start cwd path)
    if Path.isIdle last || last = ['.', '.'] then .error .isADirectory
    else if isTooLong last then .error .nameTooLong
    else
      match tree.get? place with
      | some (.directory _) =>
        let address := place ++ [String.ofList last]
        match tree.get? address with
        | some (.directory _) => .error .isADirectory
        | _ => return address
      | some (.file _) => .error .notADirectory
      | none => .error .notFound

/-- Writes a file, new or in place of the one that was there. -/
def write (tree : Tree α) (cwd : Address) (path : Path) (content : α) :
    Except AccessError (Tree α) := do
  let address ← tree.target cwd path
  return Tree.set (.file content) address tree

end Tree

end LinkSearch.Files
