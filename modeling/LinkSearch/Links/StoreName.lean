import LinkSearch.Files.Path
import LinkSearch.Text.Bytes
import LinkSearch.Text.Numeral

/-!
# Names of stores

A store is opened by its name.  A name that begins with `file:` is a URI: the machine, which must be
this one, the path, and options, with `%` and two hexadecimal digits for a byte anywhere after the
machine.  Any other name is the path itself.  Some names stand for a store in memory, which is
empty.
-/

namespace LinkSearch.Links

open LinkSearch.Files

/-- What a name stands for. -/
inductive StoreName where
  /-- The file at a path, if the bytes of the path are a text. -/
  | file (path? : Option Path)
  /-- A store in memory. -/
  | memory
  deriving DecidableEq

/-- Why a name stands for nothing. -/
inductive NameError where
  /-- The file is on another machine. -/
  | authority (name : String)
  | noCache (mode : String)
  | noAccess (mode : String)
  /-- More access is asked for than there is. -/
  | denied (mode : String)
  | noFileSystem (name : String)
  deriving DecidableEq

/-- What is wrong with a name. -/
def NameError.message : NameError → String
  | .authority name => "invalid uri authority: " ++ name
  | .noCache mode => "no such cache mode: " ++ mode
  | .noAccess mode => "no such access mode: " ++ mode
  | .denied mode => "access mode not allowed: " ++ mode
  | .noFileSystem name => "no such vfs: " ++ name

/-! ### Parts of a URI -/

/-- How a URI begins. -/
def scheme : List Char := "file:".toList

/-- The machines that are this one. -/
def localAuthorities : List (List Char) := [[], "localhost".toList]

/-- What follows the machine, which stands between two slashes and the next one. -/
def dropAuthority : List Char → Except NameError (List Char)
  | '/' :: '/' :: rest =>
    let authority := rest.takeWhile (· ≠ '/')
    if localAuthorities.contains authority then .ok (rest.dropWhile (· ≠ '/'))
    else .error (.authority (String.ofList authority))
  | body => .ok body

/-- The bytes that a part of a URI stands for, up to the first one that is zero. -/
def decode : List Char → List UInt8
  | '%' :: first :: second :: rest =>
    match Text.numeral? 16 [first, second] with
    | some 0 => []
    | some byte => byte.toUInt8 :: decode rest
    | none => String.utf8EncodeChar '%' ++ decode (first :: second :: rest)
  | c :: rest => String.utf8EncodeChar c ++ decode rest
  | [] => []

/-- An option of a URI. -/
structure NameOption where
  name : String
  value : String
  deriving DecidableEq

/-- The option that a part of a URI is; its value follows the first equals sign. -/
def NameOption.ofPart (part : List Char) : NameOption where
  name := Text.shownBytes (decode (part.takeWhile (· ≠ '=')))
  value := Text.shownBytes (decode ((part.dropWhile (· ≠ '=')).drop 1))

/-- The options that follow the path; one without a name is passed over. -/
def NameOption.list (query : List Char) : List NameOption :=
  ((query.splitOn '&').map NameOption.ofPart).filter (·.name ≠ "")

/-! ### Options -/

/-- How a file may be used. -/
inductive Access where
  | reading
  | writing
  | creating
  /-- Not at all, the store being in memory. -/
  | none
  deriving DecidableEq

namespace Access

/-- The access that a word asks for. -/
def ofWord? : String → Option Access
  | "ro" => some .reading
  | "rw" => some .writing
  | "rwc" => some .creating
  | "memory" => some .none
  | _ => Option.none

/-- How much an access asks for. -/
def demand : Access → Nat
  | .none => 0
  | .reading => 1
  | .writing => 2
  | .creating => 3

/-- How much may be asked for after an access; all if it left the files alone. -/
def supply : Access → Nat
  | .none => 3
  | access => access.demand

/-- The access after an option. -/
def after (access : Access) (option : NameOption) : Except NameError Access :=
  match option.name with
  | "cache" =>
    if option.value ∈ ["shared", "private"] then .ok access else .error (.noCache option.value)
  | "mode" =>
    match ofWord? option.value with
    | Option.none => .error (.noAccess option.value)
    | some asked =>
      if asked.demand ≤ access.supply then .ok asked else .error (.denied option.value)
  | _ => .ok access

end Access

/-- The file systems under which files are found. -/
def fileSystems : List String := ["unix", "unix-none", "unix-dotfile", "unix-excl"]

/-- The file system whose files are in memory. -/
def memorySystem : String := "memdb"

/-- The file system that the options name last, if any does. -/
def fileSystem (options : List NameOption) : Except NameError String :=
  match (options.filter (·.name = "vfs")).getLast? with
  | none => .ok "unix"
  | some option =>
    if option.value ∈ memorySystem :: fileSystems then .ok option.value
    else .error (.noFileSystem option.value)

/-! ### Reading a name -/

namespace StoreName

/-- The store at a path, two of which stand for a store in memory. -/
def ofBytes (bytes : List UInt8) : StoreName :=
  let path? := (String.fromUTF8? bytes.toByteArray).map Files.Path.mk
  if path? = some ⟨""⟩ ∨ path? = some ⟨":memory:"⟩ then .memory else .file path?

/-- What follows the scheme of a URI. -/
def ofUri (body : List Char) : Except NameError StoreName := do
  let shown := (← dropAuthority body).takeWhile (· ≠ '#')
  let options := NameOption.list ((shown.dropWhile (· ≠ '?')).drop 1)
  let access ← options.foldlM Access.after .reading
  let system ← fileSystem options
  if access = .none ∨ system = memorySystem then return .memory
  else return ofBytes (decode (shown.takeWhile (· ≠ '?')))

/-- What a name stands for. -/
def read (name : String) : Except NameError StoreName :=
  let s := name.toList
  if scheme.isPrefixOf s then ofUri (s.drop scheme.length)
  else .ok (ofBytes name.toUTF8.toList)

/-- The path of the file that a name stands for. -/
def path? (name : String) : Option Path :=
  match read name with
  | .ok (.file path?) => path?
  | _ => none

end StoreName

end LinkSearch.Links
