import LinkSearch.Query.Field
import LinkSearch.Toml.Plain
import LinkSearch.Toml.Reader

/-!
# Declared settings

What a settings file says: any of the columns for loose terms, the fields, and the path of the link
store.  A file may say less than that, but nothing else.  The keys of a table are looked at in the
order of their characters, and the first fault ends the reading.
-/

namespace LinkSearch.Settings

open LinkSearch.Query LinkSearch.Toml

/-- A field as settings declare it. -/
structure FieldSpec where
  /-- What stands before the colon of a term. -/
  name : String
  /-- What the field takes. -/
  kind : Kind
  /-- The column it looks at, if that is not the one of its name. -/
  column : Option String
  deriving DecidableEq

/-- The column that a field looks at. -/
def FieldSpec.effectiveColumn (spec : FieldSpec) : String :=
  spec.column.getD spec.name

/-- What a settings file says; what it leaves out is none. -/
structure Declared where
  looseColumns : Option (List String)
  fields : Option (List FieldSpec)
  storePath : Option String
  deriving DecidableEq

/-- What is wrong with the text of a settings file. -/
inductive Fault where
  /-- The text is no document, or not one of plain data. -/
  | notToml
  /-- A key that its table does not know. -/
  | unknownKey (key : String) (known : List String)
  /-- A value of the wrong type. -/
  | wrongType (found : Value) (expected : String)
  /-- A word that is no kind. -/
  | unknownKind (word : String)
  /-- A key that its table must have. -/
  | missingKey (key : String)
  /-- A field written as an array with too few items. -/
  | tooShort (length : Nat)
  /-- A value that is not even of a describable type, or a kind that is not written as a word. -/
  | illFormed

namespace Fault

/-- A word between backquotes. -/
def backquoted (s : String) : String :=
  "`" ++ s ++ "`"

/-- The words as alternatives. -/
def oneOf : List String → String
  | [] => "nothing"
  | [only] => backquoted only
  | [first, second] => backquoted first ++ " or " ++ backquoted second
  | many => "one of " ++ ", ".intercalate (many.map backquoted)

/-- What a value is, for a message. -/
def describe? : Value → Option String
  | .string text => some ("string " ++ Text.quote text)
  | .integer n => some ("integer " ++ backquoted (toString n))
  | .float x => some ("floating point " ++ backquoted x.text)
  | .outOfRange => none
  | .boolean flag => some ("boolean " ++ backquoted (if flag then "true" else "false"))
  | .array _ => some "sequence"
  | .moment _ | .table _ => some "map"

/-- What is wrong, in one line. -/
def message : Fault → String
  | .notToml => "syntax"
  | .unknownKey key known => "unknown field " ++ backquoted key ++ ", expected " ++ oneOf known
  | .wrongType found expected =>
    match describe? found with
    | some shown => "invalid type: " ++ shown ++ ", expected " ++ expected
    | none => "structure"
  | .unknownKind word =>
    "unknown variant " ++ backquoted word ++ ", expected " ++
      oneOf [Kind.boolean.word, Kind.string.word]
  | .missingKey key => "missing field " ++ backquoted key
  | .tooShort length =>
    "invalid length " ++ toString length ++ ", expected struct FieldSpec with 3 elements"
  | .illFormed => "structure"

end Fault

namespace Declared

def text : Value → Except Fault String
  | .string text => .ok text
  | found => .error (.wrongType found "a string")

def items : Value → Except Fault (List Value)
  | .array items => .ok items
  | found => .error (.wrongType found "a sequence")

def texts (value : Value) : Except Fault (List String) := do
  (← items value).mapM text

/--
The entries of a table in the order of their keys.  A date counts as a table with a key of its own.
-/
def entries? : Value → Option (List (String × Value))
  | .table entries => some (entries.mergeSort fun a b => !(b.1 < a.1))
  | .moment shown => some [(momentKey, .string shown)]
  | _ => none

/-- Goes through the entries of a table that knows these keys. -/
def visit {α : Type} (known : List String) (take : α → String → Value → Except Fault α) (start : α)
    (entries : List (String × Value)) : Except Fault α :=
  entries.foldlM (fun found (key, value) =>
    if key ∈ known then take found key value else .error (.unknownKey key known)) start

/-- A section with one key, as a table or as an array whose first item is the value of that key. -/
def readSection? {α : Type} (key : String) (expected : String) (take : Value → Except Fault α)
    (value : Value) : Except Fault (Option α) :=
  match entries? value, value with
  | some entries, _ => visit [key] (fun _ _ value => some <$> take value) none entries
  | none, .array [] => .ok none
  | none, .array (first :: _) => some <$> take first
  | none, found => .error (.wrongType found expected)

/-- The kind that a word names. -/
def kindOfWord (word : String) : Except Fault Kind :=
  if word = Kind.boolean.word then .ok .boolean
  else if word = Kind.string.word then .ok .string
  else .error (.unknownKind word)

/-- Whether a value is an array or a table with nothing in it. -/
def isVoid : Value → Bool
  | .array [] | .table [] => true
  | _ => false

/-- A kind: its word, or a table with the word as its only key and nothing under it. -/
def kind : Value → Except Fault Kind
  | .string word => kindOfWord word
  | .table [(word, value)] => do
    let kind ← kindOfWord word
    if isVoid value then return kind else .error .illFormed
  | _ => .error .illFormed

/-- What has been read of the declaration of a field. -/
structure FieldDraft where
  name : Option String
  kind : Option Kind
  column : Option String

/-- The keys of the declaration of a field. -/
def fieldKeys : List String := ["name", "kind", "column"]

/-- Takes the value of one key of a field. -/
def takeFieldKey (draft : FieldDraft) (key : String) (value : Value) : Except Fault FieldDraft :=
  if key = "name" then do return { draft with name := some (← text value) }
  else if key = "kind" then do return { draft with kind := some (← kind value) }
  else do return { draft with column := some (← text value) }

/-- A field needs a name and a kind. -/
def finishField (draft : FieldDraft) : Except Fault FieldSpec :=
  match draft.name, draft.kind with
  | none, _ => .error (.missingKey "name")
  | some _, none => .error (.missingKey "kind")
  | some name, some kind => .ok ⟨name, kind, draft.column⟩

/-- A field as an array of its name, its kind and, if it has one, its column. -/
def fieldOfItems : List Value → Except Fault FieldSpec
  | [] => .error (.tooShort 0)
  | [name] => do
    let _ ← text name
    .error (.tooShort 1)
  | name :: kindValue :: rest => do
    let name ← text name
    let kind ← kind kindValue
    let column ← rest.head?.mapM text
    return ⟨name, kind, column⟩

def field (value : Value) : Except Fault FieldSpec :=
  match entries? value, value with
  | some entries, _ => do finishField (← visit fieldKeys takeFieldKey ⟨none, none, none⟩ entries)
  | none, .array items => fieldOfItems items
  | none, found => .error (.wrongType found "struct FieldSpec")

/-- The sections of a settings file. -/
def sections : List String := ["search", "field", "store"]

/-- Takes one section of a settings file. -/
def takeSection (declared : Declared) (key : String) (value : Value) : Except Fault Declared :=
  if key = "search" then do
    let columns ← readSection? "loose_columns" "struct RawSearchSettings" texts value
    return { declared with looseColumns := columns }
  else if key = "field" then do
    let fields ← (← items value).mapM field
    return { declared with fields := some fields }
  else do
    let path ← readSection? "path" "struct RawStoreSettings" text value
    return { declared with storePath := path }

def ofDocument (entries : List (String × Value)) : Except Fault Declared :=
  visit sections takeSection ⟨none, none, none⟩ (entries.mergeSort fun a b => !(b.1 < a.1))

/--
What the text of a settings file says.  If settings cannot be read from a document, and it is not
one of plain data either, the latter is what is wrong with it.
-/
def read (text : String) : Except Fault Declared :=
  match readDocument? text with
  | none => .error .notToml
  | some entries =>
    match ofDocument entries with
    | .ok declared => .ok declared
    | .error fault => .error (if entriesArePlain entries then fault else .notToml)

end Declared

end LinkSearch.Settings
