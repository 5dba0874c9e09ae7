import LinkSearch.Files.Tree
import LinkSearch.Query.Schema
import LinkSearch.Settings.Declared
import LinkSearch.Settings.StorePath

/-!
# Settings

The settings in effect: what a file declares, with built-in values for what it leaves out.  Settings
describe a schema; settings read from a file are refused at once if that schema cannot be made.
-/

namespace LinkSearch

open LinkSearch.Files LinkSearch.Query LinkSearch.Settings LinkSearch.Sql

/-- The settings in effect. -/
structure Settings where
  /-- The columns in which loose terms are looked for. -/
  looseColumns : List String
  /-- The fields, in the order of their declaration. -/
  fields : List FieldSpec
  /-- Where the link store is. -/
  store : Option Path
  /-- The file that the settings were read from. -/
  source : Option Path
  deriving DecidableEq

/-- Why there are no settings, or no schema for them. -/
inductive Settings.Error where
  /-- The file cannot be read. -/
  | unreadable (path : Path) (cause : AccessError)
  /-- The text of the file is not that of settings. -/
  | malformed (path : Path) (fault : Fault)
  /-- This text does not name a column. -/
  | invalidColumn (column : String)
  /-- The fields do not make a schema. -/
  | invalidSchema (error : Query.Error)
  | emptyFieldName
  /-- The home directory is needed and not known. -/
  | noHome

/-- What went wrong. -/
def Settings.Error.message : Settings.Error → String
  | .unreadable path cause => "failed to read config file " ++ path.text ++ ": " ++ cause.message
  | .malformed path fault =>
    "failed to parse config file " ++ path.text ++ ": TOML parse error: " ++ fault.message ++ "\n"
  | .invalidColumn column =>
    "invalid column '" ++ column ++ "': " ++ (Query.Error.invalidName column).message
  | .invalidSchema error => "invalid search schema: " ++ error.message
  | .emptyFieldName => "field name must not be empty"
  | .noHome => "could not determine home directory"

namespace Settings

/-- The fields of settings that declare none. -/
def defaultFields : List FieldSpec :=
  [⟨"archive", .boolean, none⟩, ⟨"favorite", .boolean, none⟩, ⟨"url", .string, none⟩,
    ⟨"title", .string, none⟩, ⟨"note", .string, none⟩]

/-- The settings where nothing is declared. -/
def default : Settings where
  looseColumns := ["title", "url", "note"]
  fields := defaultFields
  store := none
  source := none

/-- The name of a column as settings give it. -/
def readColumn (column : String) : Except Settings.Error ColumnName :=
  match ColumnName.parse? column with
  | some name => .ok name
  | none => .error (.invalidColumn column)

/-- The field that a declaration describes. -/
def readField (spec : FieldSpec) : Except Settings.Error Field :=
  if spec.name.isEmpty then .error .emptyFieldName
  else do
    let column ← readColumn spec.effectiveColumn
    return .ofColumn spec.kind spec.name column

/-- The schema that the settings describe. -/
def schema (settings : Settings) : Except Settings.Error Schema := do
  let fields ← settings.fields.mapM readField
  let columns ← settings.looseColumns.mapM readColumn
  match Schema.make fields columns with
  | .ok schema => return schema
  | .error error => .error (.invalidSchema error)

/-- The directory of the file that settings come from; the empty path if there is none. -/
def directoryOf (source : Option Path) : Path :=
  (source.bind Path.parent?).getD ⟨""⟩

/-- The path of the store that a file declares, if it declares one. -/
def declaredStore (home : Option Path) (source : Option Path) (declared : Declared) :
    Except Settings.Error (Option Path) :=
  match declared.storePath with
  | none => .ok none
  | some text =>
    match resolveStorePath? home text (directoryOf source) with
    | some path => .ok (some path)
    | none => .error .noHome

/-- The settings of a file: what it declares, and the built-in values for the rest. -/
def ofDeclared (home : Option Path) (source : Option Path) (declared : Declared) :
    Except Settings.Error Settings := do
  let store ← declaredStore home source declared
  let settings : Settings :=
    { looseColumns := declared.looseColumns.getD default.looseColumns
      fields := declared.fields.getD default.fields
      store := store
      source := source }
  let _ ← settings.schema
  return settings

/-- Whether two optional paths are the same, or both missing. -/
def samePath : Option Path → Option Path → Bool
  | none, none => true
  | some first, some second => first.same second
  | _, _ => false

/-- Whether two settings agree in everything, paths being compared by their components. -/
def same (first second : Settings) : Bool :=
  first.looseColumns == second.looseColumns && first.fields == second.fields &&
    samePath first.store second.store && samePath first.source second.source

end Settings

end LinkSearch
