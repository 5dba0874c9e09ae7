import LinkSearch.Settings.Basic

/-!
# Warnings about settings

Settings may be valid and still make some queries impossible.  Each warning names one such case and
comes with advice.
-/

namespace LinkSearch.Settings

open LinkSearch.Query LinkSearch.Sql

/-- Something that settings make impossible, or that looks like a slip. -/
inductive Warning where
  /-- There are no fields, so every term with a field is refused. -/
  | noFields
  /-- There are no columns for loose terms, so every loose term is refused. -/
  | noLooseColumns
  /-- The column for loose terms is not that of any field. -/
  | strayColumn (column : String)
  /-- No query can spell the name of this field. -/
  | unreachableField (name : String)
  deriving DecidableEq

namespace Warning

def message : Warning → String
  | .noFields => "no fields are defined in configuration"
  | .noLooseColumns => "no loose columns configured; bare search terms will fail"
  | .strayColumn column => "loose column '" ++ column ++ "' is not the column of any field"
  | .unreachableField name =>
    "field '" ++ name ++ "' contains whitespace, a quote, or a colon and cannot be queried"

/-- How to mend it. -/
def advice : Warning → String
  | .noFields => "Add [[field]] entries, or remove `field = []` to use the defaults."
  | .noLooseColumns => "Set [search] loose_columns so bare terms can match."
  | .strayColumn _ => "Loose columns usually repeat a field's column; check for typos."
  | .unreachableField _ => "Rename fields so they contain no spaces, quotes, or colons."

end Warning

/-- A column without what qualifies it; a text that names no column stays as it is. -/
def bareColumn (column : String) : String :=
  match ColumnName.parse? column with
  | some name => name.column
  | none => column

/-- The names of fields that no query can spell. -/
def unreachableFields (settings : Settings) : List String :=
  (settings.fields.map FieldSpec.name).filter fun name =>
    !name.isEmpty && !Term.isQueryable name

/-- The columns for loose terms that no field looks at. -/
def strayColumns (settings : Settings) : List String :=
  if settings.fields.isEmpty then []
  else
    let known := settings.fields.map fun field => bareColumn field.effectiveColumn
    settings.looseColumns.filter fun column => !known.contains (bareColumn column)

def warnings (settings : Settings) : List Warning :=
  (if settings.fields.isEmpty then [.noFields] else []) ++
    (if settings.looseColumns.isEmpty then [.noLooseColumns] else []) ++
    (unreachableFields settings).map .unreachableField ++
    (strayColumns settings).map .strayColumn

end LinkSearch.Settings
