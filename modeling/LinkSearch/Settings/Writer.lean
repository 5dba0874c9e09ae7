import LinkSearch.Settings.Basic

/-!
# Writing settings

Settings as the text of a file that declares all of them.  Sections are set apart by a blank line;
a list of two or more texts has each on a line of its own.
-/

namespace LinkSearch.Settings

open LinkSearch.Toml

/-- A line `key = value`. -/
def writePair (key value : String) : String :=
  key ++ " = " ++ value ++ "\n"

/-- A list of texts. -/
def writeList : List String → String
  | [] => "[]"
  | [only] => "[" ++ writeString only ++ "]"
  | many => "[\n" ++ String.join (many.map fun text => "    " ++ writeString text ++ ",\n") ++ "]"

/-- The section of the columns for loose terms. -/
def writeSearch (settings : Settings) : String :=
  "[search]\n" ++ writePair "loose_columns" (writeList settings.looseColumns)

def writeField (field : FieldSpec) : String :=
  "[[field]]\n" ++ writePair "name" (writeString field.name) ++
    writePair "kind" (writeString field.kind.word) ++
    match field.column with
    | some column => writePair "column" (writeString column)
    | none => ""

/-- The section of the link store. -/
def writeStore (settings : Settings) : String :=
  "[store]\n" ++
    match settings.store with
    | some path => writePair "path" (writeString path.text)
    | none => ""

/-- The settings as a file; an empty list of fields needs a line of its own before all sections. -/
def write (settings : Settings) : String :=
  "\n".intercalate <|
    (if settings.fields.isEmpty then [writePair "field" "[]"] else []) ++
      [writeSearch settings] ++ settings.fields.map writeField ++ [writeStore settings]

end LinkSearch.Settings
