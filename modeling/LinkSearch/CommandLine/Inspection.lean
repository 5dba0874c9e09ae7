import LinkSearch.CommandLine.Report
import LinkSearch.Links.Store
import LinkSearch.Output.Listing
import LinkSearch.Settings.Discovery
import LinkSearch.Settings.Warning
import LinkSearch.Settings.Writer

/-!
# Commands that show settings

`config` shows the settings in effect as a settings file would declare them.  `check` shows them for
people, with warnings and advice, and fails if there are warnings.
-/

namespace LinkSearch.CommandLine

open LinkSearch.Files LinkSearch.Links LinkSearch.Output LinkSearch.Settings

/-- The settings as a file, under a line that says where they come from. -/
def showSettings (settings : Settings) : Report :=
  let source := match settings.source with
    | some path => path.text
    | none => "built-in defaults"
  ⟨true, "# source: " ++ source ++ "\n" ++ settings.write, ""⟩

def sourceLines (home : Option Path) (settings : Settings) : List String :=
  match settings.source with
  | some path =>
    let scope := if isGlobal home path then "global" else "local"
    ["Config file:", indented (path.text ++ " (" ++ scope ++ ")")]
  | none =>
    ["No configuration file found; using built-in defaults.", "Run 'haudoi init' to create one."]

/-- The fields, with their kinds and columns in columns. -/
def fieldLines (settings : Settings) : List String :=
  "Fields:" ::
    if settings.fields.isEmpty then [indented "(none defined)"]
    else settings.fields.map fun field =>
      indented (Text.padTo 12 field.name ++ " " ++ Text.padTo 8 field.kind.word ++ " -> " ++
        field.effectiveColumn)

def looseLines (settings : Settings) : List String :=
  ["Loose columns:", indented <|
    if settings.looseColumns.isEmpty then "(none)" else ", ".intercalate settings.looseColumns]

/-- The link store, and whether it is there. -/
def storeLines (tree : FileTree Database) (cwd : Address) (settings : Settings) : List String :=
  ["Store:", indented <|
    match settings.store with
    | some path => if tree.isFile cwd path then path.text else path.text ++ " [missing]"
    | none => "(not configured)"]

/-- Drops an item that equals the one before it. -/
def dropRepeated : List String → List String
  | [] => []
  | [last] => [last]
  | first :: second :: rest =>
    if first = second then dropRepeated (second :: rest)
    else first :: dropRepeated (second :: rest)

/-- What to do about some warnings: each advice once, in the order of their characters. -/
def adviceFor (warnings : List Warning) : List String :=
  dropRepeated ((warnings.map Warning.advice).mergeSort fun first second => !(second < first))

/-- The warnings and what to do about them. -/
def warningLines (warnings : List Warning) : List String :=
  let item (line : String) : String := indented ("- " ++ line)
  if warnings.isEmpty then ["No issues found."]
  else
    ("Warnings (" ++ toString warnings.length ++ "):") ::
      warnings.map (item ·.message) ++ ["", "Hints:"] ++ (adviceFor warnings).map item

/-- The settings for people. -/
def checkSettings (tree : FileTree Database) (home : Option Path) (cwd : Address)
    (settings : Settings) : Report :=
  let warnings := Settings.warnings settings
  let lines := sourceLines home settings ++ [""] ++ fieldLines settings ++ [""] ++
    looseLines settings ++ [""] ++ storeLines tree cwd settings ++ [""] ++ warningLines warnings
  ⟨warnings.isEmpty, Text.unlines lines, ""⟩

end LinkSearch.CommandLine
