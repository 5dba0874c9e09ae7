import LinkSearch.Text.Line

/-!
# The settings file to start from

A new settings file shows every setting with its built-in value, and each is commented out: such a
file declares nothing until someone edits it.
-/

namespace LinkSearch.Settings

/-- A line of a template: empty lines and comments stay, any other line becomes a comment. -/
def commentLine (line : List Char) : List Char :=
  match line with
  | [] => []
  | '#' :: _ => line
  | _ => '#' :: ' ' :: line

/-- A text with every line commented out and ended by a line feed. -/
def commentOut (text : String) : String :=
  String.ofList ((Text.lines text.toList).flatMap (commentLine · ++ ['\n']))

/-- The settings with their built-in values, as a document. -/
def sample : String := Text.unlines [
  "# haudoi configuration",
  "#",
  "# Every section is optional. Missing sections use the built-in defaults shown",
  "# here, so uncomment only what you want to change.",
  "",
  "# Columns searched by bare terms such as `github`. Each term must appear in at",
  "# least one of these columns.",
  "[search]",
  "loose_columns = [\"title\", \"url\", \"note\"]",
  "",
  "# Fields usable as `name:value`. Names are case sensitive. Boolean fields",
  "# accept true or false; string fields match case-insensitive substrings.",
  "# `column` defaults to the field name and may be qualified, e.g. \"l.title\".",
  "# Declaring any [[field]] replaces the whole default list.",
  "[[field]]",
  "name = \"archive\"",
  "kind = \"boolean\"",
  "",
  "[[field]]",
  "name = \"favorite\"",
  "kind = \"boolean\"",
  "",
  "[[field]]",
  "name = \"url\"",
  "kind = \"string\"",
  "",
  "[[field]]",
  "name = \"title\"",
  "kind = \"string\"",
  "",
  "[[field]]",
  "name = \"note\"",
  "kind = \"string\"",
  "",
  "# SQLite database holding the `link` table. Relative paths resolve against",
  "# the directory containing this file.",
  "[store]",
  "path = \"links.db\""]

/-- The text of a new settings file. -/
def template : String := commentOut sample

end LinkSearch.Settings
