import LinkSearch.Links.Link
import LinkSearch.Output.Grid
import LinkSearch.Output.Json
import LinkSearch.Query.Field

/-!
# Listings

What links, predicates and conditions look like for people, and as JSON for programs.
-/

namespace LinkSearch.Output

open LinkSearch.Links LinkSearch.Query LinkSearch.Sql

def linkGrid (links : List Link) : Grid where
  heading := ["ID", "Title", "URL", "Note", "Flags"]
  rows := links.map fun link => [toString link.id, link.title, link.url, link.note, link.flags]

def linkJson (link : Link) : Json :=
  .object [("id", .integer link.id), ("title", .string link.title), ("url", .string link.url),
    ("note", .string link.note), ("archive", .boolean link.archive),
    ("favorite", .boolean link.favorite)]

def boundJson : Bound → Json
  | .integer n => .integer n
  | .text s => .string s

def fragmentJson (fragment : Fragment) : Json :=
  .object [("sql", .string fragment.sql), ("params", .list (fragment.params.map boundJson))]

def conditionJson : Condition → Json
  | .field name predicate =>
    .object [("type", .string "field"), ("name", .string name),
      ("predicate", fragmentJson predicate)]
  | .loose value => .object [("type", .string "loose"), ("value", .string value)]

def readingJson (reading : Reading) : Json :=
  .object [("matchers", .list (reading.conditions.map conditionJson)),
    ("errors", .list (reading.messages.map .string))]

/-- Some bound values in a row. -/
def boundList (params : List Bound) : String :=
  ", ".intercalate (params.map Bound.literal)

/-- A condition on one line, with the values bound in it. -/
def conditionLine : Condition → String
  | .field name predicate =>
    name ++ ": " ++ predicate.sql ++ "  [" ++ boundList predicate.params ++ "]"
  | .loose value => "loose: " ++ value

/-- A line under a heading. -/
def indented (line : String) : String :=
  "   " ++ line

/-- A heading with a count, and its lines; nothing if there are none. -/
def counted (heading : String) (lines : List String) : List String :=
  if lines.isEmpty then []
  else (heading ++ " (" ++ toString lines.length ++ "):") :: lines.map indented

/-- The lines that show a reading. -/
def readingLines (reading : Reading) : List String :=
  if reading.conditions.isEmpty && reading.issues.isEmpty then
    ["(empty query: matches every link)"]
  else
    counted "Matchers" (reading.conditions.map conditionLine) ++
      counted "Errors" reading.messages

/-- The lines that show a predicate: its text and, after a blank line, each value with its place. -/
def fragmentLines (fragment : Fragment) : List String :=
  fragment.sql ::
    if fragment.params.isEmpty then []
    else "" :: fragment.params.mapIdx fun i param =>
      indented ("?" ++ toString (i + 1) ++ " = " ++ param.literal)

end LinkSearch.Output
