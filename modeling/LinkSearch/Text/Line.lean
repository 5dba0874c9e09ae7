/-!
# Lines

Cutting a text into lines, and filling a line up to a width.
-/

namespace LinkSearch.Text

/-- Drops one carriage return at the end of a line. -/
def dropCarriageReturn (line : List Char) : List Char :=
  if line.getLast? = some '\r' then line.dropLast else line

/--
The lines of a text.  Each line feed ends a line, and a carriage return before it belongs to the
line's end; text after the last line feed is a line if it is not empty.
-/
def lines (s : List Char) : List (List Char) :=
  let parts := s.splitOn '\n'
  let ended := parts.dropLast.map dropCarriageReturn
  match parts.getLast? with
  | some [] | none => ended
  | some last => ended ++ [last]

/-- Cuts a text at every line feed; a text without one is a single piece. -/
def cutLines (s : String) : List String :=
  (s.toList.splitOn '\n').map String.ofList

/-- Adds spaces on the right until the text has `count` characters; a longer text stays. -/
def padTo (count : Nat) (s : String) : String :=
  s ++ String.ofList (List.replicate (count - s.length) ' ')

/-- The lines of a text, each ended by a line feed. -/
def unlines (lines : List String) : String :=
  String.join (lines.map (· ++ "\n"))

end LinkSearch.Text
