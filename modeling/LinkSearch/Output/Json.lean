import LinkSearch.Text.Quoted

/-!
# JSON

Values as JSON, spread over lines and indented by two spaces.  A text has escapes for its quotes,
backslashes and control characters only.
-/

namespace LinkSearch.Output

/-- A value of JSON, as far as it is written here. -/
inductive Json where
  | integer (n : Int)
  | boolean (b : Bool)
  | string (s : String)
  | list (items : List Json)
  | object (entries : List (String × Json))

namespace Json

/-- The characters that stand for `c` in a text. -/
def escapeChar (c : Char) : List Char :=
  if c = '\x22' || c = '\\' then ['\\', c]
  else if c = '\x08' then ['\\', 'b']
  else if c = '\x0c' then ['\\', 'f']
  else if c = '\n' then ['\\', 'n']
  else if c = '\r' then ['\\', 'r']
  else if c = '\t' then ['\\', 't']
  else if c < ' ' then
    let digits := Text.lowerHex c.toNat
    '\\' :: 'u' :: List.replicate (4 - digits.length) '0' ++ digits
  else [c]

/-- A text between double quotes. -/
def writeText (s : String) : String :=
  String.ofList ('\x22' :: s.toList.flatMap escapeChar ++ ['\x22'])

/-- Items between brackets, each on a line of its own at `depth + 1`; no items need no lines. -/
def enclose (opening closing : String) (depth : Nat) (items : List String) : String :=
  let line (depth : Nat) : String := "\n" ++ String.ofList (List.replicate (2 * depth) ' ')
  if items.isEmpty then opening ++ closing
  else opening ++ line (depth + 1) ++ ("," ++ line (depth + 1)).intercalate items ++
    line depth ++ closing

mutual

/-- A value whose first line is indented already, inside `depth` brackets. -/
def write (depth : Nat) : Json → String
  | .integer n => toString n
  | .boolean b => if b then "true" else "false"
  | .string s => writeText s
  | .list items => enclose "[" "]" depth (writeItems depth items)
  | .object entries => enclose "\x7b" "\x7d" depth (writeEntries depth entries)

def writeItems (depth : Nat) : List Json → List String
  | [] => []
  | item :: rest => item.write (depth + 1) :: writeItems depth rest

def writeEntries (depth : Nat) : List (String × Json) → List String
  | [] => []
  | (key, value) :: rest =>
    (writeText key ++ ": " ++ value.write (depth + 1)) :: writeEntries depth rest

end

/-- A value as a text of its own. -/
def text (json : Json) : String :=
  json.write 0

end Json

end LinkSearch.Output
