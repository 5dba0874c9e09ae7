import LinkSearch.Toml.Quoted
import LinkSearch.Toml.Scalar
import LinkSearch.Toml.Table

/-!
# Reading a TOML document

A document is read line by line, each line being blank, a header, or a key with its value.  The
lines are then put together into one table, which fails if a key or a table is given twice.
-/

namespace LinkSearch.Toml

/-! ### Blanks and comments -/

/-- Drops spaces and tabs. -/
def dropBlanks (s : List Char) : List Char :=
  s.dropWhile fun c => c == ' ' || c == '\t'

/-- Drops a comment up to the end of its line; a control character in it is refused. -/
def dropComment? (s : List Char) : Option (List Char) :=
  match s with
  | '#' :: rest =>
    let after := rest.dropWhile isPlain
    match after with
    | [] => some after
    | _ => if (readLineEnd? after).isSome then some after else none
  | _ => some s

/-- Drops the end of a line: blanks, a comment, and the line end, which the last line may lack. -/
def dropLineEnd? (s : List Char) : Option (List Char) := do
  let after ← dropComment? (dropBlanks s)
  match after with
  | [] => some []
  | _ => (readLineEnd? after).map Prod.snd

/-- Drops blanks, comments and line ends, as they may stand between the items of a list. -/
def dropFiller? (fuel : Nat) (s : List Char) : Option (List Char) :=
  match fuel with
  | 0 => none
  | fuel + 1 => do
    let after ← dropComment? (dropBlanks s)
    match readLineEnd? after with
    | some (_, rest) => dropFiller? fuel rest
    | none => some after

/-- Drops the filler at the start of a text, all of it. -/
def skipFiller? (s : List Char) : Option (List Char) :=
  dropFiller? (s.length + 1) s

/-! ### Keys -/

/-- A character of a key without quotes. -/
def isBareKeyChar (c : Char) : Bool :=
  c.isAlphanum || c == '-' || c == '_'

/-- One key, bare or between quotes, and what follows it. -/
def readKey? (s : List Char) : Option (String × List Char) :=
  match readSingleLine? s with
  | some (key, rest) => some (String.ofList key, rest)
  | none =>
    let key := s.takeWhile isBareKeyChar
    if key.isEmpty then none else some (String.ofList key, s.dropWhile isBareKeyChar)

/--
Keys joined by dots, with blanks around the dots: the steps before the last key, and that key.
-/
def readPath? (fuel : Nat) (s : List Char) : Option ((List String × String) × List Char) :=
  match fuel with
  | 0 => none
  | fuel + 1 => do
    let (key, rest) ← readKey? s
    match dropBlanks rest with
    | '.' :: more =>
      let ((path, last), after) ← readPath? fuel (dropBlanks more)
      return ((key :: path, last), after)
    | after => return (([], key), after)

/-- The most keys that dots may join. -/
def longestKey : Nat := 80

/-- The dotted key at the start of a text, and what follows it. -/
def readDottedKey? (s : List Char) : Option ((List String × String) × List Char) :=
  (readPath? (s.length + 1) s).filter fun ((path, _), _) => path.length < longestKey

/-! ### Values -/

/-- The most arrays and tables in braces that may be open at once. -/
def greatestDepth : Nat := 80

mutual

/--
The value at the start of a text, in which at most `depth` arrays and tables are nested, and what
follows it.
-/
def readValue? (fuel depth : Nat) (s : List Char) : Option (Value × List Char) :=
  match fuel with
  | 0 => none
  | fuel + 1 =>
    match s, depth with
    | '[' :: _, 0 | '\x7b' :: _, 0 => none
    | '[' :: rest, depth + 1 =>
      (readItems? fuel depth rest).map fun (items, after) => (.array items, after)
    | '\x7b' :: rest, depth + 1 => do
      let (entries, after) ← readPairs? fuel depth [] rest
      return (.table (entriesToValues entries), after)
    | '\x22' :: _, _ | '\x27' :: _, _ =>
      (readString? s).map fun (text, after) => (.string (String.ofList text), after)
    | _, _ => readWord? s

/-- The items of an array up to its closing bracket; the last one may be followed by a comma. -/
def readItems? (fuel depth : Nat) (s : List Char) : Option (List Value × List Char) :=
  match fuel with
  | 0 => none
  | fuel + 1 => do
    match ← skipFiller? s with
    | ']' :: after => return ([], after)
    | start =>
      let (item, rest) ← readValue? fuel depth start
      match ← skipFiller? rest with
      | ',' :: more =>
        let (items, after) ← readItems? fuel depth more
        return (item :: items, after)
      | ']' :: after => return ([item], after)
      | _ => none

/--
The pairs of a table in braces up to the closing one, added to those before.  Their lines may end
anywhere but within a key.
-/
def readPairs? (fuel depth : Nat) (entries : Entries) (s : List Char) :
    Option (Entries × List Char) :=
  match fuel with
  | 0 => none
  | fuel + 1 => do
    match ← skipFiller? s with
    | '\x7d' :: after => return (entries, after)
    | start =>
      let ((path, key), rest) ← readDottedKey? start
      let '=' :: rest ← skipFiller? rest | none
      let (value, rest) ← readValue? fuel depth (← skipFiller? rest)
      let entries ← entries.addValue? path key value
      match ← skipFiller? rest with
      | ',' :: more => readPairs? fuel depth entries more
      | '\x7d' :: after => return (entries, after)
      | _ => none

end

/--
Fuel for the value at the start of a text: each step takes a character, or is the first after one.
-/
def valueFuel (s : List Char) : Nat :=
  2 * s.length + 2

/-! ### Lines -/

/-- A line of a document that is not blank. -/
inductive Line where
  /-- A header in single brackets. -/
  | table (path : List String) (key : String)
  /-- A header in double brackets. -/
  | element (path : List String) (key : String)
  /-- A key and its value. -/
  | pair (path : List String) (key : String) (value : Value)

/-- The line at the start of a text up to its end, without what may fill the rest of the line. -/
def readLine? (s : List Char) : Option (Line × List Char) :=
  match s with
  | '[' :: '[' :: rest => do
    let ((path, key), after) ← readDottedKey? (dropBlanks rest)
    match dropBlanks after with
    | ']' :: ']' :: after => return (.element path key, after)
    | _ => none
  | '[' :: rest => do
    let ((path, key), after) ← readDottedKey? (dropBlanks rest)
    match dropBlanks after with
    | ']' :: after => return (.table path key, after)
    | _ => none
  | _ => do
    let ((path, key), rest) ← readDottedKey? s
    match dropBlanks rest with
    | '=' :: rest =>
      let start := dropBlanks rest
      let (value, after) ← readValue? (valueFuel start) greatestDepth start
      return (.pair path key value, after)
    | _ => none

/-- The lines of a text that are not blank. -/
def readLines? (fuel : Nat) (s : List Char) : Option (List Line) :=
  match fuel with
  | 0 => none
  | fuel + 1 => do
    match ← skipFiller? s with
    | [] => return []
    | start =>
      let (line, rest) ← readLine? start
      let after ← dropLineEnd? rest
      let lines ← readLines? fuel after
      return line :: lines

/-! ### Documents -/

/-- The document read so far, and the path of the table that is being filled. -/
structure Draft where
  entries : Entries
  current : List String

/-- Adds a line to a document. -/
def Draft.add? (draft : Draft) : Line → Option Draft
  | .table path key => do
    let entries ← draft.entries.beginTable? path key
    return ⟨entries, path ++ [key]⟩
  | .element path key => do
    let entries ← draft.entries.beginElement? path key
    return ⟨entries, path ++ [key]⟩
  | .pair path key value => do
    let entries ← draft.entries.descend? .implied
      (fun _ inner => inner.addValue? path key value) draft.current .defined
    return { draft with entries }

/-- Drops the byte order mark that a text may begin with. -/
def dropByteOrderMark : List Char → List Char
  | '\ufeff' :: rest => rest
  | s => s

/-- The entries of a document; none if the text is not one. -/
def readDocument? (text : String) : Option (List (String × Value)) := do
  let s := dropByteOrderMark text.toList
  let lines ← readLines? (s.length + 1) s
  let draft ← lines.foldlM Draft.add? ⟨[], []⟩
  return entriesToValues draft.entries

end LinkSearch.Toml
