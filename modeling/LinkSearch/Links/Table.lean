import LinkSearch.Links.Link
import LinkSearch.Sql.Value
import LinkSearch.Text.Case

/-!
# The table of links

Every row has an id of its own, three texts and two flags.  A flag should be an integer, but the
table takes anything for it.  A new row without an id gets one above all that were ever there.
-/

namespace LinkSearch.Links

open LinkSearch.Sql

inductive Column where
  | id
  | title
  | url
  | note
  | archive
  | favorite
  deriving DecidableEq

namespace Column

/-- All columns, in the order of the table. -/
def all : List Column := [.id, .title, .url, .note, .archive, .favorite]

def name : Column → String
  | .id => "id"
  | .title => "title"
  | .url => "url"
  | .note => "note"
  | .archive => "archive"
  | .favorite => "favorite"

/-- Other names of the id. -/
def idNames : List String := ["rowid", "oid", "_rowid_"]

/-- The column with this name, in letters of any case. -/
def ofName? (name : String) : Option Column :=
  if idNames.any (Text.sameAscii name) then some .id
  else all.find? fun column => Text.sameAscii name column.name

/-- What a column prefers to hold. -/
def affinity : Column → Affinity
  | .title | .url | .note => .text
  | .id | .archive | .favorite => .numeric

end Column

structure Row where
  id : Int
  title : String
  url : String
  note : String
  archive : Value
  favorite : Value
  deriving DecidableEq

/-- The value of a row in a column. -/
def Row.get (row : Row) : Column → Value
  | .id => .integer row.id
  | .title => .text row.title
  | .url => .text row.url
  | .note => .text row.note
  | .archive => row.archive
  | .favorite => row.favorite

structure Table where
  rows : List Row
  /-- No two rows have one id. -/
  ids_nodup : (rows.map Row.id).Nodup

/-- What a new row says about one column. -/
inductive Cell where
  | absent
  | null
  | value (v : Value)

/-- What is given for a new row. -/
structure Draft where
  id : Cell
  title : Cell
  url : Cell
  note : Cell
  archive : Cell
  favorite : Cell

/-- Why a row is not taken. -/
inductive InsertError where
  /-- The id is no integer. -/
  | idMismatch
  /-- There is no id left above the others. -/
  | full
  /-- A column must have a value. -/
  | missing (column : Column)
  /-- Another row has this id. -/
  | repeatedId
  deriving DecidableEq

/-- What is wrong with a row. -/
def InsertError.message : InsertError → String
  | .idMismatch => "datatype mismatch"
  | .full => "database or disk is full"
  | .missing column => "NOT NULL constraint failed: link." ++ column.name
  | .repeatedId => "UNIQUE constraint failed: link.id"

namespace Table

def empty : Table := ⟨[], List.nodup_nil⟩

/-- The greatest id that an integer can be. -/
def greatestId : Int := Nat.pow 2 63 - 1

/-- The greatest id in the table, zero at least. -/
def topId (table : Table) : Int :=
  table.rows.foldl (fun top row => max top row.id) 0

/-- The id of a new row. -/
def newId (table : Table) : Cell → Except InsertError Int
  | .absent | .null => if table.topId < greatestId then .ok (table.topId + 1) else .error .full
  | .value v =>
    match v.prefer .numeric with
    | .integer n => .ok n
    | .real _ | .text _ => .error .idMismatch

/-- The value of a new row in a column: what is given, or a built-in value if the column has one. -/
def newValue (column : Column) (fallback : Option Value) : Cell → Except InsertError Value
  | .value v => .ok (v.prefer column.affinity)
  | .null => .error (.missing column)
  | .absent =>
    match fallback with
    | some v => .ok v
    | none => .error (.missing column)

def newRow (table : Table) (draft : Draft) : Except InsertError Row := do
  let id ← table.newId draft.id
  let title ← newValue .title none draft.title
  let url ← newValue .url none draft.url
  let note ← newValue .note (some (.text "")) draft.note
  let archive ← newValue .archive (some (.integer 0)) draft.archive
  let favorite ← newValue .favorite (some (.integer 0)) draft.favorite
  return ⟨id, title.shown, url.shown, note.shown, archive, favorite⟩

/-- The table with one more row. -/
def insert (table : Table) (draft : Draft) : Except InsertError Table := do
  let row ← table.newRow draft
  if fresh : row.id ∈ table.rows.map Row.id then .error .repeatedId
  else return ⟨row :: table.rows, by simpa using ⟨by simpa using fresh, table.ids_nodup⟩⟩

/-- The rows from the greatest id to the least. -/
def newestFirst (table : Table) : List Row :=
  table.rows.mergeSort fun first second => second.id ≤ first.id

end Table

end LinkSearch.Links
