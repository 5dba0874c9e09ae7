import LinkSearch.Links.Table

/-!
# Database files

A database file is cut into pages of one size.  A table is a tree of pages whose leaves hold
records, each with the id of its row; a record begins with the types of its fields, and one that is
too long for its page goes on in others.  Numbers have their most significant byte first.  The first
page holds the list of the tables, among which the table of links is looked up.
-/

namespace LinkSearch.Links.DatabaseFile

open LinkSearch.Decimal LinkSearch.Sql

/-- The byte at a place, zero after the end. -/
def byteAt (bytes : ByteArray) (i : Nat) : Nat :=
  if h : i < bytes.size then (bytes.get i h).toNat else 0

def unsigned (bytes : ByteArray) (start count : Nat) : Nat :=
  (List.range count).foldl (fun n i => 256 * n + byteAt bytes (start + i)) 0

/-- A number of so many bits, of which the first tells that it is negative. -/
def signed (bits n : Nat) : Int :=
  if n < Nat.pow 2 (bits - 1) then n else (n : Int) - Nat.pow 2 bits

/--
A number of one to nine bytes, and the place after it: every byte but the ninth gives seven bits,
and says whether another one follows.
-/
def shortNumber (bytes : ByteArray) (room : Nat) (before : Nat) (i : Nat) : Nat × Nat :=
  let byte := byteAt bytes i
  match room with
  | 0 => (256 * before + byte, i + 1)
  | room + 1 =>
    if byte < 128 then (128 * before + byte, i + 1)
    else shortNumber bytes room (128 * before + byte % 128) (i + 1)

/-- The number of one to nine bytes at a place, and the place after it. -/
def numberAt (bytes : ByteArray) (i : Nat) : Nat × Nat :=
  shortNumber bytes 8 0 i

/-! ### Fields of a record -/

/-- How many bytes a field of this type takes. -/
def fieldSize (type : Nat) : Nat :=
  if 12 ≤ type then (type - 12) / 2
  else match type with
    | 1 => 1
    | 2 => 2
    | 3 => 3
    | 4 => 4
    | 5 => 6
    | 6 | 7 => 8
    | _ => 0

/-- A number of 64 bits: a sign, eleven bits of exponent and 52 of mantissa. -/
def realOfBits (bits : Nat) : Binary64 :=
  let exponent : Nat := bits / Nat.pow 2 52 % Nat.pow 2 11
  let mantissa : Nat := bits % Nat.pow 2 52
  .signed (Nat.pow 2 63 ≤ bits) <|
    if exponent = 0 then .finite mantissa leastExponent
    else if exponent = Nat.pow 2 11 - 1 then .infinite
    else .finite (Nat.pow 2 52 + mantissa) (leastExponent + exponent - 1)

/-- The field of this type at a place, unless there is nothing in it. -/
def fieldAt? (record : ByteArray) (type start : Nat) : Option Value :=
  let size := fieldSize type
  if 12 ≤ type then (String.fromUTF8? (record.extract start (start + size))).map .text
  else match type with
    | 0 => none
    | 7 => some (.real (realOfBits (unsigned record start 8)))
    | 8 => some (.integer 0)
    | 9 => some (.integer 1)
    | _ => some (.integer (signed (8 * size) (unsigned record start size)))

/--
The fields whose types stand from `i` on, of at most `room` of them, their bytes being at `start`.
-/
def fieldsFrom (record : ByteArray) (stop : Nat) :
    (room i start : Nat) → List (Option Value)
  | 0, _, _ => []
  | room + 1, i, start =>
    if stop ≤ i then []
    else
      let (type, next) := numberAt record i
      fieldAt? record type start :: fieldsFrom record stop room next (start + fieldSize type)

def fields (record : ByteArray) : List (Option Value) :=
  let (stop, first) := numberAt record 0
  fieldsFrom record stop stop first stop

/-! ### Pages -/

/-- A file as pages of `size` bytes, of which the first `usable` hold content. -/
structure Pages where
  bytes : ByteArray
  size : Nat
  usable : Nat

/-- The first bytes of every database. -/
def signature : String := "SQLite format 3\x00"

/-- The pages of a file, if it is a database. -/
def Pages.ofBytes? (bytes : ByteArray) : Option Pages :=
  let stored := unsigned bytes 16 2
  let size := if stored = 1 then 65536 else stored
  if (bytes.extract 0 16).data = signature.toUTF8.data ∧ 512 ≤ size ∧ 100 ≤ bytes.size then
    some ⟨bytes, size, size - byteAt bytes 20⟩
  else none

namespace Pages

/-- Where a page begins; pages are counted from one. -/
def start (pages : Pages) (page : Nat) : Nat :=
  (page - 1) * pages.size

/-- The end of a record that goes on in a chain of at most `room` pages. -/
def chain (pages : Pages) : (room page length : Nat) → ByteArray
  | 0, _, _ => .empty
  | room + 1, page, length =>
    let first := pages.start page + 4
    let taken := min length (pages.usable - 4)
    let part := pages.bytes.extract first (first + taken)
    if length ≤ taken then part
    else part ++ pages.chain room (unsigned pages.bytes (pages.start page) 4) (length - taken)

/-- The record of some length at a place. -/
def record (pages : Pages) (first length : Nat) : ByteArray :=
  let most := pages.usable - 35
  if length ≤ most then pages.bytes.extract first (first + length)
  else
    let least := (pages.usable - 12) * 32 / 255 - 23
    let wanted := least + (length - least) % (pages.usable - 4)
    let kept := if wanted ≤ most then wanted else least
    pages.bytes.extract first (first + kept) ++
      pages.chain (pages.bytes.size / pages.size) (unsigned pages.bytes (first + kept) 4)
        (length - kept)

/-- The rows below a page: their ids and records.  The tree has at most `depth` levels. -/
def rows (pages : Pages) : (depth page : Nat) → List (Int × ByteArray)
  | 0, _ => []
  | depth + 1, page =>
    let start := pages.start page
    let header := if page = 1 then start + 100 else start
    let count := unsigned pages.bytes (header + 3) 2
    let cell (width i : Nat) : Nat := start + unsigned pages.bytes (header + width + 2 * i) 2
    match byteAt pages.bytes header with
    | 13 => (List.range count).map fun i =>
      let (length, next) := numberAt pages.bytes (cell 8 i)
      let (id, first) := numberAt pages.bytes next
      (signed 64 id, pages.record first length)
    | 5 =>
      (List.range count).flatMap (fun i => pages.rows depth (unsigned pages.bytes (cell 12 i) 4)) ++
        pages.rows depth (unsigned pages.bytes (header + 8) 4)
    | _ => []

/-- More levels than the tree of any table has. -/
def levels : Nat := 20

/-- The first page of the table of links, if there is such a table. -/
def linkPage? (pages : Pages) : Option Nat :=
  (pages.rows levels 1).findSome? fun (_, record) =>
    match fields record with
    | some (.text "table") :: some (.text name) :: _ :: some (.integer page) :: _ =>
      if Text.sameAscii name "link" then some page.toNat else none
    | _ => none

end Pages

/-- The row of a record of the table of links; the id stands outside the record. -/
def row? (id : Int) (record : ByteArray) : Option Row :=
  match fields record with
  | [_, some title, some url, some note, some archive, some favorite] =>
    some ⟨id, title.shown, url.shown, note.shown, archive, favorite⟩
  | _ => none

/-- A table with one more row, unless its id is taken. -/
def addRow (table : Table) (row : Row) : Table :=
  if fresh : row.id ∈ table.rows.map Row.id then table
  else ⟨row :: table.rows, List.nodup_cons.2 ⟨fresh, table.ids_nodup⟩⟩

/--
What a database file holds: the table of links or nothing of interest; none if it is no database.
-/
def read? (bytes : ByteArray) : Option (Option Table) :=
  (Pages.ofBytes? bytes).map fun pages =>
    pages.linkPage?.map fun page =>
      let rows := (pages.rows Pages.levels page).filterMap fun (id, record) => row? id record
      rows.foldl addRow .empty

end LinkSearch.Links.DatabaseFile
