import LinkSearch.Links.Store

/-!
# Searching the store

A search answers the links whose rows satisfy a condition, newest first and at most as many as the
limit says.  It fails if the statement cannot be carried out, or if a row to be answered holds
something else than an integer as a flag.
-/

namespace LinkSearch.Links

open LinkSearch.Sql

/-- Why a search has no answer. -/
inductive SearchError where
  /-- The statement cannot be carried out. -/
  | statement (fault : Fault)
  /-- This column of a row is no flag. -/
  | noFlag (column : Column) (found : Value)
  deriving DecidableEq

/-- The word for what a value is. -/
def typeWord : Value → String
  | .integer _ => "Integer"
  | .real _ => "Real"
  | .text _ => "Text"

/-- The place of a column among those of the table. -/
def Column.index (column : Column) : Nat :=
  Column.all.idxOf column

/-- What a row holds that is no flag. -/
def noFlagMessage (column : Column) (found : Value) : String :=
  "Invalid column type " ++ typeWord found ++ " at index: " ++ toString column.index ++
    ", name: " ++ column.name

/-- What went wrong, with the place in the statement if it is known. -/
def SearchError.message (sql : String) : SearchError → String
  | .statement fault => "link query failed: " ++ fault.located sql
  | .noFlag column found => "link query failed: " ++ noFlagMessage column found

/-- A flag is an integer, and set unless it is zero. -/
def readFlag (column : Column) : Value → Except SearchError Bool
  | .integer n => .ok (n ≠ 0)
  | found => .error (.noFlag column found)

def Row.link (row : Row) : Except SearchError Link := do
  let archive ← readFlag .archive row.archive
  let favorite ← readFlag .favorite row.favorite
  return ⟨row.id, row.title, row.url, row.note, archive, favorite⟩

/-- Whether a row satisfies a condition. -/
def Row.satisfies (row : Row) (condition : Expression Reference) : Bool :=
  condition.holds (Reference.value row) Reference.affinity

def Table.answer (table : Table) (selection : Selection Reference) :
    Except SearchError (List Link) :=
  ((table.newestFirst.filter (·.satisfies selection.condition)).take
    selection.limit.toNat).mapM Row.link

/-- The links that a statement selects.  It is read before the store is looked at. -/
def Store.run (store : Store) (statement : Fragment) : Except SearchError (List Link) := do
  let selection ← (Selection.parse statement).mapError .statement
  let table ← store.table.mapError .statement
  let selection ← selection.resolve.mapError .statement
  table.answer selection

/-- The links that satisfy a condition. -/
def Store.search (store : Store) (condition : Fragment) (limit : Nat) :
    Except SearchError (List Link) :=
  store.run (select condition limit)

end LinkSearch.Links
