import LinkSearch.Toml.Value

/-!
# Tables under construction

The lines of a document fill its tables.  Which further lines a table admits depends on how it came
to be: by its own header, as a step on the way of another header, or by a dotted key.  A table
written in braces is a value and admits none.
-/

namespace LinkSearch.Toml

/-- How a table came to be. -/
inductive Origin where
  /-- By a header of its own, or as the document itself. -/
  | defined
  /-- As a step on the way to the table of a header. -/
  | implied
  /-- As a step of a dotted key. -/
  | dotted
  deriving DecidableEq

/-- What a key of a table under construction holds. -/
inductive Node where
  | value (v : Value)
  | table (origin : Origin) (entries : List (String × Node))
  /-- The tables of an array, each begun by a header in double brackets; the last one is open. -/
  | tables (elements : List Node)

/-- The entries of a table under construction, in the order of their first mention. -/
abbrev Entries := List (String × Node)

/-- Changes what a key holds; a key that is not there yet is added at the end. -/
def Entries.alter? (key : String) (change : Option Node → Option Node) :
    Entries → Option Entries
  | [] => (change none).map fun node => [(key, node)]
  | (found, node) :: rest =>
    if found = key then (change (some node)).map fun node => (key, node) :: rest
    else (Entries.alter? key change rest).map ((found, node) :: ·)

/--
Changes the table at the end of a path.  A step without a table makes one of the given origin; a
step onto an array of tables goes into its last table.  A dotted key does not enter a table that has
a header of its own.
-/
def Entries.descend? (made : Origin) (change : Origin → Entries → Option Entries) :
    List String → Origin → Entries → Option Entries
  | [], origin, entries => change origin entries
  | key :: path, _, entries =>
    entries.alter? key fun
      | none => (Entries.descend? made change path made []).map (Node.table made)
      | some (.table origin inner) =>
        if made = .dotted ∧ origin = .defined then none
        else (Entries.descend? made change path origin inner).map (Node.table origin)
      | some (.tables elements) =>
        match elements.getLast? with
        | some (.table origin inner) =>
          (Entries.descend? made change path origin inner).map fun inner =>
            .tables (elements.dropLast ++ [.table origin inner])
        | _ => none
      | some (.value _) => none

/-- Begins the table of a header; it must not have one already. -/
def Entries.beginTable? (path : List String) (key : String) (entries : Entries) : Option Entries :=
  entries.descend? .implied (fun _ inner => inner.alter? key fun
    | none => some (.table .defined [])
    | some (.table .implied inner) => some (.table .defined inner)
    | some _ => none) path .defined

/-- Begins a further table of an array. -/
def Entries.beginElement? (path : List String) (key : String) (entries : Entries) :
    Option Entries :=
  entries.descend? .implied (fun _ inner => inner.alter? key fun
    | none => some (.tables [.table .defined []])
    | some (.tables elements) => some (.tables (elements ++ [.table .defined []]))
    | some _ => none) path .defined

/-- Adds a value under a new key, reached from the current table by the steps of a dotted key. -/
def Entries.addValue? (path : List String) (key : String) (value : Value) (entries : Entries) :
    Option Entries :=
  entries.descend? .dotted (fun origin inner =>
    if path ≠ [] ∧ origin ≠ .dotted then none
    else inner.alter? key fun
      | none => some (.value value)
      | some _ => none) path .defined

mutual

/-- The value that a finished table or array of tables is. -/
def Node.toValue : Node → Value
  | .value v => v
  | .table _ entries => .table (entriesToValues entries)
  | .tables elements => .array (elementsToValues elements)

/-- The values of the entries of a finished table. -/
def entriesToValues : List (String × Node) → List (String × Value)
  | [] => []
  | (key, node) :: rest => (key, node.toValue) :: entriesToValues rest

/-- The values of the tables of a finished array. -/
def elementsToValues : List Node → List Value
  | [] => []
  | node :: rest => node.toValue :: elementsToValues rest

end

end LinkSearch.Toml
