import LinkSearch.Proofs.Links.Selections
import LinkSearch.Proofs.Query.BoundValues

/-!
# Rows that fit a term

With fields that test columns of the table, a term describes rows: those with its flag, or with its
value in a text.  Its test is a condition that exactly these rows satisfy, and the number of its
levels is known.
-/

namespace LinkSearch.Links

open LinkSearch.Sql LinkSearch.Query

/-! ### What a query describes -/

/-- The name of a column of the table, bare or qualified by what a search calls the table. -/
def NamesColumn (name : ColumnName) (column : Column) : Prop :=
  name.segments = [column.name] ∨ name.segments = ["l", column.name]

/-- The kind of the fields that may test a column. -/
def Column.kind? : Column → Option Kind
  | .id => none
  | .title | .url | .note => some .string
  | .archive | .favorite => some .boolean

/-- The fields test columns of their kind, and loose values are looked for in columns of text. -/
structure SearchesLinks (schema : Schema) : Prop where
  fields : ∀ field ∈ schema.fields, ∃ kind name columnName column,
    field = .ofColumn kind name columnName ∧ NamesColumn columnName column ∧
      column.kind? = some kind
  columns : ∀ columnName ∈ schema.looseColumns, ∃ column,
    NamesColumn columnName column ∧ column.kind? = some .string

/-- The row is what the term asks for. -/
inductive Row.Fits (schema : Schema) (row : Row) : Term → Prop where
  /-- The flag in the column of the field is the one that the term spells. -/
  | flag {name value : String} {columnName : ColumnName} {column : Column} {flag : Bool}
      (registered : .ofColumn .boolean name columnName ∈ schema.fields)
      (named : NamesColumn columnName column) (spelled : SpellsBoolean flag value)
      (equal : row.get column = .integer (if flag then 1 else 0)) :
      Fits schema row (.field name value)
  /-- The text in the column of the field contains the value. -/
  | text {name value text : String} {columnName : ColumnName} {column : Column}
      (registered : .ofColumn .string name columnName ∈ schema.fields)
      (named : NamesColumn columnName column) (stored : row.get column = .text text)
      (contains : ContainsUpToCase text value) : Fits schema row (.field name value)
  /-- The text in some column for loose values contains the value. -/
  | loose {value text : String} {columnName : ColumnName} {column : Column}
      (member : columnName ∈ schema.looseColumns) (named : NamesColumn columnName column)
      (stored : row.get column = .text text) (contains : ContainsUpToCase text value) :
      Fits schema row (.loose value)

/-- The levels that a term adds to the predicate of its query. -/
inductive HasLevels (schema : Schema) : Term → Nat → Prop where
  | flag {name value : String} {column : ColumnName}
      (registered : .ofColumn .boolean name column ∈ schema.fields) :
      HasLevels schema (.field name value) (column.segments.length + 1)
  | text {name value : String} {column : ColumnName}
      (registered : .ofColumn .string name column ∈ schema.fields) :
      HasLevels schema (.field name value) (column.segments.length + 3)
  /-- The tests of the columns are a chain. -/
  | loose {value : String} : HasLevels schema (.loose value)
      (chainLevels (schema.looseColumns.map (·.segments.length + 3)))

/-! ### Names and columns -/

/-- The column that the last part of a name names. -/
def columnOf (segments : List String) : Column :=
  (segments.getLast?.bind Column.ofName?).getD .id

theorem NamesColumn.columnOf_eq {name : ColumnName} {column : Column}
    (named : NamesColumn name column) : columnOf name.segments = column := by
  rcases named with segments | segments
  all_goals
    rw [segments]
    cases column <;> decide

theorem NamesColumn.ofMention {name : ColumnName} {column : Column}
    (named : NamesColumn name column) (offset : Nat) :
    Reference.ofMention ⟨name.segments, offset⟩ = .ok (.column (columnOf name.segments)) := by
  rw [named.columnOf_eq]
  rcases named with segments | segments
  all_goals
    rw [segments]
    cases column <;> rfl

theorem NamesColumn.unique {name : ColumnName} {first second : Column}
    (one : NamesColumn name first) (two : NamesColumn name second) : first = second :=
  one.columnOf_eq.symm.trans two.columnOf_eq

theorem ofColumn_injective {first second : Kind} {name : String} {column other : ColumnName}
    (same : Field.ofColumn first name column = .ofColumn second name other) :
    first = second ∧ column = other := by
  cases first with
  | boolean =>
    cases second with
    | boolean =>
      have texts := congrArg Fragment.sql (congrFun (Field.boolean.inj same).2 true)
      simp only [Fragment.sql_flagEquals, String.append_left_inj] at texts
      exact ⟨rfl, ColumnName.render_injective texts⟩
    | string => cases same
  | string =>
    cases second with
    | boolean => cases same
    | string =>
      have texts := congrArg Fragment.sql (congrFun (Field.string.inj same).2 "")
      simp only [Fragment.sql_contains, String.append_left_inj, String.append_right_inj] at texts
      exact ⟨rfl, ColumnName.render_injective texts⟩

/-- A schema has one field of each name, and this field tests one column. -/
theorem registered_unique {schema : Schema} {first second : Kind} {name : String}
    {column other : ColumnName} (one : .ofColumn first name column ∈ schema.fields)
    (two : .ofColumn second name other ∈ schema.fields) : first = second ∧ column = other :=
  ofColumn_injective (Schema.ofColumn_unique one two)

/-- A field tests a column of its kind. -/
theorem SearchesLinks.exists_column {schema : Schema} (searches : SearchesLinks schema)
    {kind : Kind} {name : String} {columnName : ColumnName}
    (registered : .ofColumn kind name columnName ∈ schema.fields) :
    ∃ column, NamesColumn columnName column ∧ column.kind? = some kind := by
  obtain ⟨other, otherName, otherColumn, column, same, named, kind_eq⟩ :=
    searches.fields _ registered
  have names : name = otherName := by simpa using congrArg Field.name same
  subst names
  obtain ⟨rfl, rfl⟩ := ofColumn_injective same
  exact ⟨column, named, kind_eq⟩

theorem exists_text {column : Column} (row : Row) (kind : column.kind? = some .string) :
    ∃ text, row.get column = .text text := by
  cases column with
  | title | url | note => exact ⟨_, rfl⟩
  | id | archive | favorite => cases kind

theorem exists_flag {column : Column} {row : Row} (flags : row.HasFlags)
    (kind : column.kind? = some .boolean) :
    column.affinity = .numeric ∧ ∃ n, row.get column = .integer n := by
  cases column with
  | archive => exact ⟨rfl, flags.1.elim (fun off => ⟨0, off⟩) fun on => ⟨1, on⟩⟩
  | favorite => exact ⟨rfl, flags.2.elim (fun off => ⟨0, off⟩) fun on => ⟨1, on⟩⟩
  | id | title | url | note => cases kind

/-! ### Conditions on rows -/

/-- A row satisfies a condition under the values that it has for the names. -/
theorem satisfies_map {ν : Type} (row : Row) (reference : ν → Reference)
    (condition : Expression ν) :
    row.satisfies (condition.map reference) =
      condition.holds (fun name => (reference name).value row)
        fun name => (reference name).affinity :=
  Expression.holds_map _ _ _ _

theorem satisfies_chain_and {ν : Type} {row : Row} {reference : ν → Reference}
    {first : Expression ν} {rest : List (Expression ν)} :
    row.satisfies ((chain .and first rest).map reference) = true ↔
      ∀ part ∈ first :: rest, row.satisfies (part.map reference) = true := by
  simp only [satisfies_map]
  exact holds_chain_and _ _ first rest

theorem satisfies_chain_or {ν : Type} {row : Row} {reference : ν → Reference}
    {first : Expression ν} {rest : List (Expression ν)} :
    row.satisfies ((chain .or first rest).map reference) = true ↔
      ∃ part ∈ first :: rest, row.satisfies (part.map reference) = true := by
  simp only [satisfies_map]
  exact holds_chain_or _ _ first rest

/-- Whether the row satisfies a condition whose names are given by their parts. -/
def Row.meets (row : Row) (condition : Expression (List String)) : Bool :=
  row.satisfies (condition.map fun segments => .column (columnOf segments))

theorem meets_eq (row : Row) (condition : Expression (List String)) :
    row.meets condition = condition.holds (fun segments => row.get (columnOf segments))
      fun segments => (columnOf segments).affinity :=
  satisfies_map row _ condition

theorem meets_flagTest {row : Row} {name : ColumnName} {column : Column} {n : Int} (flag : Bool)
    (named : NamesColumn name column) (stored : row.get column = .integer n)
    (numeric : column.affinity = .numeric) :
    row.meets (flagTest name.segments flag) = true ↔ n = if flag then 1 else 0 := by
  rw [meets_eq]
  apply holds_flagTest
  · rw [named.columnOf_eq, stored]
  · rw [named.columnOf_eq, numeric]

theorem meets_textTest {row : Row} {name : ColumnName} {column : Column} {text : String}
    (value : String) (named : NamesColumn name column) (stored : row.get column = .text text) :
    row.meets (textTest name.segments value) = true ↔ ContainsUpToCase text value := by
  rw [meets_eq]
  apply holds_textTest
  rw [named.columnOf_eq, stored]

theorem meets_chain_and {row : Row} {first : Expression (List String)}
    {rest : List (Expression (List String))} :
    row.meets (chain .and first rest) = true ↔
      ∀ part ∈ first :: rest, row.meets part = true :=
  satisfies_chain_and

theorem meets_chain_or {row : Row} {first : Expression (List String)}
    {rest : List (Expression (List String))} :
    row.meets (chain .or first rest) = true ↔
      ∃ part ∈ first :: rest, row.meets part = true :=
  satisfies_chain_or

theorem levels_flagTest (name : ColumnName) (flag : Bool) :
    (flagTest name.segments flag).levels List.length = name.segments.length + 1 := by
  have parts := List.length_pos_iff.mpr name.segments_ne_nil
  simp only [flagTest, Expression.levels, Operand.levels]
  omega

theorem levels_textTest (name : ColumnName) (value : String) :
    (textTest name.segments value).levels List.length = name.segments.length + 3 := by
  have parts := List.length_pos_iff.mpr name.segments_ne_nil
  simp only [textTest, Expression.levels, Operand.levels]
  omega

/-! ### Terms -/

/-- A condition that asks of a row what the term asks. -/
structure Renders (schema : Schema) (term : Term) (condition : Expression (List String)) :
    Prop where
  levels : HasLevels schema term (condition.levels List.length)
  known : ∀ segments ∈ condition.names, ∀ offset,
    Reference.ofMention ⟨segments, offset⟩ = .ok (.column (columnOf segments))
  fits : ∀ row : Row, row.HasFlags → (row.meets condition = true ↔ row.Fits schema term)

section Terms

variable {schema : Schema} (searches : SearchesLinks schema)

include searches

theorem renders_flag {name value : String} {columnName : ColumnName} {flag : Bool}
    (registered : .ofColumn .boolean name columnName ∈ schema.fields)
    (spelled : SpellsBoolean flag value) :
    Renders schema (.field name value) (flagTest columnName.segments flag) := by
  obtain ⟨column, named, kind⟩ := searches.exists_column registered
  refine ⟨?_, ?_, fun row flags => ?_⟩
  · rw [levels_flagTest]
    exact .flag registered
  · intro segments member
    rw [names_flagTest, List.mem_singleton] at member
    rw [member]
    exact named.ofMention
  · obtain ⟨numeric, n, stored⟩ := exists_flag flags kind
    rw [meets_flagTest flag named stored numeric]
    constructor
    · rintro rfl
      exact .flag registered named spelled stored
    · intro fits
      cases fits with
      | text other => cases (registered_unique registered other).1
      | flag other otherNamed otherSpelled equal =>
        obtain rfl := (registered_unique registered other).2
        obtain rfl := named.unique otherNamed
        obtain rfl := spelled.unique otherSpelled
        exact Value.integer.inj (stored.symm.trans equal)

theorem renders_text {name value : String} {columnName : ColumnName}
    (registered : .ofColumn .string name columnName ∈ schema.fields) :
    Renders schema (.field name value) (textTest columnName.segments value) := by
  obtain ⟨column, named, kind⟩ := searches.exists_column registered
  refine ⟨?_, ?_, fun row _ => ?_⟩
  · rw [levels_textTest]
    exact .text registered
  · intro segments member
    rw [names_textTest, List.mem_singleton] at member
    rw [member]
    exact named.ofMention
  · obtain ⟨text, stored⟩ := exists_text row kind
    rw [meets_textTest value named stored]
    constructor
    · exact .text registered named stored
    · intro fits
      cases fits with
      | flag other => cases (registered_unique registered other).1
      | text other otherNamed otherStored contains =>
        obtain rfl := (registered_unique registered other).2
        obtain rfl := named.unique otherNamed
        cases stored.symm.trans otherStored
        exact contains

theorem renders_loose {first : ColumnName} {others : List ColumnName} (value : String)
    (columns : schema.looseColumns = first :: others) :
    Renders schema (.loose value) (chain .or (textTest first.segments value)
      (others.map fun column => textTest column.segments value)) := by
  have tests : textTest first.segments value ::
      others.map (fun column => textTest column.segments value) =
        schema.looseColumns.map fun column => textTest column.segments value := by
    rw [columns, List.map_cons]
  refine ⟨?_, ?_, fun row _ => ?_⟩
  · rw [levels_chain, tests, List.map_map]
    have heights : Expression.levels List.length ∘
        (fun column : ColumnName => textTest column.segments value) =
          fun column => column.segments.length + 3 := by
      funext column
      exact levels_textTest column value
    rw [heights]
    exact .loose
  · intro segments member
    rw [mem_names_chain, tests] at member
    obtain ⟨_, test, inside⟩ := member
    obtain ⟨columnName, present, rfl⟩ := List.mem_map.mp test
    obtain ⟨column, named, _⟩ := searches.columns columnName present
    rw [names_textTest, List.mem_singleton] at inside
    rw [inside]
    exact named.ofMention
  · rw [meets_chain_or, tests]
    constructor
    · rintro ⟨_, test, meets⟩
      obtain ⟨columnName, present, rfl⟩ := List.mem_map.mp test
      obtain ⟨column, named, kind⟩ := searches.columns columnName present
      obtain ⟨text, stored⟩ := exists_text row kind
      exact .loose present named stored ((meets_textTest value named stored).mp meets)
    · intro fits
      cases fits with
      | loose present named stored contains =>
        exact ⟨_, List.mem_map_of_mem present, (meets_textTest value named stored).mpr contains⟩

end Terms

end LinkSearch.Links
