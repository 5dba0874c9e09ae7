import LinkSearch.Toml.Reader
import Mathlib.Data.List.Nodup

/-!
# The tables that lines fill

A pair is added to the table that was begun last, at the end, if the key is new there.  So a header
with pairs of distinct keys under it adds a table of these pairs, or one more table to an array.
-/

namespace LinkSearch.Toml

/-! ### One key -/

theorem alter?_of_not_mem {key : String} {entries : Entries} (absent : key ∉ entries.map Prod.fst)
    (change : Option Node → Option Node) :
    entries.alter? key change = (change none).map fun node => entries ++ [(key, node)] := by
  induction entries with
  | nil => rfl
  | cons entry entries ih =>
    obtain ⟨found, node⟩ := entry
    rw [List.map_cons, List.mem_cons, not_or] at absent
    obtain ⟨other, later⟩ := absent
    rw [Entries.alter?, if_neg (Ne.symm other), ih later, Option.map_map]
    rfl

theorem alter?_append_cons {key : String} {before : Entries} (absent : key ∉ before.map Prod.fst)
    (node : Node) (after : Entries) (change : Option Node → Option Node) :
    Entries.alter? key change (before ++ (key, node) :: after) =
      (change (some node)).map fun node => before ++ (key, node) :: after := by
  induction before with
  | nil => simp [Entries.alter?]
  | cons entry before ih =>
    obtain ⟨found, other⟩ := entry
    rw [List.map_cons, List.mem_cons, not_or] at absent
    obtain ⟨different, later⟩ := absent
    rw [List.cons_append, Entries.alter?, if_neg (Ne.symm different), ih later, Option.map_map]
    rfl

/-! ### The place that is being filled -/

/-- A path leads to a place where entries stand within those of the document. -/
def IsPlace (path : List String) (fill : Entries → Entries) : Prop :=
  ∀ (change : Origin → Entries → Option Entries) (inner : Entries),
    Entries.descend? .implied change path .defined (fill inner) =
      (change .defined inner).map fill

theorem isPlace_document : IsPlace [] id := by
  intro change inner
  rw [Option.map_id]
  rfl

theorem isPlace_table {name : String} {before : Entries} (absent : name ∉ before.map Prod.fst) :
    IsPlace [name] fun inner => before ++ [(name, .table .defined inner)] := by
  intro change inner
  simp [Entries.descend?, alter?_append_cons absent, Function.comp_def]

theorem isPlace_element {name : String} {before : Entries} (absent : name ∉ before.map Prod.fst)
    (elements : List Node) :
    IsPlace [name] fun inner =>
      before ++ [(name, .tables (elements ++ [.table .defined inner]))] := by
  intro change inner
  simp [Entries.descend?, alter?_append_cons absent, Function.comp_def]

/-! ### Pairs -/

/-- A line for each pair. -/
def pairLines (pairs : List (String × Value)) : List Line :=
  pairs.map fun (key, value) => .pair [] key value

/-- The entries that pairs make. -/
def valueEntries (pairs : List (String × Value)) : Entries :=
  pairs.map fun (key, value) => (key, .value value)

theorem map_fst_valueEntries (pairs : List (String × Value)) :
    (valueEntries pairs).map Prod.fst = pairs.map Prod.fst := by
  simp [valueEntries, Function.comp_def]

theorem entriesToValues_append (first second : Entries) :
    entriesToValues (first ++ second) = entriesToValues first ++ entriesToValues second := by
  induction first with
  | nil => rfl
  | cons entry first ih =>
    obtain ⟨key, node⟩ := entry
    rw [List.cons_append, entriesToValues, ih]
    rfl

theorem entriesToValues_valueEntries (pairs : List (String × Value)) :
    entriesToValues (valueEntries pairs) = pairs := by
  induction pairs with
  | nil => rfl
  | cons pair pairs ih =>
    obtain ⟨key, value⟩ := pair
    rw [valueEntries, List.map_cons, entriesToValues, Node.toValue, ← valueEntries, ih]

/-! ### Lines after one another -/

/-- The lines make one draft of a document out of another. -/
def Fills (start : Draft) (lines : List Line) (finish : Draft) : Prop :=
  lines.foldlM Draft.add? start = some finish

theorem Fills.nil (draft : Draft) : Fills draft [] draft := rfl

theorem Fills.cons {start next finish : Draft} {line : Line} {lines : List Line}
    (added : start.add? line = some next) (rest : Fills next lines finish) :
    Fills start (line :: lines) finish := by
  rw [Fills, List.foldlM_cons, added]
  exact rest

theorem Fills.append {start middle finish : Draft} {lines more : List Line}
    (first : Fills start lines middle) (second : Fills middle more finish) :
    Fills start (lines ++ more) finish := by
  rw [Fills, List.foldlM_append, first]
  exact second

/-! ### Sections -/

theorem add?_pair {path : List String} {fill : Entries → Entries} (place : IsPlace path fill)
    {inner : Entries} {key : String} (absent : key ∉ inner.map Prod.fst) (value : Value) :
    Draft.add? ⟨fill inner, path⟩ (.pair [] key value) =
      some ⟨fill (inner ++ [(key, .value value)]), path⟩ := by
  have added : inner.addValue? [] key value = some (inner ++ [(key, .value value)]) := by
    simp [Entries.addValue?, Entries.descend?, alter?_of_not_mem absent]
  rw [Draft.add?, place, added]
  rfl

/-- Pairs of new and distinct keys are added where the draft is being filled. -/
theorem fills_pairLines {path : List String} {fill : Entries → Entries} (place : IsPlace path fill)
    (inner : Entries) {pairs : List (String × Value)}
    (distinct : (inner.map Prod.fst ++ pairs.map Prod.fst).Nodup) :
    Fills ⟨fill inner, path⟩ (pairLines pairs) ⟨fill (inner ++ valueEntries pairs), path⟩ := by
  induction pairs generalizing inner with
  | nil =>
    rw [valueEntries, List.map_nil, List.append_nil]
    exact .nil _
  | cons pair pairs ih =>
    obtain ⟨key, value⟩ := pair
    have absent : key ∉ inner.map Prod.fst := by
      intro present
      exact (List.disjoint_of_nodup_append distinct) present List.mem_cons_self
    have others := ih (inner ++ [(key, .value value)]) (by simpa using distinct)
    rw [List.append_assoc] at others
    exact .cons (add?_pair place absent value) others

/-- A header begins a table of its own, and the pairs after it are the entries of that table. -/
theorem fills_table {name : String} {before : Entries} (absent : name ∉ before.map Prod.fst)
    (current : List String) {pairs : List (String × Value)} (distinct : (pairs.map Prod.fst).Nodup) :
    Fills ⟨before, current⟩ (.table [] name :: pairLines pairs)
      ⟨before ++ [(name, .table .defined (valueEntries pairs))], [name]⟩ := by
  have begun : Draft.add? ⟨before, current⟩ (.table [] name) =
      some ⟨before ++ [(name, .table .defined [])], [name]⟩ := by
    simp [Draft.add?, Entries.beginTable?, Entries.descend?, alter?_of_not_mem absent]
  exact .cons begun (fills_pairLines (isPlace_table absent) [] distinct)

/-- The entry of an array of tables, if it has any. -/
def arrayEntry (name : String) (elements : List Node) : Entries :=
  if elements.isEmpty then [] else [(name, .tables elements)]

theorem arrayEntry_nil (name : String) : arrayEntry name [] = [] := rfl

theorem arrayEntry_append (name : String) (elements : List Node) (last : Node) :
    arrayEntry name (elements ++ [last]) = [(name, .tables (elements ++ [last]))] := by
  simp [arrayEntry]

theorem add?_element {name : String} {before : Entries} (absent : name ∉ before.map Prod.fst)
    (elements : List Node) (current : List String) :
    Draft.add? ⟨before ++ arrayEntry name elements, current⟩ (.element [] name) =
      some ⟨before ++ [(name, .tables (elements ++ [.table .defined []]))], [name]⟩ := by
  cases elements with
  | nil =>
    simp [Draft.add?, Entries.beginElement?, Entries.descend?, arrayEntry,
      alter?_of_not_mem absent]
  | cons first others =>
    simp [Draft.add?, Entries.beginElement?, Entries.descend?, arrayEntry,
      alter?_append_cons absent]

/-- The lines of an array of tables: a header and pairs for each. -/
def elementLines (name : String) (tables : List (List (String × Value))) : List Line :=
  tables.flatMap fun pairs => .element [] name :: pairLines pairs

/-- The tables of an array, with the entries that pairs make. -/
def elementNodes (tables : List (List (String × Value))) : List Node :=
  tables.map fun pairs => .table .defined (valueEntries pairs)

/-- By induction on the tables, each of which is added to those before it. -/
theorem fills_elementLines {name : String} {before : Entries}
    (absent : name ∉ before.map Prod.fst) {tables : List (List (String × Value))}
    (distinct : ∀ pairs ∈ tables, (pairs.map Prod.fst).Nodup) (elements : List Node)
    (current : List String) :
    ∃ path, Fills ⟨before ++ arrayEntry name elements, current⟩ (elementLines name tables)
      ⟨before ++ arrayEntry name (elements ++ elementNodes tables), path⟩ := by
  induction tables generalizing elements current with
  | nil =>
    rw [elementNodes, List.map_nil, List.append_nil]
    exact ⟨current, .nil _⟩
  | cons pairs tables ih =>
    obtain ⟨first, others⟩ := List.forall_mem_cons.mp distinct
    obtain ⟨path, rest⟩ := ih others (elements ++ [.table .defined (valueEntries pairs)]) [name]
    rw [arrayEntry_append, List.append_assoc] at rest
    have filled := fills_pairLines (isPlace_element absent elements) [] first
    exact ⟨path, .cons (add?_element absent elements current) (filled.append rest)⟩

theorem elementsToValues_elementNodes (tables : List (List (String × Value))) :
    elementsToValues (elementNodes tables) = tables.map Value.table := by
  induction tables with
  | nil => rfl
  | cons pairs tables ih =>
    rw [elementNodes, List.map_cons, elementsToValues, Node.toValue, entriesToValues_valueEntries,
      ← elementNodes, ih, List.map_cons]

end LinkSearch.Toml
