import LinkSearch.Query.Field

/-!
# Schemas

A schema holds the fields that a query can ask for, each under a name of its own, and the columns
in which loose terms are looked for.  It turns the text of a query into one predicate: the
conditions of its terms joined by AND.
-/

namespace LinkSearch.Query

open LinkSearch.Sql

/-- Some column contains the value: an OR over the columns, between round brackets. -/
def anyContains (columns : List ColumnName) (value : String) : Except Error Fragment :=
  if columns.isEmpty then .error .noLooseColumns
  else .ok (Fragment.join " OR " (columns.map (Fragment.contains · value))).parenthesized

def Condition.predicate (columns : List ColumnName) : Condition → Except Error Fragment
  | .field _ predicate => .ok predicate
  | .loose value => anyContains columns value

/-- The predicate that all conditions hold; with no conditions it holds of every row. -/
def predicate (columns : List ColumnName) (conditions : List Condition) : Except Error Fragment :=
  if conditions.isEmpty then .ok .alwaysTrue
  else do
    let legs ← conditions.mapM (Condition.predicate columns)
    return Fragment.join " AND " legs

/-- The first name that stood in the list before. -/
def firstRepeated? (seen : List String) : List String → Option String
  | [] => none
  | name :: rest => if name ∈ seen then some name else firstRepeated? (name :: seen) rest

theorem nodup_of_firstRepeated? {seen names : List String}
    (h : firstRepeated? seen names = none) : names.Nodup ∧ ∀ name ∈ names, name ∉ seen := by
  induction names generalizing seen with
  | nil => simp
  | cons name rest ih =>
    unfold firstRepeated? at h
    split at h
    · simp at h
    · next fresh =>
      have later := ih h
      refine ⟨List.nodup_cons.2 ⟨fun member => ?_, later.1⟩, ?_⟩
      · exact later.2 name member List.mem_cons_self
      · intro other member
        rcases List.mem_cons.1 member with rfl | member
        · exact fresh
        · exact fun earlier => later.2 other member (List.mem_cons_of_mem _ earlier)

/-- The name that is found is the first for which an equal one stands before it. -/
theorem firstRepeated?_eq_some_iff {seen names : List String} {name : String} :
    firstRepeated? seen names = some name ↔
      ∃ before after, names = before ++ name :: after ∧ before.Nodup ∧
        (∀ earlier ∈ before, earlier ∉ seen) ∧ (name ∈ before ∨ name ∈ seen) := by
  induction names generalizing seen with
  | nil => simp [firstRepeated?]
  | cons first rest ih =>
    unfold firstRepeated?
    by_cases repeated : first ∈ seen
    · rw [if_pos repeated]
      constructor
      · rintro ⟨⟩
        exact ⟨[], rest, rfl, List.nodup_nil, by simp, .inr repeated⟩
      · rintro ⟨before, after, parts, _, fresh, _⟩
        cases before with
        | nil => simpa using (List.cons.inj parts).1
        | cons earlier before =>
          obtain ⟨rfl, _⟩ := List.cons.inj parts
          exact absurd repeated (fresh first List.mem_cons_self)
    · rw [if_neg repeated, ih]
      constructor
      · rintro ⟨before, after, rfl, distinct, fresh, found⟩
        refine ⟨first :: before, after, rfl, ?_, ?_, ?_⟩
        · exact List.nodup_cons.2 ⟨fun member => fresh first member List.mem_cons_self, distinct⟩
        · intro earlier member
          rcases List.mem_cons.1 member with rfl | member
          · exact repeated
          · exact fun present => fresh earlier member (List.mem_cons_of_mem first present)
        · rcases found with inside | inside
          · exact .inl (List.mem_cons_of_mem first inside)
          · rcases List.mem_cons.1 inside with rfl | inside
            · exact .inl List.mem_cons_self
            · exact .inr inside
      · rintro ⟨before, after, parts, distinct, fresh, found⟩
        cases before with
        | nil =>
          obtain ⟨rfl, _⟩ := List.cons.inj parts
          simp [repeated] at found
        | cons earlier before =>
          obtain ⟨rfl, others⟩ := List.cons.inj parts
          obtain ⟨apart, distinct⟩ := List.nodup_cons.1 distinct
          refine ⟨before, after, others, distinct, ?_, ?_⟩
          · intro other member present
            rcases List.mem_cons.1 present with rfl | present
            · exact apart member
            · exact fresh other (List.mem_cons_of_mem first member) present
          · rcases found with inside | inside
            · rcases List.mem_cons.1 inside with rfl | inside
              · exact .inr List.mem_cons_self
              · exact .inl inside
            · exact .inr (List.mem_cons_of_mem first inside)

/-- Fields with distinct names, and the columns for loose terms. -/
structure Schema where
  /-- The fields, in the order of their declaration. -/
  fields : List Field
  /-- The columns in which a loose term is looked for. -/
  looseColumns : List ColumnName
  /-- No two fields have one name. -/
  names_nodup : (fields.map Field.name).Nodup

namespace Schema

/-- Makes a schema, unless two fields have one name. -/
def make (fields : List Field) (looseColumns : List ColumnName) : Except Error Schema :=
  match h : firstRepeated? [] (fields.map Field.name) with
  | some name => .error (.duplicateField name)
  | none => .ok ⟨fields, looseColumns, (nodup_of_firstRepeated? h).1⟩

/-- Takes a query apart with the fields of the schema. -/
def read (schema : Schema) (query : String) : Except Error Reading :=
  Query.read schema.fields query

/-- The predicate of some conditions, with the columns of the schema. -/
def compile (schema : Schema) (conditions : List Condition) : Except Error Fragment :=
  predicate schema.looseColumns conditions

/-- The predicate of a query; it is refused if any of its terms has an issue. -/
def predicate (schema : Schema) (query : String) : Except Error Fragment := do
  let reading ← schema.read query
  let conditions ← reading.accepted
  schema.compile conditions

end Schema

end LinkSearch.Query
