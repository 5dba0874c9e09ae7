import LinkSearch.Proofs.Query.Accounting

/-!
# Values stay out of the statement

With fields that compare columns, the text of a predicate is decided by the schema and by which
fields the terms name.  The values of the terms are bound, each in its place and nowhere else.
-/

namespace LinkSearch.Query

open LinkSearch.Sql

/-- What a term asks for apart from its value: a field by its name, or no field. -/
def Term.fieldName? : Term → Option String
  | .field name _ => some name
  | .loose _ => none

/-- The values that a term binds. -/
inductive Binds (schema : Schema) : Term → List Bound → Prop where
  /-- The truth value that the term spells, as 1 or 0. -/
  | flag {name value : String} {column : ColumnName} {flag : Bool}
      (registered : .ofColumn .boolean name column ∈ schema.fields)
      (spelled : SpellsBoolean flag value) :
      Binds schema (.field name value) [.integer (if flag then 1 else 0)]
  /-- The value as it is written. -/
  | text {name value : String} {column : ColumnName}
      (registered : .ofColumn .string name column ∈ schema.fields) :
      Binds schema (.field name value) [.text value]
  /-- The value as it is written, once for each column that is searched. -/
  | loose {value : String} :
      Binds schema (.loose value) (List.replicate schema.looseColumns.length (.text value))

theorem HasTest.binds {schema : Schema} {term : Term} {leg : Fragment}
    (has : HasTest schema term leg) : Binds schema term leg.params := by
  cases has with
  | flag registered spelled =>
    rw [Fragment.params_flagEquals, Bound.ofBool]
    exact .flag registered spelled
  | text registered =>
    rw [Fragment.params_contains]
    exact .text registered
  | loose => exact .loose

/-- Two fields of one name are one field, so they compare one column in one way. -/
theorem Schema.ofColumn_unique {schema : Schema} {name : String} {first second : Kind}
    {column other : ColumnName} (one : .ofColumn first name column ∈ schema.fields)
    (two : .ofColumn second name other ∈ schema.fields) :
    Field.ofColumn first name column = .ofColumn second name other :=
  List.inj_on_of_nodup_map schema.names_nodup one two (by simp)

/-- Terms that differ in their values at most have tests of one text. -/
theorem HasTest.sql_eq {schema : Schema} {first second : Term} {leg other : Fragment}
    (one : HasTest schema first leg) (two : HasTest schema second other)
    (shape : first.fieldName? = second.fieldName?) : leg.sql = other.sql := by
  cases one with
  | loose =>
    cases two with
    | loose => rfl
    | flag | text => cases shape
  | @flag _ _ column flag registered =>
    cases two with
    | loose => cases shape
    | @flag _ _ _ value again =>
      cases shape
      have same := (Field.boolean.inj (Schema.ofColumn_unique registered again)).2
      rw [← congrFun same value, Fragment.sql_flagEquals, Fragment.sql_flagEquals]
    | text again =>
      cases shape
      cases Schema.ofColumn_unique registered again
  | @text _ _ column registered =>
    cases two with
    | loose => cases shape
    | flag again =>
      cases shape
      cases Schema.ofColumn_unique registered again
    | @text _ value _ again =>
      cases shape
      have same := (Field.string.inj (Schema.ofColumn_unique registered again)).2
      rw [← congrFun same value, Fragment.sql_contains, Fragment.sql_contains]

/-- What an accepted query has for a predicate if the fields compare columns. -/
theorem Schema.ComparesColumns.tests {schema : Schema} (compares : schema.ComparesColumns)
    {query : String} {fragment : Fragment} (accepted : schema.predicate query = .ok fragment) :
    ∃ legs, List.Forall₂ (HasTest schema) (Term.readAll query.toList) legs ∧
      fragment = conjunction legs := by
  cases predicate_eq_iff.mp accepted with
  | accepted _ _ _ have_legs =>
    exact ⟨_, have_legs.imp fun _ _ has => has.hasTest compares, rfl⟩

/-- Tests of terms that differ in their values at most have the same texts, one by one. -/
theorem map_sql_eq {schema : Schema} {first second : List Term} {legs others : List Fragment}
    (one : List.Forall₂ (HasTest schema) first legs)
    (two : List.Forall₂ (HasTest schema) second others)
    (shape : first.map Term.fieldName? = second.map Term.fieldName?) :
    legs.map Fragment.sql = others.map Fragment.sql := by
  induction one generalizing second others with
  | nil =>
    cases two with
    | nil => rfl
    | cons => simp at shape
  | cons has _ ih =>
    cases two with
    | nil => simp at shape
    | cons has_other later =>
      simp only [List.map_cons, List.cons.injEq] at shape ⊢
      exact ⟨has.sql_eq has_other shape.1, ih later shape.2⟩

theorem sql_conjunction_eq {legs others : List Fragment}
    (same : legs.map Fragment.sql = others.map Fragment.sql) :
    (conjunction legs).sql = (conjunction others).sql := by
  have empty : legs = [] ↔ others = [] := by
    rw [← List.map_eq_nil_iff (f := Fragment.sql), same, List.map_eq_nil_iff]
  by_cases none_left : legs = []
  · rw [empty.mp none_left, none_left]
  · simp [conjunction, none_left, mt empty.mpr none_left, same]

/-- The values of a conjunction are those of its legs, in order. -/
theorem params_conjunction (legs : List Fragment) :
    (conjunction legs).params = legs.flatMap Fragment.params := by
  unfold conjunction
  split
  · next none_left => simp [none_left]
  · rfl

/-- The bound values of an accepted query are those of its terms, in order. -/
theorem Schema.ComparesColumns.binds {schema : Schema} (compares : schema.ComparesColumns)
    {query : String} {fragment : Fragment} (accepted : schema.predicate query = .ok fragment) :
    ∃ values, List.Forall₂ (Binds schema) (Term.readAll query.toList) values ∧
      fragment.params = values.flatten := by
  obtain ⟨legs, tests, rfl⟩ := compares.tests accepted
  refine ⟨legs.map Fragment.params, ?_, ?_⟩
  · rw [List.forall₂_map_right_iff]
    exact tests.imp fun _ _ has => has.binds
  · rw [params_conjunction, List.flatMap_def]

/--
Two accepted queries whose terms name the same fields in the same order, and are loose in the same
places, have predicates of one text, whatever their values.  In each accepted query every term binds
its value, a truth value as 1 or 0 and a loose value once for each column, in the order of the
terms, and nothing else is bound.
-/
theorem values_only_bound (schema : Schema) (compares : schema.ComparesColumns)
    (first second : String) (predicate other : Fragment)
    (accepted : schema.predicate first = .ok predicate)
    (accepted_other : schema.predicate second = .ok other) :
    ((Term.readAll first.toList).map Term.fieldName? =
        (Term.readAll second.toList).map Term.fieldName? → predicate.sql = other.sql) ∧
    (∃ values, List.Forall₂ (Binds schema) (Term.readAll first.toList) values ∧
      predicate.params = values.flatten) ∧
    (∃ values, List.Forall₂ (Binds schema) (Term.readAll second.toList) values ∧
      other.params = values.flatten) := by
  refine ⟨?_, compares.binds accepted, compares.binds accepted_other⟩
  intro shape
  obtain ⟨legs, tests, rfl⟩ := compares.tests accepted
  obtain ⟨others, other_tests, rfl⟩ := compares.tests accepted_other
  exact sql_conjunction_eq (map_sql_eq tests other_tests shape)

/-- A column whose name looks like a place for a value. -/
def titleColumn : ColumnName := ⟨["l", "tit?le"], by decide, by decide⟩

/-- A flag and a text, and two columns for loose terms. -/
def flagAndText : Schema where
  fields := [.ofColumn .boolean "archive" ⟨["archive"], by decide, by decide⟩,
    .ofColumn .string "title" titleColumn]
  looseColumns := [titleColumn, ⟨["url"], by decide, by decide⟩]
  names_nodup := by decide

theorem flagAndText_comparesColumns : flagAndText.ComparesColumns := by
  intro field member
  simp only [flagAndText, List.mem_cons, List.not_mem_nil, or_false] at member
  rcases member with rfl | rfl
  · exact ⟨_, _, _, rfl⟩
  · exact ⟨_, _, _, rfl⟩

/-- A title, a loose text and a flag are accepted with any values that spell what they must. -/
theorem flagAndText_predicate {query title text spelling : String} {flag : Bool}
    (terms : Term.readAll query.toList =
      [.field "title" title, .loose text, .field "archive" spelling])
    (spelled : SpellsBoolean flag spelling) :
    flagAndText.predicate query = .ok (conjunction [.contains titleColumn title,
      disjunction flagAndText.looseColumns text,
      .flagEquals ⟨["archive"], by decide, by decide⟩ flag]) := by
  have archive : .ofColumn .boolean "archive" ⟨["archive"], by decide, by decide⟩ ∈
    flagAndText.fields := List.mem_cons_self
  have words : .ofColumn .string "title" titleColumn ∈ flagAndText.fields :=
    List.mem_cons_of_mem _ List.mem_cons_self
  have columns : flagAndText.looseColumns ≠ [] := List.cons_ne_nil _ _
  rw [predicate_eq_iff, terms]
  refine .accepted (by simp) ?_ (fun _ _ => columns) (.cons (.field (.string words))
    (.cons (.loose columns) (.cons (.field (.boolean archive spelled)) .nil)))
  intro term member
  simp only [List.mem_cons, List.not_mem_nil, or_false] at member
  rcases member with rfl | rfl | rfl
  · exact issue?_string words
  · rfl
  · rw [Field.ofColumn] at archive
    rw [issue?_boolean archive, if_neg fun unspelled => unspelled flag spelled]

/-- Values that look like parts of a statement change nothing in the statement. -/
theorem values_only_bound_hostile :
    ∃ predicate other,
      flagAndText.predicate "title:`x' AND (1=1) OR ?` \"'); --\" archive:TRUE" = .ok predicate ∧
      flagAndText.predicate "title:rust lang archive:false" = .ok other ∧
      predicate.sql = other.sql := by
  have first : Term.readAll "title:`x' AND (1=1) OR ?` \"'); --\" archive:TRUE".toList =
      [.field "title" "x' AND (1=1) OR ?", .loose "'); --", .field "archive" "TRUE"] :=
    Term.readAll_of_readSteps (show Term.readSteps 5 _ = _ by decide)
  have second : Term.readAll "title:rust lang archive:false".toList =
      [.field "title" "rust", .loose "lang", .field "archive" "false"] :=
    Term.readAll_of_readSteps (show Term.readSteps 5 _ = _ by decide)
  have accepted := flagAndText_predicate first (show SpellsBoolean true "TRUE" by decide)
  have accepted_other := flagAndText_predicate second (show SpellsBoolean false "false" by decide)
  refine ⟨_, _, accepted, accepted_other, ?_⟩
  apply (values_only_bound flagAndText flagAndText_comparesColumns _ _ _ _ accepted
    accepted_other).1
  rw [first, second]
  rfl

end LinkSearch.Query
