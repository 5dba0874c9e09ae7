import LinkSearch.Proofs.Query.Classification

/-!
# No term is lost

A schema answers a query with a predicate that has one leg for each term, or refuses it for a reason
that depends on all terms.  The reasons have an order: too many terms, then issues, then loose terms
with no columns to look in.
-/

namespace LinkSearch.Query

open LinkSearch.Sql

/-- The legs with AND between them, and what holds of every row if there are none. -/
def conjunction (legs : List Fragment) : Fragment :=
  if legs = [] then ⟨"1=1", []⟩
  else ⟨" AND ".intercalate (legs.map Fragment.sql), legs.flatMap Fragment.params⟩

/-- One test for each column, with OR between them, in brackets; each test binds the value. -/
def disjunction (columns : List ColumnName) (value : String) : Fragment :=
  ⟨"(" ++ " OR ".intercalate
      (columns.map fun column => "instr(lower(" ++ column.render ++ "), lower(?)) != 0") ++ ")",
    List.replicate columns.length (.text value)⟩

/-- The leg that a term adds to the predicate of its query. -/
inductive HasLeg (schema : Schema) : Term → Fragment → Prop where
  /-- The predicate of a field is taken over unchanged. -/
  | field {term : Term} {name : String} {predicate : Fragment}
      (condition : HasCondition schema term (.field name predicate)) : HasLeg schema term predicate
  /-- A loose value is looked for in all columns. -/
  | loose {value : String} (columns : schema.looseColumns ≠ []) :
      HasLeg schema (.loose value) (disjunction schema.looseColumns value)

theorem anyContains_eq_disjunction {columns : List ColumnName} (value : String)
    (present : columns ≠ []) : anyContains columns value = .ok (disjunction columns value) := by
  rw [anyContains, if_neg (by simpa using present)]
  congr 1
  rw [disjunction, Fragment.mk.injEq]
  constructor
  · simp [Function.comp_def]
  · rw [Fragment.params_parenthesized, Fragment.params_join, List.flatMap_map]
    simp only [Fragment.params_contains]
    rw [← List.map_eq_flatMap, List.map_const']

theorem join_eq_conjunction {legs : List Fragment} (present : legs ≠ []) :
    Fragment.join " AND " legs = conjunction legs := by
  rw [conjunction, if_neg present, Fragment.mk.injEq]
  exact ⟨Fragment.sql_join _ _, Fragment.params_join _ _⟩

/-- The leg of a term is the predicate of the condition that the term becomes. -/
theorem hasLeg_iff {schema : Schema} {term : Term} {condition : Condition} {leg : Fragment}
    (becomes : HasCondition schema term condition) :
    HasLeg schema term leg ↔ condition.predicate schema.looseColumns = .ok leg := by
  constructor
  · intro has
    cases has with
    | field other =>
      cases becomes.unique other
      rfl
    | loose columns =>
      cases becomes
      exact anyContains_eq_disjunction _ columns
  · intro made
    cases becomes with
    | boolean registered spelled =>
      cases made
      exact .field (.boolean registered spelled)
    | string registered =>
      cases made
      exact .field (.string registered)
    | loose =>
      by_cases columns : schema.looseColumns = []
      · simp [Condition.predicate, anyContains, columns] at made
      · rw [Condition.predicate, anyContains_eq_disjunction _ columns] at made
        cases made
        exact .loose columns

/-- A term has one leg at most. -/
theorem HasLeg.unique {schema : Schema} {term : Term} {first second : Fragment}
    (one : HasLeg schema term first) (other : HasLeg schema term second) : first = second := by
  rcases Term.classify_spec schema term with ⟨issue, _, refused⟩ | ⟨condition, _, becomes, _⟩
  · cases one with
    | field condition => simp [condition.classify] at refused
    | loose => simp [Term.classify] at refused
  · have made := (hasLeg_iff becomes).mp one
    exact Except.ok.inj (made.symm.trans ((hasLeg_iff becomes).mp other))

/-! ### Compiling conditions -/

/-- With columns for the loose terms every condition adds its leg. -/
theorem mapM_predicate_eq_ok {schema : Schema} {terms : List Term} {conditions : List Condition}
    (become : List.Forall₂ (HasCondition schema) terms conditions)
    (columns : ∀ value, .loose value ∈ terms → schema.looseColumns ≠ []) :
    ∃ legs, List.Forall₂ (HasLeg schema) terms legs ∧
      conditions.mapM (Condition.predicate schema.looseColumns) = .ok legs := by
  induction become with
  | nil => exact ⟨[], .nil, rfl⟩
  | @cons term condition terms conditions becomes _ ih =>
    obtain ⟨legs, each, made⟩ := ih fun value member =>
      columns value (List.mem_cons_of_mem term member)
    have first : ∃ leg, condition.predicate schema.looseColumns = .ok leg := by
      cases becomes with
      | boolean | string => exact ⟨_, rfl⟩
      | loose => exact ⟨_, anyContains_eq_disjunction _ (columns _ List.mem_cons_self)⟩
    obtain ⟨leg, leg_made⟩ := first
    refine ⟨leg :: legs, .cons ((hasLeg_iff becomes).mpr leg_made) each, ?_⟩
    rw [List.mapM_cons, leg_made, made]
    rfl

/-- Without columns a single loose term is enough to refuse all conditions. -/
theorem mapM_predicate_eq_error {schema : Schema} {terms : List Term} {conditions : List Condition}
    {value : String} (become : List.Forall₂ (HasCondition schema) terms conditions)
    (member : .loose value ∈ terms) (columns : schema.looseColumns = []) :
    conditions.mapM (Condition.predicate schema.looseColumns) = .error .noLooseColumns := by
  induction become with
  | nil => simp at member
  | @cons term condition terms conditions becomes _ ih =>
    rw [List.mapM_cons]
    -- A loose term is refused here; before the first one every condition has its predicate.
    cases becomes with
    | loose =>
      simp only [Condition.predicate, anyContains, columns]
      rfl
    | boolean | string =>
      have later : .loose value ∈ terms := by simpa using member
      simp only [Condition.predicate]
      rw [ih later]
      rfl

/-- Conditions are compiled to the legs of their terms, or refused for want of columns. -/
theorem compile_eq_ok {schema : Schema} {terms : List Term} {conditions : List Condition}
    (become : List.Forall₂ (HasCondition schema) terms conditions)
    (columns : ∀ value, .loose value ∈ terms → schema.looseColumns ≠ []) :
    ∃ legs, List.Forall₂ (HasLeg schema) terms legs ∧
      schema.compile conditions = .ok (conjunction legs) := by
  obtain ⟨legs, each, made⟩ := mapM_predicate_eq_ok become columns
  refine ⟨legs, each, ?_⟩
  unfold Schema.compile predicate
  cases become with
  | nil =>
    cases each
    rfl
  | cons =>
    rw [if_neg (by simp), made]
    have present : legs ≠ [] := by
      rintro rfl
      cases each
    rw [← join_eq_conjunction present]
    rfl

theorem compile_eq_error {schema : Schema} {terms : List Term} {conditions : List Condition}
    {value : String} (become : List.Forall₂ (HasCondition schema) terms conditions)
    (member : .loose value ∈ terms) (columns : schema.looseColumns = []) :
    schema.compile conditions = .error .noLooseColumns := by
  have refused := mapM_predicate_eq_error become member columns
  unfold Schema.compile predicate
  cases become with
  | nil => simp at member
  | cons =>
    rw [if_neg (by simp), refused]
    rfl

/-! ### Answers -/

/-- What a schema answers to a query with the given terms. -/
inductive Answer (schema : Schema) (terms : List Term) : Except Error Fragment → Prop where
  /-- More than five terms are refused, whatever they are. -/
  | tooMany (more : 5 < terms.length) : Answer schema terms (.error (.tooManyTerms 5))
  /-- Terms with issues are refused with all their issues. -/
  | rejected (fits : terms.length ≤ 5) (faulty : ∃ term ∈ terms, issue? schema term ≠ none) :
      Answer schema terms (.error (.rejected (terms.filterMap (issue? schema))))
  /-- A loose term is refused if there are no columns to look in. -/
  | noColumns {value : String} (fits : terms.length ≤ 5)
      (sound : ∀ term ∈ terms, issue? schema term = none) (member : .loose value ∈ terms)
      (columns : schema.looseColumns = []) : Answer schema terms (.error .noLooseColumns)
  /-- All other terms are accepted, with one leg for each. -/
  | accepted {legs : List Fragment} (fits : terms.length ≤ 5)
      (sound : ∀ term ∈ terms, issue? schema term = none)
      (columns : ∀ value, .loose value ∈ terms → schema.looseColumns ≠ [])
      (each : List.Forall₂ (HasLeg schema) terms legs) :
      Answer schema terms (.ok (conjunction legs))

/-- Taking a query apart, refusing its issues and compiling its conditions gives that answer. -/
theorem answer_predicate (schema : Schema) (query : String) :
    Answer schema (Term.readAll query.toList) (schema.predicate query) := by
  generalize all_terms : Term.readAll query.toList = terms
  unfold Schema.predicate Schema.read
  rw [read_eq_ite, all_terms]
  -- The reasons to refuse are met in the order of the stages: reading, accepting, compiling.
  by_cases fits : terms.length ≤ 5
  · rw [if_pos fits]
    change Answer schema terms
      ((Reading.ofOutcomes (terms.map (Term.classify schema.fields))).accepted >>= schema.compile)
    have issues := issues_ofOutcomes schema terms
    unfold Reading.accepted Reading.hasIssues
    rw [issues]
    by_cases sound : ∀ term ∈ terms, issue? schema term = none
    · have none_left : terms.filterMap (issue? schema) = [] := List.filterMap_eq_nil_iff.mpr sound
      rw [none_left]
      change Answer schema terms (schema.compile _)
      have become := conditions_ofOutcomes sound
      by_cases columns : ∀ value, .loose value ∈ terms → schema.looseColumns ≠ []
      · obtain ⟨legs, each, made⟩ := compile_eq_ok become columns
        rw [made]
        exact .accepted fits sound columns each
      · push Not at columns
        obtain ⟨value, member, columns⟩ := columns
        rw [compile_eq_error become member columns]
        exact .noColumns fits sound member columns
    · push Not at sound
      have some_left : terms.filterMap (issue? schema) ≠ [] := by
        rw [Ne, List.filterMap_eq_nil_iff]
        push Not
        exact sound
      rw [if_pos (by simpa using some_left)]
      exact .rejected fits sound
  · rw [if_neg fits]
    exact .tooMany (by omega)

/-- The reasons to refuse a query exclude each other, and without any there is one predicate. -/
theorem Answer.unique {schema : Schema} {terms : List Term} {first second : Except Error Fragment}
    (one : Answer schema terms first) (other : Answer schema terms second) : first = second := by
  cases one with
  | tooMany more =>
    cases other with
    | tooMany => rfl
    | rejected fits | noColumns fits | accepted fits => omega
  | rejected fits faulty =>
    obtain ⟨term, member, faulty⟩ := faulty
    cases other with
    | tooMany => omega
    | rejected => rfl
    | noColumns _ sound | accepted _ sound => exact absurd (sound term member) faulty
  | noColumns fits sound member columns =>
    cases other with
    | tooMany => omega
    | rejected _ faulty =>
      obtain ⟨term, present, faulty⟩ := faulty
      exact absurd (sound term present) faulty
    | noColumns => rfl
    | accepted _ _ needed => exact absurd columns (needed _ member)
  | accepted fits sound needed each =>
    cases other with
    | tooMany => omega
    | rejected _ faulty =>
      obtain ⟨term, present, faulty⟩ := faulty
      exact absurd (sound term present) faulty
    | noColumns _ _ member columns => exact absurd columns (needed _ member)
    | accepted _ _ _ each_other =>
      have single : Relator.RightUnique (HasLeg schema) := fun _ _ _ => HasLeg.unique
      rw [List.right_unique_forall₂' single each each_other]

theorem predicate_eq_iff {schema : Schema} {query : String} {result : Except Error Fragment} :
    schema.predicate query = result ↔ Answer schema (Term.readAll query.toList) result := by
  have answer := answer_predicate schema query
  constructor
  · rintro rfl
    exact answer
  · exact answer.unique

/-- Every refusal of a query comes with advice. -/
theorem Answer.isSome_hint? {schema : Schema} {terms : List Term} {error : Error}
    (answer : Answer schema terms (.error error)) : error.hint?.isSome := by
  cases answer with
  | tooMany | noColumns => rfl
  | rejected _ faulty =>
    apply Error.isSome_issuesHint?
    obtain ⟨term, member, faulty⟩ := faulty
    intro none_left
    exact faulty (List.filterMap_eq_nil_iff.mp none_left term member)

/-! ### Fields that compare columns -/

/-- Every field compares one column: a flag for equality, a text for containment. -/
def Schema.ComparesColumns (schema : Schema) : Prop :=
  ∀ field ∈ schema.fields, ∃ kind name column, field = .ofColumn kind name column

/-- The test that a term adds if all fields compare columns. -/
inductive HasTest (schema : Schema) : Term → Fragment → Prop where
  /-- A flag is compared with the truth value that the term spells. -/
  | flag {name value : String} {column : ColumnName} {flag : Bool}
      (registered : .ofColumn .boolean name column ∈ schema.fields)
      (spelled : SpellsBoolean flag value) :
      HasTest schema (.field name value) (.flagEquals column flag)
  /-- A text column is searched for the value as it is written. -/
  | text {name value : String} {column : ColumnName}
      (registered : .ofColumn .string name column ∈ schema.fields) :
      HasTest schema (.field name value) (.contains column value)
  /-- A loose value is looked for in all columns. -/
  | loose {value : String} (columns : schema.looseColumns ≠ []) :
      HasTest schema (.loose value) (disjunction schema.looseColumns value)

theorem HasLeg.hasTest {schema : Schema} {term : Term} {leg : Fragment}
    (has : HasLeg schema term leg) (compares : schema.ComparesColumns) :
    HasTest schema term leg := by
  cases has with
  | loose columns => exact .loose columns
  | field condition =>
    cases condition with
    | boolean registered spelled =>
      obtain ⟨kind, name, column, same⟩ := compares _ registered
      cases kind with
      | boolean =>
        cases same
        exact .flag registered spelled
      | string => cases same
    | string registered =>
      obtain ⟨kind, name, column, same⟩ := compares _ registered
      cases kind with
      | boolean => cases same
      | string =>
        cases same
        exact .text registered

/-- A test is never empty, and there is a value in it. -/
theorem HasTest.ne_empty {schema : Schema} {term : Term} {leg : Fragment}
    (has : HasTest schema term leg) : leg.sql ≠ "" ∧ leg.params ≠ [] := by
  cases has with
  | flag | text => simp
  | loose columns => simpa [disjunction] using columns

/-! ### All queries -/

/--
What becomes of the terms of a query.  More than five are refused, whatever the schema says about
them.  Otherwise the query is refused if a term has an issue, with one issue for each such term, in
order.  Otherwise it is refused if there is a loose term and no column to look in.  Otherwise its
predicate is the conjunction of one leg for each term, in order.  No other refusal occurs, and each
comes with advice.  If the fields compare columns, then no leg is empty or without a value.
-/
theorem predicate_accounts_for_terms (schema : Schema) (query : String) :
    (schema.predicate query = .error (.tooManyTerms 5) ↔
      5 < (Term.readAll query.toList).length) ∧
    (∀ issues, schema.predicate query = .error (.rejected issues) ↔
      (Term.readAll query.toList).length ≤ 5 ∧
      (∃ term ∈ Term.readAll query.toList, issue? schema term ≠ none) ∧
      issues = (Term.readAll query.toList).filterMap (issue? schema)) ∧
    (schema.predicate query = .error .noLooseColumns ↔
      (Term.readAll query.toList).length ≤ 5 ∧
      (∀ term ∈ Term.readAll query.toList, issue? schema term = none) ∧
      (∃ value, .loose value ∈ Term.readAll query.toList) ∧ schema.looseColumns = []) ∧
    (∀ fragment, schema.predicate query = .ok fragment ↔
      (Term.readAll query.toList).length ≤ 5 ∧
      (∀ term ∈ Term.readAll query.toList, issue? schema term = none) ∧
      (∀ value, .loose value ∈ Term.readAll query.toList → schema.looseColumns ≠ []) ∧
      ∃ legs, List.Forall₂ (HasLeg schema) (Term.readAll query.toList) legs ∧
        fragment = conjunction legs) ∧
    (∀ error, schema.predicate query = .error error →
      (error = .tooManyTerms 5 ∨ (∃ issues, error = .rejected issues) ∨ error = .noLooseColumns) ∧
      error.hint?.isSome) ∧
    (schema.ComparesColumns → ∀ term leg, HasLeg schema term leg →
      leg.sql ≠ "" ∧ leg.params ≠ []) := by
  simp only [predicate_eq_iff]
  generalize Term.readAll query.toList = terms
  refine ⟨⟨?_, ?_⟩, fun issues => ⟨?_, ?_⟩, ⟨?_, ?_⟩, fun fragment => ⟨?_, ?_⟩, ?_, ?_⟩
  · intro answer
    cases answer with
    | tooMany more => exact more
  · exact .tooMany
  · intro answer
    cases answer with
    | rejected fits faulty => exact ⟨fits, faulty, rfl⟩
  · rintro ⟨fits, faulty, rfl⟩
    exact .rejected fits faulty
  · intro answer
    cases answer with
    | noColumns fits sound member columns => exact ⟨fits, sound, ⟨_, member⟩, columns⟩
  · rintro ⟨fits, sound, ⟨value, member⟩, columns⟩
    exact .noColumns fits sound member columns
  · intro answer
    cases answer with
    | accepted fits sound columns each => exact ⟨fits, sound, columns, _, each, rfl⟩
  · rintro ⟨fits, sound, columns, legs, each, rfl⟩
    exact .accepted fits sound columns each
  · intro error answer
    refine ⟨?_, answer.isSome_hint?⟩
    cases answer with
    | tooMany => exact .inl rfl
    | rejected => exact .inr (.inl ⟨_, rfl⟩)
    | noColumns => exact .inr (.inr rfl)
  · intro compares term leg has
    exact (has.hasTest compares).ne_empty

end LinkSearch.Query
