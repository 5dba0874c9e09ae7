import LinkSearch.Proofs.Query.Outcomes
import LinkSearch.Proofs.Settings.Acceptance

/-!
# The fields of a schema as a set

A field is looked up as the first with its name, so in a list of any fields their order counts.  A
schema admits each name once.  Its answers then depend only on which fields there are, and a field
that no term of a query names has no part in the answers to that query.
-/

namespace LinkSearch.Query

open LinkSearch.Sql
open Settings (make_eq_error_iff make_eq_ok)

/-! ### Names that are taken twice -/

/-- Two fields, one before the other, have one name. -/
def RepeatsName (fields : List Field) : Prop :=
  ∃ before first between second after,
    fields = before ++ first :: between ++ second :: after ∧ first.name = second.name

/-- The first field whose name a field before it has. -/
def IsFirstRepeated (field : Field) (fields : List Field) : Prop :=
  ∃ before after, fields = before ++ field :: after ∧ ¬ RepeatsName before ∧
    ∃ earlier ∈ before, earlier.name = field.name

theorem repeatsName_iff {fields : List Field} :
    RepeatsName fields ↔ ¬ (fields.map Field.name).Nodup := by
  constructor
  · rintro ⟨before, first, between, second, after, rfl, same⟩ distinct
    simp only [List.map_append, List.map_cons, List.append_assoc, List.cons_append] at distinct
    have apart := (List.nodup_cons.mp (List.nodup_append.mp distinct).2.1).1
    exact apart (by simp [same])
  · induction fields with
    | nil => simp
    | cons field rest ih =>
      intro repeated
      by_cases later : (rest.map Field.name).Nodup
      · have present : field.name ∈ rest.map Field.name := by
          by_contra absent
          exact repeated (List.nodup_cons.mpr ⟨absent, later⟩)
        obtain ⟨second, member, same⟩ := List.mem_map.mp present
        obtain ⟨between, after, rfl⟩ := List.append_of_mem member
        exact ⟨[], field, between, second, after, rfl, same.symm⟩
      · obtain ⟨before, first, between, second, after, rfl, same⟩ := ih later
        exact ⟨field :: before, first, between, second, after, rfl, same⟩

/-- A schema is refused for the first field whose name is taken. -/
theorem make_eq_error_iff_isFirstRepeated {fields : List Field} {columns : List ColumnName}
    {error : Error} :
    Schema.make fields columns = .error error ↔
      ∃ field, IsFirstRepeated field fields ∧ error = .duplicateField field.name := by
  rw [make_eq_error_iff]
  constructor
  · rintro ⟨name, rfl, names, others, parts, distinct, taken⟩
    obtain ⟨before, rest, rfl, rfl, rest_names⟩ := List.map_eq_append_iff.mp parts
    obtain ⟨field, after, rfl, rfl, rfl⟩ := List.map_eq_cons_iff.mp rest_names
    obtain ⟨earlier, member, same⟩ := List.mem_map.mp taken
    exact ⟨field, ⟨before, after, rfl, mt repeatsName_iff.mp (not_not.mpr distinct),
      earlier, member, same⟩, rfl⟩
  · rintro ⟨field, ⟨before, after, rfl, distinct, earlier, member, same⟩, rfl⟩
    refine ⟨field.name, rfl, before.map Field.name, after.map Field.name, by simp, ?_, ?_⟩
    · exact not_not.mp (mt repeatsName_iff.mpr distinct)
    · exact List.mem_map.mpr ⟨earlier, member, same⟩

/-- Fields make a schema just if no two of them have one name. -/
theorem exists_make_iff {fields : List Field} {columns : List ColumnName} :
    (∃ schema, Schema.make fields columns = .ok schema) ↔ (fields.map Field.name).Nodup := by
  constructor
  · rintro ⟨schema, made⟩
    obtain ⟨rfl, _⟩ := make_eq_ok made
    exact schema.names_nodup
  · intro distinct
    cases made : Schema.make fields columns with
    | ok schema => exact ⟨schema, rfl⟩
    | error error =>
      obtain ⟨field, ⟨before, after, rfl, _, earlier, member, same⟩, _⟩ :=
        make_eq_error_iff_isFirstRepeated.mp made
      obtain ⟨front, between, rfl⟩ := List.append_of_mem member
      refine absurd distinct (repeatsName_iff.mp ⟨front, earlier, between, field, after, ?_, same⟩)
      simp

/-! ### Answers -/

/-- Two schemas take a query apart alike and answer it alike. -/
def AnswerAlike (one other : Schema) (query : String) : Prop :=
  one.read query = other.read query ∧ one.predicate query = other.predicate query

/-- Fields matter to a term only as what is found under its name. -/
theorem Term.classify_congr {one other : List Field} {term : Term}
    (same : ∀ name value, term = .field name value →
      Field.find? one name = Field.find? other name) :
    term.classify one = term.classify other := by
  cases term with
  | loose value => rfl
  | field name value => rw [Term.classify, Term.classify, same name value rfl]

/-- Schemas that find the same fields for the terms of a query answer it alike. -/
theorem answerAlike_of_find? {one other : Schema} {query : String}
    (columns : one.looseColumns = other.looseColumns)
    (same : ∀ all name value, terms query = .ok all → .field name value ∈ all →
      Field.find? one.fields name = Field.find? other.fields name) :
    AnswerAlike one other query := by
  have read : one.read query = other.read query := by
    rw [Schema.read, Schema.read, read_eq_map, read_eq_map]
    cases found : terms query with
    | error error => rfl
    | ok all =>
      have outcomes :
          all.map (Term.classify one.fields) = all.map (Term.classify other.fields) := by
        refine List.map_congr_left fun term member => Term.classify_congr ?_
        rintro name value rfl
        exact same all name value found member
      rw [Except.map, Except.map, outcomes]
  refine ⟨read, ?_⟩
  have compile : one.compile = other.compile := by
    funext conditions
    rw [Schema.compile, Schema.compile, columns]
  rw [Schema.predicate, Schema.predicate, read, compile]

/-- What a schema finds depends on which fields it has, not on their order. -/
theorem Schema.find?_eq_of_perm {one other : Schema} (perm : one.fields.Perm other.fields)
    (name : String) : Field.find? one.fields name = Field.find? other.fields name := by
  refine Option.ext fun field => ?_
  rw [Schema.find?_eq_some_iff, Schema.find?_eq_some_iff, perm.mem_iff]

/-- A field with another name is not found. -/
theorem Field.find?_insert {before after : List Field} {field : Field} {name : String}
    (other : field.name ≠ name) :
    Field.find? (before ++ field :: after) name = Field.find? (before ++ after) name := by
  simp [Field.find?, List.find?_append, other]

/--
The fields of a schema are a set.  A list of fields is refused just if two of them have one name,
and then for the first whose name a field before it has.  Any order of the fields of a schema makes
a schema too, which takes every query apart alike and answers it alike.  So does a schema with one
more field, whose name is new and which may stand anywhere, for every query of which no term names
that field.
-/
theorem schema_is_set_of_fields (fields : List Field) (columns : List ColumnName) :
    ((∃ error, Schema.make fields columns = .error error) ↔ RepeatsName fields) ∧
    (∀ error, Schema.make fields columns = .error error ↔
      ∃ field, IsFirstRepeated field fields ∧ error = .duplicateField field.name) ∧
    ∀ schema, Schema.make fields columns = .ok schema →
      (∀ arranged : List Field, arranged.Perm fields →
        ∃ other, Schema.make arranged columns = .ok other ∧
          ∀ query, AnswerAlike other schema query) ∧
      ∀ before after field, fields = before ++ after → (∀ other ∈ fields, other.name ≠ field.name) →
        ∃ larger, Schema.make (before ++ field :: after) columns = .ok larger ∧
          ∀ query, (∀ all value, terms query = .ok all → .field field.name value ∉ all) →
            AnswerAlike larger schema query := by
  refine ⟨?_, fun error => make_eq_error_iff_isFirstRepeated, fun schema made => ⟨?_, ?_⟩⟩
  · rw [repeatsName_iff, ← @exists_make_iff fields columns]
    cases Schema.make fields columns <;> simp
  · intro arranged perm
    have distinct := exists_make_iff.mp ⟨schema, made⟩
    obtain ⟨other, other_made⟩ :=
      (@exists_make_iff arranged columns).mpr ((perm.map Field.name).nodup_iff.mpr distinct)
    obtain ⟨rfl, rfl⟩ := make_eq_ok made
    obtain ⟨rfl, same_columns⟩ := make_eq_ok other_made
    exact ⟨other, other_made, fun query =>
      answerAlike_of_find? same_columns fun _ name _ _ _ => Schema.find?_eq_of_perm perm name⟩
  · rintro before after field rfl fresh
    have distinct := exists_make_iff.mp ⟨schema, made⟩
    have larger_distinct : ((before ++ field :: after).map Field.name).Nodup := by
      have moved : (before ++ field :: after).Perm (field :: (before ++ after)) :=
        List.perm_middle
      rw [(moved.map Field.name).nodup_iff, List.map_cons, List.nodup_cons]
      refine ⟨fun present => ?_, distinct⟩
      obtain ⟨other, member, same⟩ := List.mem_map.mp present
      exact fresh other member same
    obtain ⟨larger, larger_made⟩ := (@exists_make_iff _ columns).mpr larger_distinct
    obtain ⟨same_fields, rfl⟩ := make_eq_ok made
    obtain ⟨larger_fields, same_columns⟩ := make_eq_ok larger_made
    refine ⟨larger, larger_made, fun query unnamed => answerAlike_of_find? same_columns ?_⟩
    intro all name value found member
    have other : field.name ≠ name := by
      rintro rfl
      exact unnamed all value found member
    rw [same_fields, larger_fields, Field.find?_insert other]

/-- Fields of different names: one takes truth values, the other any text. -/
def oneOfEach : List Field :=
  [.boolean "a" fun flag => .param (.ofBool flag), .string "t" fun value => .param (.text value)]

/-- The two fields the other way round, and with a third between them that no term names. -/
theorem schema_is_set_of_fields_oneOfEach :
    Schema.make twofold [] = .error (.duplicateField "a") ∧
    ∃ schema, Schema.make oneOfEach [] = .ok schema ∧
      (∃ other, Schema.make oneOfEach.reverse [] = .ok other ∧
        AnswerAlike other schema "t:'A: b' a:TRUE") ∧
      ∃ larger, Schema.make ([.boolean "a" fun flag => .param (.ofBool flag)] ++
          .boolean "A" (fun _ => .alwaysTrue) ::
            [.string "t" fun value => .param (.text value)]) [] = .ok larger ∧
        AnswerAlike larger schema "t:'A: b' a:TRUE" := by
  have found : terms "t:'A: b' a:TRUE" = .ok [.field "t" "A: b", .field "a" "TRUE"] :=
    terms_of_readSteps (show Term.readSteps 4 _ = _ by decide) (by decide)
  have repeated : IsFirstRepeated (.string "a" fun value => .param (.text value)) twofold :=
    ⟨[.boolean "a" fun flag => .param (.ofBool flag)], _, rfl,
      mt repeatsName_iff.mp (by decide), _, List.mem_cons_self, rfl⟩
  obtain ⟨_, refused, _⟩ := schema_is_set_of_fields twofold []
  obtain ⟨_, _, alike⟩ := schema_is_set_of_fields oneOfEach []
  obtain ⟨arranged, extended⟩ := alike _ rfl
  obtain ⟨other, other_made, others⟩ := arranged oneOfEach.reverse (List.reverse_perm _)
  have fresh : ∀ other ∈ oneOfEach, other.name ≠ "A" := by decide
  obtain ⟨larger, larger_made, largers⟩ := extended [_] [_] (.boolean "A" _) rfl fresh
  refine ⟨(refused _).mpr ⟨_, repeated, rfl⟩, _, rfl, ⟨other, other_made, others _⟩,
    larger, larger_made, largers _ ?_⟩
  intro all value same
  cases found.symm.trans same
  simp [Field.name]

end LinkSearch.Query
