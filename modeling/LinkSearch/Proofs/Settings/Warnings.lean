import LinkSearch.Proofs.Query.Accounting
import LinkSearch.Proofs.Query.Writing
import LinkSearch.Proofs.Settings.Acceptance
import LinkSearch.Settings.Warning

/-!
# Warnings are true

A field gets a warning if no query can ask for it, and only then: the test of its name and the reader
of queries, which looks through quotes, agree about every name.  The warning that there are no loose
columns is given if every query with a loose term is refused, and only then.
-/

namespace LinkSearch.Settings

open LinkSearch.Query LinkSearch.Sql
open LinkSearch.Text (isSeparator isQuote)

/-! ### When a warning is given -/

theorem unreachableField_mem_warnings_iff {settings : Settings} {spec : FieldSpec}
    (member : spec ∈ settings.fields) (named : spec.name ≠ "") :
    .unreachableField spec.name ∈ warnings settings ↔ ¬ Term.isQueryable spec.name = true := by
  have declared : ∃ other ∈ settings.fields, other.name = spec.name := ⟨spec, member, rfl⟩
  simp [warnings, unreachableFields, apply_ite (Warning.unreachableField spec.name ∈ ·), declared,
    named]

theorem noLooseColumns_mem_warnings_iff {settings : Settings} :
    .noLooseColumns ∈ warnings settings ↔ settings.looseColumns = [] := by
  simp [warnings, apply_ite (Warning.noLooseColumns ∈ ·)]

/-! ### What queries can ask for -/

/-- Some query has a term with this name. -/
def CanSpell (name : String) : Prop :=
  ∃ query all value, terms query = .ok all ∧ .field name value ∈ all

/-- Some query, taken apart with the fields of the schema, has a condition with this name. -/
def CanAsk (schema : Schema) (name : String) : Prop :=
  ∃ query reading predicate, schema.read query = .ok reading ∧
    .field name predicate ∈ reading.conditions

theorem readAll_name_true {name : String} (queryable : Term.isQueryable name = true) :
    Term.readAll (name ++ ":true").toList = [.field name "true"] := by
  obtain ⟨filled, plain⟩ := Term.isQueryable_iff.mp queryable
  have whole : ∀ c ∈ ['t', 'r', 'u', 'e'], isSeparator c = false := by
    intro c member
    simp only [List.mem_cons, List.not_mem_nil, or_false] at member
    rcases member with rfl | rfl | rfl | rfl <;> decide
  have value := @Term.HasValue.bare 't' ['r', 'u', 'e'] [] rfl whole .nil
  have has := (Term.HasTerm.field filled plain value).readAll
  simpa using has

theorem readAll_word : Term.readAll "a".toList = [.loose "a"] :=
  Term.readAll_of_readSteps (show Term.readSteps 1 _ = _ by decide)

theorem canSpell_iff (name : String) : CanSpell name ↔ Term.isQueryable name = true := by
  constructor
  · rintro ⟨query, all, value, read, member⟩
    rw [terms_eq_ite] at read
    split at read
    · cases read
      exact (Term.isWritable_of_mem_readAll member).1
    · cases read
  · intro queryable
    refine ⟨name ++ ":true", [.field name "true"], "true", ?_, List.mem_cons_self⟩
    rw [terms_eq_ite, readAll_name_true queryable]
    rfl

theorem mem_conditions_ofOutcomes {outcomes : List (Except Issue Condition)}
    {condition : Condition} :
    condition ∈ (Reading.ofOutcomes outcomes).conditions ↔ .ok condition ∈ outcomes := by
  induction outcomes with
  | nil => simp [Reading.ofOutcomes]
  | cons outcome rest ih =>
    cases outcome with
    | error issue => simpa [Reading.ofOutcomes] using ih
    | ok other => simp [Reading.ofOutcomes, ih]

/-- A condition with a name comes from a term with this name. -/
theorem CanAsk.canSpell {schema : Schema} {name : String} (asks : CanAsk schema name) :
    CanSpell name := by
  obtain ⟨query, reading, predicate, read, member⟩ := asks
  unfold Schema.read at read
  rw [read_eq_ite] at read
  split at read
  · next fits =>
    cases read
    rw [mem_conditions_ofOutcomes, List.mem_map] at member
    obtain ⟨term, present, classified⟩ := member
    rcases Term.classify_spec schema term with ⟨issue, _, refused⟩ | ⟨condition, _, becomes, accepted⟩
    · rw [refused] at classified
      cases classified
    · rw [accepted] at classified
      cases classified
      have spelled : ∃ value, term = .field name value := by
        cases becomes with
        | boolean | string => exact ⟨_, rfl⟩
      obtain ⟨value, rfl⟩ := spelled
      refine ⟨query, _, value, ?_, present⟩
      rw [terms_eq_ite, if_pos fits]
  · cases read

/-- The word `true` is a value for fields of both kinds. -/
theorem FieldSpec.Describes.exists_hasCondition {schema : Schema} {spec : FieldSpec} {field : Field}
    (describes : spec.Describes field) (registered : field ∈ schema.fields) :
    ∃ predicate, HasCondition schema (.field spec.name "true") (.field spec.name predicate) := by
  obtain ⟨_, column, _, rfl⟩ := describes
  cases kind : spec.kind with
  | boolean =>
    rw [kind] at registered
    exact ⟨_, .boolean registered (show SpellsBoolean true "true" by decide)⟩
  | string =>
    rw [kind] at registered
    exact ⟨_, .string registered⟩

theorem canAsk_of_isQueryable {settings : Settings} {schema : Schema} {spec : FieldSpec}
    (described : settings.schema = .ok schema) (member : spec ∈ settings.fields)
    (queryable : Term.isQueryable spec.name = true) : CanAsk schema spec.name := by
  obtain ⟨field, registered, describes⟩ :=
    exists_mem_of_forall₂ (schema_eq_ok described).1.flip member
  obtain ⟨predicate, becomes⟩ := FieldSpec.Describes.exists_hasCondition describes registered
  have read : schema.read (spec.name ++ ":true") = .ok ⟨[.field spec.name predicate], []⟩ := by
    rw [Schema.read, read_eq_ite, readAll_name_true queryable]
    simp [becomes.classify, Reading.ofOutcomes]
  exact ⟨_, _, predicate, read, List.mem_cons_self⟩

/-- Without columns every query with a loose term is refused, and with one column some is not. -/
theorem forall_refused_iff {schema : Schema} :
    (∀ query all value, terms query = .ok all → .loose value ∈ all →
      ∃ error, schema.predicate query = .error error) ↔ schema.looseColumns = [] := by
  constructor
  · intro refused
    by_contra present
    have read : terms "a" = .ok [.loose "a"] := by
      rw [terms_eq_ite, readAll_word]
      rfl
    obtain ⟨error, rejected⟩ := refused "a" _ "a" read List.mem_cons_self
    have accepted : Answer schema (Term.readAll "a".toList)
        (.ok (conjunction [disjunction schema.looseColumns "a"])) := by
      rw [readAll_word]
      exact .accepted (by simp) (by simp [issue?]) (fun _ _ => present)
        (.cons (.loose present) .nil)
    rw [predicate_eq_iff.mpr accepted] at rejected
    cases rejected
  · intro columns query all value read member
    rw [terms_eq_ite] at read
    split at read
    · cases read
      cases made : schema.predicate query with
      | error error => exact ⟨error, rfl⟩
      | ok fragment =>
        cases predicate_eq_iff.mp made with
        | accepted _ _ needed _ => exact absurd columns (needed value member)
    · cases read

/--
For every field of settings that describe a schema, there is a warning that no query can spell its
name if no query has a term with that name, and also if no query has a condition with that name, and
only then.  There is a warning about loose columns if every query with a loose term is refused, and
only then.
-/
theorem warnings_true {settings : Settings} {schema : Schema}
    (described : settings.schema = .ok schema) :
    (∀ spec ∈ settings.fields,
      (.unreachableField spec.name ∈ warnings settings ↔ ¬ CanSpell spec.name) ∧
      (.unreachableField spec.name ∈ warnings settings ↔ ¬ CanAsk schema spec.name)) ∧
    (.noLooseColumns ∈ warnings settings ↔
      ∀ query all value, terms query = .ok all → .loose value ∈ all →
        ∃ error, schema.predicate query = .error error) := by
  obtain ⟨fields, columns⟩ := schema_eq_ok described
  constructor
  · intro spec member
    obtain ⟨field, _, describes⟩ := exists_mem_of_forall₂ fields.flip member
    have warned := unreachableField_mem_warnings_iff member describes.1
    have spells := canSpell_iff spec.name
    have asks : CanAsk schema spec.name ↔ Term.isQueryable spec.name = true :=
      ⟨fun asks => spells.mp asks.canSpell, canAsk_of_isQueryable described member⟩
    rw [spells, asks]
    exact ⟨warned, warned⟩
  · rw [noLooseColumns_mem_warnings_iff, forall_refused_iff]
    constructor
    · intro empty
      rw [empty] at columns
      exact List.forall₂_nil_left_iff.mp columns
    · intro empty
      rw [empty] at columns
      exact List.forall₂_nil_right_iff.mp columns

/-- Two fields, one of which no query can spell, and no loose columns. -/
def dueDate : Settings where
  looseColumns := []
  fields := [⟨"due date", .string, some "l.due"⟩, ⟨"done", .boolean, none⟩]
  store := none
  source := none

/-- Quotes do not help to spell the name with a space; the other name can be asked for. -/
theorem warnings_true_dueDate :
    ∃ schema, dueDate.schema = .ok schema ∧
      .unreachableField "due date" ∈ warnings dueDate ∧ ¬ CanAsk schema "due date" ∧
      CanAsk schema "done" ∧ .noLooseColumns ∈ warnings dueDate ∧
      ∃ error, schema.predicate "done:TRUE 'a b'" = .error error := by
  obtain ⟨schema, described⟩ : ∃ schema, dueDate.schema = .ok schema := by
    rw [exists_schema_iff]
    refine ⟨?_, by simp [dueDate], by decide⟩
    simp only [dueDate, List.forall_mem_cons, FieldSpec.IsFaulty]
    decide
  obtain ⟨fields, columns⟩ := warnings_true described
  have spoken := fields ⟨"due date", .string, some "l.due"⟩ (by simp [dueDate])
  have done := fields ⟨"done", .boolean, none⟩ (by simp [dueDate])
  have warned : .unreachableField "due date" ∈ warnings dueDate := by decide
  have silent : .unreachableField "done" ∉ warnings dueDate := by decide
  have empty : .noLooseColumns ∈ warnings dueDate := by decide
  have all : Term.readAll "done:TRUE 'a b'".toList = [.field "done" "TRUE", .loose "a b"] :=
    Term.readAll_of_readSteps (show Term.readSteps 3 _ = _ by decide)
  have read : terms "done:TRUE 'a b'" = .ok [.field "done" "TRUE", .loose "a b"] := by
    rw [terms_eq_ite, all]
    rfl
  refine ⟨schema, described, warned, spoken.2.mp warned, ?_, empty, ?_⟩
  · by_contra silence
    exact silent (done.2.mpr silence)
  · exact columns.mp empty _ _ "a b" read (by simp)

end LinkSearch.Settings
