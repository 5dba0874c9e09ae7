import LinkSearch.Proofs.Lists
import LinkSearch.Proofs.Query.Composition

/-!
# What a query is taken apart into

Each term of a query has one outcome, a condition or an issue.  It depends on the term and on the
fields alone, of which the first one with the name of the term counts.  A reading holds the
outcomes of all terms: the conditions in one list, the issues in the other, both in the order of
the terms.
-/

namespace LinkSearch.Query

open LinkSearch.Sql

/-! ### The outcome of one term -/

/--
What becomes of a term among some fields, several of which may have one name: the first field with
the name of the term decides.
-/
inductive Outcome (fields : List Field) : Term → Except Issue Condition → Prop where
  /-- A loose value is kept as it is written. -/
  | loose (value : String) : Outcome fields (.loose value) (.ok (.loose value))
  /-- No field has the name. -/
  | unknown {name value : String} (absent : ∀ field ∈ fields, field.name ≠ name) :
      Outcome fields (.field name value) (.error (.unknownField name))
  /-- The value is neither `true` nor `false`, and the field takes nothing else. -/
  | invalidBoolean {name value : String} {predicate : Bool → Fragment}
      (first : IsFirst (Field.name · = name) (.boolean name predicate) fields)
      (unspelled : ∀ flag, ¬ SpellsBoolean flag value) :
      Outcome fields (.field name value) (.error (.invalidBoolean name value))
  /-- The predicate of the truth value that is spelled. -/
  | boolean {name value : String} {predicate : Bool → Fragment} {flag : Bool}
      (first : IsFirst (Field.name · = name) (.boolean name predicate) fields)
      (spelled : SpellsBoolean flag value) :
      Outcome fields (.field name value) (.ok (.field name (predicate flag)))
  /-- The predicate of the value as it is written. -/
  | string {name value : String} {predicate : String → Fragment}
      (first : IsFirst (Field.name · = name) (.string name predicate) fields) :
      Outcome fields (.field name value) (.ok (.field name (predicate value)))

theorem Field.find?_eq_some_iff_isFirst {fields : List Field} {name : String} {field : Field} :
    Field.find? fields name = some field ↔ IsFirst (Field.name · = name) field fields := by
  induction fields with
  | nil => simp [Field.find?, IsFirst]
  | cons head fields ih =>
    rw [isFirst_cons, ← ih, Field.find?, Field.find?, List.find?_cons]
    by_cases named : head.name = name
    · simp [named, eq_comm]
    · simp [named, beq_eq_false_iff_ne.mpr named]

/-- A term is classified as its outcome, and has no other one. -/
theorem outcome_iff {fields : List Field} {term : Term} {outcome : Except Issue Condition} :
    Outcome fields term outcome ↔ term.classify fields = outcome := by
  constructor
  · intro becomes
    cases becomes with
    | loose value => rfl
    | unknown absent => simp [Term.classify, Field.find?_eq_none_iff.mpr absent]
    | @invalidBoolean name value predicate first unspelled =>
      have unread : readBoolean? value = none := by
        cases read : readBoolean? value with
        | none => rfl
        | some flag => exact absurd (readBoolean?_eq_some_iff.mp read) (unspelled flag)
      simp [Term.classify, Field.find?_eq_some_iff_isFirst.mpr first, unread]
    | boolean first spelled =>
      simp [Term.classify, Field.find?_eq_some_iff_isFirst.mpr first,
        readBoolean?_eq_some_iff.mpr spelled]
    | string first => simp [Term.classify, Field.find?_eq_some_iff_isFirst.mpr first]
  · rintro rfl
    cases term with
    | loose value => exact .loose value
    | field name value =>
      cases found : Field.find? fields name with
      | none =>
        simp only [Term.classify, found]
        exact .unknown (Field.find?_eq_none_iff.mp found)
      | some field =>
        have first := Field.find?_eq_some_iff_isFirst.mp found
        cases field with
        | string registered predicate =>
          obtain rfl : registered = name := first.mem.2
          simp only [Term.classify, found]
          exact .string first
        | boolean registered predicate =>
          obtain rfl : registered = name := first.mem.2
          simp only [Term.classify, found]
          cases read : readBoolean? value with
          | some flag => exact .boolean first (readBoolean?_eq_some_iff.mp read)
          | none =>
            refine .invalidBoolean first fun flag spelled => ?_
            rw [readBoolean?_eq_some_iff.mpr spelled] at read
            cases read

theorem forall₂_outcome_iff {fields : List Field} {terms : List Term}
    {outcomes : List (Except Issue Condition)} :
    List.Forall₂ (Outcome fields) terms outcomes ↔ terms.map (Term.classify fields) = outcomes := by
  have same : Outcome fields = fun term outcome => term.classify fields = outcome :=
    funext fun term => funext fun outcome => propext outcome_iff
  rw [same, ← List.forall₂_map_left_iff, List.forall₂_eq_eq_eq]

/-! ### The outcomes of all terms -/

/-- The issue that an outcome is, if it is one. -/
def issueOf? : Except Issue Condition → Option Issue
  | .ok _ => none
  | .error issue => some issue

theorem ofOutcomes_eq (outcomes : List (Except Issue Condition)) :
    Reading.ofOutcomes outcomes =
      ⟨outcomes.filterMap Except.toOption, outcomes.filterMap issueOf?⟩ := by
  induction outcomes with
  | nil => rfl
  | cons outcome outcomes ih =>
    cases outcome with
    | ok condition =>
      rw [Reading.ofOutcomes, ih]
      rfl
    | error issue =>
      rw [Reading.ofOutcomes, ih]
      rfl

/-- Queries of separators are no special case: all queries are read term by term. -/
theorem read_eq_map (fields : List Field) (query : String) :
    read fields query =
      (terms query).map fun all => .ofOutcomes (all.map (Term.classify fields)) := by
  rw [read_eq_ite, terms_eq_ite]
  split <;> rfl

theorem terms_eq_ok_nil_iff {query : String} : terms query = .ok [] ↔ IsBlank query := by
  rw [terms_eq_ite]
  by_cases blank : Term.readAll query.toList = []
  · have nothing : IsBlank query := Term.readAll_eq_nil_iff.mp blank
    simp [blank, nothing]
  · have visible : ¬ IsBlank query := fun all => blank (Term.readAll_eq_nil_iff.mpr all)
    split <;> simp [blank, visible]

/--
A query is read term by term, and fails to be read just as its terms do, whatever the fields are.
Its reading has the outcomes of its terms, sorted into conditions and issues, which together are
as many as the terms.  A query of separators, for which no terms are looked for, is read in the
same way, and no other query has neither conditions nor issues.
-/
theorem read_sorts_outcomes (fields : List Field) (query : String) :
    read fields query =
      (terms query).map (fun all => .ofOutcomes (all.map (Term.classify fields))) ∧
    (∀ error, read fields query = .error error ↔ terms query = .error error) ∧
    (∀ all, terms query = .ok all → ∃ outcomes, List.Forall₂ (Outcome fields) all outcomes ∧
      read fields query =
        .ok ⟨outcomes.filterMap Except.toOption, outcomes.filterMap issueOf?⟩ ∧
      (outcomes.filterMap Except.toOption).length + (outcomes.filterMap issueOf?).length =
        all.length) ∧
    (IsBlank query ↔ terms query = .ok []) ∧
    (IsBlank query ↔ read fields query = .ok ⟨[], []⟩) := by
  rw [read_eq_map]
  refine ⟨rfl, fun error => ?_, fun all found => ?_, terms_eq_ok_nil_iff.symm, ?_⟩
  · cases terms query <;> simp [Except.map]
  · have sorted := ofOutcomes_eq (all.map (Term.classify fields))
    have counted := Reading.length_ofOutcomes (all.map (Term.classify fields))
    rw [sorted, List.length_map] at counted
    refine ⟨_, forall₂_outcome_iff.mpr rfl, ?_, counted⟩
    rw [found, ← sorted]
    rfl
  · rw [← terms_eq_ok_nil_iff]
    cases terms query with
    | error error => simp [Except.map]
    | ok all =>
      have counted := Reading.length_ofOutcomes (all.map (Term.classify fields))
      rw [List.length_map] at counted
      constructor
      · rintro ⟨⟩
        rfl
      · intro nothing
        have empty : Reading.ofOutcomes (all.map (Term.classify fields)) = ⟨[], []⟩ :=
          Except.ok.inj nothing
        rw [empty] at counted
        rw [List.length_eq_zero_iff.mp counted.symm]

/-- Fields of which two have one name: the first takes truth values, the second any text. -/
def twofold : List Field :=
  [.boolean "a" fun flag => .param (.ofBool flag), .string "a" fun value => .param (.text value),
    .string "t" fun value => .param (.text value)]

/-- The second field of a name takes no value, and a rejected term leaves the others alone. -/
theorem read_sorts_outcomes_twofold :
    terms "a:TRUE ' x' a:maybe A:c t:\"u v\"" = .ok [.field "a" "TRUE", .loose " x",
      .field "a" "maybe", .field "A" "c", .field "t" "u v"] ∧
    read twofold "a:TRUE ' x' a:maybe A:c t:\"u v\"" =
      .ok ⟨[.field "a" (.param (.ofBool true)), .loose " x", .field "t" (.param (.text "u v"))],
        [.invalidBoolean "a" "maybe", .unknownField "A"]⟩ := by
  have found : terms "a:TRUE ' x' a:maybe A:c t:\"u v\"" = .ok [.field "a" "TRUE", .loose " x",
      .field "a" "maybe", .field "A" "c", .field "t" "u v"] :=
    terms_of_readSteps (show Term.readSteps 9 _ = _ by decide) (by decide)
  obtain ⟨_, _, sorted, _⟩ := read_sorts_outcomes twofold "a:TRUE ' x' a:maybe A:c t:\"u v\""
  obtain ⟨outcomes, each, read, _⟩ := sorted _ found
  rw [← forall₂_outcome_iff.mp each] at read
  exact ⟨found, read⟩

end LinkSearch.Query
