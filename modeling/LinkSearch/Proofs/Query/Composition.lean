import LinkSearch.CommandLine.Arguments
import LinkSearch.Proofs.Query.Accounting
import LinkSearch.Proofs.Query.Continuation

/-!
# Queries that are put together

A query that is put together from parts with separators between them asks for what the parts ask
for, one after the other, unless a part ends in a quote that is still open.  This holds of its
terms, of what becomes of them, and of its predicate, which is the predicates of the parts with AND
between them.  The words of a command line are put together in this way.
-/

namespace LinkSearch.Query

open LinkSearch.CommandLine LinkSearch.Sql LinkSearch.Text

/-- A query without terms. -/
def IsBlank (query : String) : Prop := ∀ c ∈ query.toList, isSeparator c = true

/-- The terms of several texts, however many, those of the first one first. -/
def allTerms (parts : List String) : List Term :=
  parts.flatMap (Term.readAll ·.toList)

theorem allTerms_cons (part : String) (parts : List String) :
    allTerms (part :: parts) = Term.readAll part.toList ++ allTerms parts := rfl

/-- A query that asks for what its parts ask for, one after the other. -/
structure Composes (query : String) (parts : List String) : Prop where
  /-- The terms are those of the parts, unless they are too many together. -/
  terms : terms query =
    if (allTerms parts).length ≤ 5 then .ok (allTerms parts) else .error (.tooManyTerms 5)
  /-- Conditions and issues are those of the parts, for any fields. -/
  reading (fields : List Field) (fits : (allTerms parts).length ≤ 5) :
    ∃ readings, List.Forall₂ (fun part reading => read fields part = .ok reading) parts readings ∧
      read fields query =
        .ok ⟨readings.flatMap Reading.conditions, readings.flatMap Reading.issues⟩
  /-- The predicates of the parts are joined by AND. -/
  predicate (schema : Schema) (predicates : List Fragment) (fits : (allTerms parts).length ≤ 5)
    (accepted : List.Forall₂ (fun part predicate => ¬ IsBlank part ∧
      schema.predicate part = .ok predicate) parts predicates) :
    schema.predicate query =
      .ok (if parts = [] then .alwaysTrue else .join " AND " predicates)

/-! ### Readings and predicates of several texts -/

theorem ofOutcomes_append (first second : List (Except Issue Condition)) :
    Reading.ofOutcomes (first ++ second) =
      ⟨(Reading.ofOutcomes first).conditions ++ (Reading.ofOutcomes second).conditions,
        (Reading.ofOutcomes first).issues ++ (Reading.ofOutcomes second).issues⟩ := by
  induction first with
  | nil => rfl
  | cons outcome first ih => cases outcome <;> simp [Reading.ofOutcomes, ih]

/-- Each part can be taken apart if all of them together do not have too many terms. -/
theorem readings_of_parts (fields : List Field) {parts : List String}
    (fits : (allTerms parts).length ≤ 5) :
    ∃ readings, List.Forall₂ (fun part reading => read fields part = .ok reading) parts readings ∧
      Reading.ofOutcomes ((allTerms parts).map (Term.classify fields)) =
        ⟨readings.flatMap Reading.conditions, readings.flatMap Reading.issues⟩ := by
  induction parts with
  | nil => exact ⟨[], .nil, rfl⟩
  | cons part parts ih =>
    rw [allTerms_cons, List.length_append] at fits
    obtain ⟨readings, each, together⟩ := ih (by omega)
    have first := read_eq_ite fields part
    rw [if_pos (by omega)] at first
    refine ⟨_ :: readings, .cons first each, ?_⟩
    rw [allTerms_cons, List.map_append, ofOutcomes_append, together]
    rfl

/-- A query that is accepted, and not blank, has legs of its own. -/
theorem legs_of_accepted {schema : Schema} {query : String} {predicate : Fragment}
    (visible : ¬ IsBlank query) (accepted : schema.predicate query = .ok predicate) :
    (∀ term ∈ Term.readAll query.toList, issue? schema term = none) ∧
      (∀ value, .loose value ∈ Term.readAll query.toList → schema.looseColumns ≠ []) ∧
      ∃ legs, List.Forall₂ (HasLeg schema) (Term.readAll query.toList) legs ∧
        legs ≠ [] ∧ predicate = .join " AND " legs := by
  cases predicate_eq_iff.mp accepted with
  | @accepted legs _ sound columns each =>
    have present : legs ≠ [] := by
      rintro rfl
      exact visible (Term.readAll_eq_nil_iff.mp (List.forall₂_nil_right_iff.mp each))
    exact ⟨sound, columns, legs, each, present, (join_eq_conjunction present).symm⟩

theorem legs_of_parts {schema : Schema} {parts : List String} {predicates : List Fragment}
    (accepted : List.Forall₂ (fun part predicate => ¬ IsBlank part ∧
      schema.predicate part = .ok predicate) parts predicates) :
    (∀ term ∈ allTerms parts, issue? schema term = none) ∧
      (∀ value, .loose value ∈ allTerms parts → schema.looseColumns ≠ []) ∧
      ∃ legs, List.Forall₂ (HasLeg schema) (allTerms parts) legs ∧ (parts = [] → legs = []) ∧
        (parts ≠ [] → legs ≠ [] ∧ Fragment.join " AND " legs = .join " AND " predicates) := by
  induction accepted with
  | nil => exact ⟨by simp [allTerms], by simp [allTerms], [], .nil, fun _ => rfl, by simp⟩
  | @cons part predicate parts predicates one others ih =>
    obtain ⟨sound, columns, legs, each, present, rfl⟩ := legs_of_accepted one.1 one.2
    obtain ⟨later_sound, later_columns, later, later_each, empty, joined⟩ := ih
    simp only [allTerms_cons, List.mem_append]
    refine ⟨?_, ?_, legs ++ later, List.rel_append each later_each, by simp, fun _ => ⟨?_, ?_⟩⟩
    · rintro term (member | member)
      · exact sound term member
      · exact later_sound term member
    · rintro value (member | member)
      · exact columns value member
      · exact later_columns value member
    · simp [present]
    · -- Only the last part has nothing to be joined with.
      cases others with
      | nil => rw [empty rfl, List.append_nil]; rfl
      | cons =>
        obtain ⟨more, same⟩ := joined (List.cons_ne_nil _ _)
        rw [Fragment.join_append _ present more, same]
        rfl

/-! ### Putting queries together -/

/-- Terms that are the same, or too many both times. -/
def SameOrTooMany (terms others : List Term) : Prop :=
  terms = others ∨ 5 < terms.length ∧ 5 < others.length

theorem SameOrTooMany.append {terms others : List Term} (same : SameOrTooMany terms others)
    (before : List Term) : SameOrTooMany (before ++ terms) (before ++ others) := by
  rcases same with rfl | ⟨many, others_many⟩
  · exact .inl rfl
  · exact .inr ⟨by rw [List.length_append]; omega, by rw [List.length_append]; omega⟩

theorem SameOrTooMany.trans {terms others more : List Term} (first : SameOrTooMany terms others)
    (second : SameOrTooMany others more) : SameOrTooMany terms more := by
  rcases first with rfl | ⟨many, others_many⟩
  · exact second
  · rcases second with rfl | ⟨_, more_many⟩
    · exact .inr ⟨many, others_many⟩
    · exact .inr ⟨many, more_many⟩

theorem Composes.of_terms {query : String} {parts : List String}
    (same : SameOrTooMany (Term.readAll query.toList) (allTerms parts)) :
    Composes query parts where
  terms := by
    rw [terms_eq_ite]
    rcases same with same | ⟨many, parts_many⟩
    · rw [same]
    · rw [if_neg (by omega), if_neg (by omega)]
  reading fields fits := by
    have same : Term.readAll query.toList = allTerms parts :=
      same.resolve_right fun many => by omega
    obtain ⟨readings, each, together⟩ := readings_of_parts fields fits
    refine ⟨readings, each, ?_⟩
    rw [read_eq_ite, same, if_pos fits, together]
  predicate schema predicates fits accepted := by
    have same : Term.readAll query.toList = allTerms parts :=
      same.resolve_right fun many => by omega
    obtain ⟨sound, columns, legs, each, empty, joined⟩ := legs_of_parts accepted
    rw [predicate_eq_iff, same]
    have answer := Answer.accepted fits sound columns each
    by_cases none_there : parts = []
    · rw [empty none_there] at answer
      rw [if_pos none_there]
      exact answer
    · obtain ⟨present, legs_joined⟩ := joined none_there
      rw [if_neg none_there, ← legs_joined, join_eq_conjunction present]
      exact answer

/-- A text whose terms stay the same when separators follow is closed, or has too many terms. -/
theorem isClosed_of_terms_eq {query gap : String} (present : gap ≠ "")
    (separators : ∀ c ∈ gap.toList, isSeparator c = true)
    (same : terms (query ++ gap) = terms query) :
    Term.IsClosed query.toList ∨ 5 < (Term.readAll query.toList).length := by
  rw [terms_eq_ite, terms_eq_ite, String.toList_append] at same
  by_cases fits : (Term.readAll query.toList).length ≤ 5
  · rw [if_pos fits] at same
    split at same
    · refine .inl (Term.isClosed_of_readAll_eq ?_ separators (Except.ok.inj same))
      exact fun empty => present (String.toList_eq_nil_iff.mp empty)
    · cases same
  · exact .inr (by omega)

theorem readAll_append_of_terms_eq {first gap : String} (second : String) (present : gap ≠ "")
    (separators : ∀ c ∈ gap.toList, isSeparator c = true)
    (same : terms (first ++ gap) = terms first) :
    SameOrTooMany (Term.readAll (first ++ gap ++ second).toList)
      (Term.readAll first.toList ++ Term.readAll second.toList) := by
  have apart : Term.StartsApart (gap.toList ++ second.toList) := by
    obtain ⟨c, rest, text⟩ := List.exists_cons_of_ne_nil
      (fun empty => present (String.toList_eq_nil_iff.mp empty))
    rw [text, List.cons_append]
    exact Term.startsApart_cons.mpr (separators c (text ▸ List.mem_cons_self))
  rw [String.toList_append, String.toList_append, List.append_assoc]
  rcases isClosed_of_terms_eq present separators same with closed | many
  · exact .inl (by rw [closed _ apart, Term.readAll_append_of_separators _ separators])
  · have longer := (Term.dropLast_readAll_prefix first.toList (gap.toList ++ second.toList)).1
    exact .inr ⟨by omega, by rw [List.length_append]; omega⟩

theorem composes_append {first gap second : String} (present : gap ≠ "")
    (separators : ∀ c ∈ gap.toList, isSeparator c = true)
    (same : terms (first ++ gap) = terms first) :
    Composes (first ++ gap ++ second) [first, second] := by
  apply Composes.of_terms
  simpa [allTerms] using readAll_append_of_terms_eq second present separators same

theorem composes_joinWords {words : List String}
    (closed : ∀ word ∈ words, terms (word ++ " ") = terms word) :
    Composes (joinWords words) words := by
  apply Composes.of_terms
  -- By induction on the words, each of which but the last is followed by a space.
  induction words with
  | nil => exact .inl (by simp [joinWords, allTerms])
  | cons word words ih =>
    cases words with
    | nil => exact .inl (by simp [joinWords, allTerms])
    | cons next words =>
      have later := ih fun other member => closed other (List.mem_cons_of_mem word member)
      have together := readAll_append_of_terms_eq (joinWords (next :: words)) (by simp)
        (by simp [isSeparator, isWhiteSpace]) (closed word List.mem_cons_self)
      rw [joinWords, String.intercalate_cons_cons, allTerms_cons]
      exact together.trans (later.append _)

/--
A query is composed of two texts with separators between them if the terms of the first one are the
same with these separators after it, as they are unless it ends in an open quote.  It is composed of
the words of a command line if this holds of each word and a space.
-/
theorem queries_compose :
    (∀ first gap second : String, gap ≠ "" → (∀ c ∈ gap.toList, isSeparator c = true) →
      terms (first ++ gap) = terms first → Composes (first ++ gap ++ second) [first, second]) ∧
    (∀ words : List String, (∀ word ∈ words, terms (word ++ " ") = terms word) →
      Composes (joinWords words) words) :=
  ⟨fun _ _ _ => composes_append, fun _ => composes_joinWords⟩

/-- An apostrophe leaves no quote open, and a name whose value is missing takes none later. -/
theorem queries_compose_apostrophe :
    terms ("don't" ++ " ") = terms "don't" ∧ terms ("title:" ++ " ") = terms "title:" ∧
      Composes ("don't" ++ " " ++ "title:'a b'") ["don't", "title:'a b'"] ∧
      Composes (joinWords ["don't", "title:"]) ["don't", "title:"] := by
  have word (text : String) (term : Term)
      (alone : Term.readSteps 1 text.toList = some [term])
      (spaced : Term.readSteps 2 (text ++ " ").toList = some [term]) :
      terms (text ++ " ") = terms text := by
    rw [terms_eq_ite, terms_eq_ite, Term.readAll_of_readSteps alone,
      Term.readAll_of_readSteps spaced]
  have first := word "don't" (.loose "don't") (by decide) (by decide)
  have second := word "title:" (.loose "title:") (by decide) (by decide)
  have blank : ∀ c ∈ " ".toList, isSeparator c = true := by simp [isSeparator, isWhiteSpace]
  refine ⟨first, second, queries_compose.1 _ _ _ (by decide) blank first, queries_compose.2 _ ?_⟩
  simpa using ⟨first, second⟩

end LinkSearch.Query
