import LinkSearch.Proofs.Query.Accounting
import LinkSearch.Proofs.Sql.Cutting

/-!
# One reading of a predicate

The predicate of some conditions can be taken apart again: cutting it at AND gives the predicates of
the conditions, and the group of a loose condition, cut at OR, gives one test for each column.  No
name of a column can blur this, as all that a name holds is inside quotes.  So the predicate, with
its values, says what each condition asks for.
-/

namespace LinkSearch.Query

open LinkSearch.Sql

/-- What a condition asks for if its field compares a column. -/
inductive Criterion where
  /-- The flag in a column has a value. -/
  | flag (column : ColumnName) (value : Bool)
  /-- The text in a column contains a value. -/
  | text (column : ColumnName) (value : String)
  /-- Some column contains a value. -/
  | loose (value : String)

/-- What a condition asks for, whatever the name of its field is. -/
inductive Condition.Asks : Condition → Criterion → Prop where
  | flag {name : String} {column : ColumnName} {value : Bool} :
      Asks (.field name (.flagEquals column value)) (.flag column value)
  | text {name : String} {column : ColumnName} {value : String} :
      Asks (.field name (.contains column value)) (.text column value)
  | loose {value : String} : Asks (.loose value) (.loose value)

/-- The leg of the condition in a predicate. -/
def Criterion.leg (columns : List ColumnName) : Criterion → Fragment
  | .flag column value => .flagEquals column value
  | .text column value => .contains column value
  | .loose value => (Fragment.join " OR " (columns.map (Fragment.contains · value))).parenthesized

variable {columns : List ColumnName}

theorem Condition.Asks.predicate {condition : Condition} {criterion : Criterion}
    (asks : condition.Asks criterion) (present : columns ≠ []) :
    condition.predicate columns = .ok (criterion.leg columns) := by
  cases asks with
  | flag | text => rfl
  | loose => exact if_neg (by simpa using present)

theorem predicate_of_asks {conditions : List Condition} {criteria : List Criterion}
    (asks : List.Forall₂ Condition.Asks conditions criteria) (some_there : conditions ≠ [])
    (present : columns ≠ []) :
    predicate columns conditions =
      .ok (Fragment.join " AND " (criteria.map (Criterion.leg columns))) := by
  have legs : conditions.mapM (Condition.predicate columns) =
      .ok (criteria.map (Criterion.leg columns)) := by
    clear some_there
    induction asks with
    | nil => rfl
    | cons first _ ih =>
      rw [List.mapM_cons, first.predicate present, ih]
      rfl
  rw [Query.predicate, if_neg (by simpa using some_there), legs]
  rfl

/-! ### Cutting a predicate -/

/-- The separators of a predicate, and the bracket that closes a group. -/
def separators : List (List Char) := [" AND ".toList, " OR ".toList, [')']]

section Legs

variable {separator : List Char} (known : separator ∈ separators) (depth : Nat)

include known

theorem spans_render (column : ColumnName) :
    Spans separator depth column.render.toList depth := by
  simp only [separators, List.mem_cons, List.not_mem_nil, or_false] at known
  rcases known with rfl | rfl | rfl
  all_goals exact .render (by decide) (by decide) depth column

theorem spans_flagEquals (column : ColumnName) (value : Bool) :
    Spans separator depth (Fragment.flagEquals column value).sql.toList depth := by
  have test : Spans separator depth " = ?".toList depth := by
    simp only [separators, List.mem_cons, List.not_mem_nil, or_false] at known
    refine ⟨by decide, by simp [depthAfter, depthNext, quotedNext], ?_⟩
    rcases known with rfl | rfl | rfl <;> simp [Uncut, quotedNext]
  rw [Fragment.sql_flagEquals, String.toList_append]
  exact (spans_render known depth column).append test

theorem spans_contains (column : ColumnName) (value : String) :
    Spans separator depth (Fragment.contains column value).sql.toList depth := by
  have before : Spans separator depth "instr(lower(".toList (depth + 2) := by
    simp only [separators, List.mem_cons, List.not_mem_nil, or_false] at known
    refine ⟨by decide, by simp [depthAfter, depthNext, quotedNext], ?_⟩
    rcases known with rfl | rfl | rfl <;> simp [Uncut, quotedNext, depthNext]
  have after : Spans separator (depth + 2) "), lower(?)) != 0".toList depth := by
    simp only [separators, List.mem_cons, List.not_mem_nil, or_false] at known
    refine ⟨by decide, by simp [depthAfter, depthNext, quotedNext], ?_⟩
    rcases known with rfl | rfl | rfl <;> simp [Uncut, quotedNext, depthNext]
  rw [Fragment.sql_contains, String.toList_append, String.toList_append]
  exact (before.append (spans_render known (depth + 2) column)).append after

end Legs

/-- The tests of a loose value, one for each column. -/
def alternatives (columns : List ColumnName) (value : String) : List (List Char) :=
  columns.map fun column => (Fragment.contains column value).sql.toList

theorem spans_alternatives {separator : List Char} {depth : Nat} (known : separator ∈ separators)
    (between : Spans separator depth " OR ".toList depth) (value : String) :
    Spans separator depth (" OR ".toList.intercalate (alternatives columns value)) depth := by
  apply between.intercalate
  intro piece member
  obtain ⟨column, _, rfl⟩ := List.mem_map.mp member
  exact spans_contains known depth column value

theorem toList_sql_loose (value : String) :
    ((Criterion.loose value).leg columns).sql.toList =
      '(' :: (" OR ".toList.intercalate (alternatives columns value) ++ [')']) := by
  simp [Criterion.leg, alternatives, String.toList_intercalate, Function.comp_def]

theorem spans_leg (criterion : Criterion) :
    Spans " AND ".toList 0 (criterion.leg columns).sql.toList 0 := by
  have known : " AND ".toList ∈ separators := List.mem_cons_self
  cases criterion with
  | flag column value => exact spans_flagEquals known 0 column value
  | text column value => exact spans_contains known 0 column value
  | loose value =>
    -- Inside its brackets the group may hold any separator.
    have before : Spans " AND ".toList 0 ['('] 1 := ⟨rfl, rfl, by simp [Uncut]⟩
    have after : Spans " AND ".toList 1 [')'] 0 := ⟨rfl, rfl, by simp [Uncut]⟩
    have between : Spans " AND ".toList 1 " OR ".toList 1 :=
      ⟨by decide, by decide, by simp [Uncut, quotedNext, depthNext]⟩
    rw [toList_sql_loose]
    exact before.append ((spans_alternatives known between value).append after)

/-- Cutting at AND gives the legs. -/
theorem cut_join_legs {criteria : List Criterion} (some_there : criteria ≠ []) :
    cut " AND ".toList false 0
        (Fragment.join " AND " (criteria.map (Criterion.leg columns))).sql.toList =
      criteria.map fun criterion => (criterion.leg columns).sql.toList := by
  rw [Fragment.sql_join, String.toList_intercalate, List.map_map, List.map_map]
  apply cut_intercalate (by simp) (by simpa using some_there)
  intro piece member
  obtain ⟨criterion, _, rfl⟩ := List.mem_map.mp member
  exact spans_leg criterion

/-- The leg of a loose value is one group, and cutting it at OR gives its tests. -/
theorem cut_group_loose (value : String) (present : columns ≠ []) :
    ∃ inner, group? ((Criterion.loose value).leg columns).sql.toList = some inner ∧
      cut " OR ".toList false 0 inner = alternatives columns value := by
  have between : Spans [')'] 0 " OR ".toList 0 :=
    ⟨by decide, by decide, by simp [Uncut, quotedNext, depthNext]⟩
  refine ⟨" OR ".toList.intercalate (alternatives columns value), ?_, ?_⟩
  · rw [toList_sql_loose]
    exact group?_bracketed (spans_alternatives (by simp [separators]) between value)
  · apply cut_intercalate (by simp) (by simpa [alternatives] using present)
    intro piece member
    obtain ⟨column, _, rfl⟩ := List.mem_map.mp member
    exact spans_contains (by simp [separators]) 0 column value

/-! ### Telling criteria apart -/

/-- The character that the leg of a criterion begins with. -/
def Criterion.firstChar : Criterion → Char
  | .flag .. => '\x22'
  | .text .. => 'i'
  | .loose _ => '('

theorem head?_leg (criterion : Criterion) :
    (criterion.leg columns).sql.toList.head? = some criterion.firstChar := by
  cases criterion with
  | flag column value =>
    obtain ⟨body, text, _⟩ := Token.readName?_render column
    simp [Criterion.leg, Criterion.firstChar, text]
  | text column value => simp [Criterion.leg, Criterion.firstChar]
  | loose value => simp [Criterion.leg, Criterion.firstChar]

/-- Criteria that differ in their values at most. -/
inductive Criterion.Alike : Criterion → Criterion → Prop where
  | flag {column : ColumnName} {value other : Bool} :
      Alike (.flag column value) (.flag column other)
  | text {column : ColumnName} {value other : String} :
      Alike (.text column value) (.text column other)
  | loose {value other : String} : Alike (.loose value) (.loose other)

/-- The first character of a leg tells its shape, and the name in it tells its column. -/
theorem alike_of_sql_eq {first second : Criterion}
    (same : (first.leg columns).sql = (second.leg columns).sql) : first.Alike second := by
  have begin_same : first.firstChar = second.firstChar := by
    have heads := congrArg (fun sql => sql.toList.head?) same
    simpa [head?_leg] using heads
  cases first with
  | flag column value =>
    cases second with
    | flag other _ =>
      simp only [Criterion.leg, Fragment.sql_flagEquals, String.append_left_inj] at same
      cases ColumnName.render_injective same
      exact .flag
    | text | loose => exact absurd begin_same (by simp [Criterion.firstChar])
  | text column value =>
    cases second with
    | text other _ =>
      simp only [Criterion.leg, Fragment.sql_contains, String.append_left_inj,
        String.append_right_inj] at same
      cases ColumnName.render_injective same
      exact .text
    | flag | loose => exact absurd begin_same (by simp [Criterion.firstChar])
  | loose value =>
    cases second with
    | loose => exact .loose
    | flag | text => exact absurd begin_same (by simp [Criterion.firstChar])

theorem Criterion.Alike.length_params {first second : Criterion} (alike : first.Alike second) :
    (first.leg columns).params.length = (second.leg columns).params.length := by
  cases alike with
  | flag | text => simp [Criterion.leg]
  | loose => simp [Criterion.leg, List.length_flatMap, Function.comp_def]

theorem Criterion.Alike.eq_of_params {first second : Criterion} (alike : first.Alike second)
    (present : columns ≠ []) (same : (first.leg columns).params = (second.leg columns).params) :
    first = second := by
  cases alike with
  | @flag _ value other =>
    have values : (if value then (1 : Int) else 0) = if other then 1 else 0 := by
      simpa [Criterion.leg, Bound.ofBool] using same
    cases value <;> cases other <;> simp_all
  | text =>
    have values := same
    simp only [Criterion.leg, Fragment.params_contains, List.cons.injEq, Bound.text.injEq,
      and_true] at values
    rw [values]
  | loose =>
    obtain ⟨column, others, rfl⟩ := List.exists_cons_of_ne_nil present
    have values := congrArg List.head? same
    simp only [Criterion.leg, Fragment.params_parenthesized, Fragment.params_join, List.map_cons,
      List.flatMap_cons, Fragment.params_contains, List.cons_append, List.head?_cons,
      Option.some.injEq, Bound.text.injEq] at values
    rw [values]

/-- The values of legs with the same texts are told apart by their number in each leg. -/
theorem criteria_eq_of_legs {first second : List Criterion} (present : columns ≠ [])
    (texts : first.map (fun criterion => (criterion.leg columns).sql.toList) =
      second.map fun criterion => (criterion.leg columns).sql.toList)
    (values : first.flatMap (fun criterion => (criterion.leg columns).params) =
      second.flatMap fun criterion => (criterion.leg columns).params) : first = second := by
  induction first generalizing second with
  | nil =>
    cases second with
    | nil => rfl
    | cons => simp at texts
  | cons one first ih =>
    cases second with
    | nil => simp at texts
    | cons other second =>
      simp only [List.map_cons, List.cons.injEq] at texts
      have alike := alike_of_sql_eq (String.toList_inj.mp texts.1)
      obtain ⟨params, later⟩ := List.append_inj values alike.length_params
      rw [alike.eq_of_params present params, ih texts.2 later]

/--
With columns for loose values, the predicate of some conditions is cut at AND into the predicates
that they have alone, one for each condition, in order.  The predicate of a loose condition is one
group, and what is inside is cut at OR into one test for each column, in order.  So two lists of
conditions have one predicate only if they ask for the same, condition by condition.
-/
theorem predicate_reads_one_way (columns : List ColumnName) (present : columns ≠ []) :
    (∀ conditions criteria, conditions ≠ [] → List.Forall₂ Condition.Asks conditions criteria →
      ∃ fragment legs, predicate columns conditions = .ok fragment ∧
        List.Forall₂ (fun condition leg => predicate columns [condition] = .ok leg)
          conditions legs ∧
        cut " AND ".toList false 0 fragment.sql.toList = legs.map (·.sql.toList)) ∧
    (∀ value, ∃ leg inner, predicate columns [.loose value] = .ok leg ∧
      group? leg.sql.toList = some inner ∧
      cut " OR ".toList false 0 inner =
        columns.map fun column => (Fragment.contains column value).sql.toList) ∧
    (∀ first second criteria others, first ≠ [] → second ≠ [] →
      List.Forall₂ Condition.Asks first criteria → List.Forall₂ Condition.Asks second others →
      predicate columns first = predicate columns second → criteria = others) := by
  have alone {condition : Condition} {criterion : Criterion} (asks : condition.Asks criterion) :
      predicate columns [condition] = .ok (criterion.leg columns) :=
    predicate_of_asks (.cons asks .nil) (by simp) present
  have criteria_there {conditions : List Condition} {criteria : List Criterion}
      (asks : List.Forall₂ Condition.Asks conditions criteria) (some_there : conditions ≠ []) :
      criteria ≠ [] := by
    rintro rfl
    exact some_there (List.forall₂_nil_right_iff.mp asks)
  refine ⟨?_, ?_, ?_⟩
  · intro conditions criteria some_there asks
    refine ⟨_, criteria.map (Criterion.leg columns), predicate_of_asks asks some_there present,
      ?_, ?_⟩
    · rw [List.forall₂_map_right_iff]
      exact asks.imp fun _ _ => alone
    · rw [cut_join_legs (criteria_there asks some_there), List.map_map]
      rfl
  · intro value
    obtain ⟨inner, group, pieces⟩ := cut_group_loose value present
    exact ⟨_, inner, alone .loose, group, pieces⟩
  · intro first second criteria others some_there others_there asks asks_others same
    rw [predicate_of_asks asks some_there present,
      predicate_of_asks asks_others others_there present] at same
    have fragments := Except.ok.inj same
    apply criteria_eq_of_legs present
    · rw [← cut_join_legs (criteria_there asks some_there), fragments,
        cut_join_legs (criteria_there asks_others others_there)]
    · have values := congrArg Fragment.params fragments
      simpa [List.flatMap_map] using values

/-- A name that holds a quote, a bracket, a place and both separators is cut nowhere. -/
theorem predicate_reads_one_way_hostile :
    ∃ column : ColumnName, column.segments = ["a\x22) AND ('?' OR (\x22b"] ∧
      ∃ fragment first second, predicate [column, column]
          [.field "f" (.flagEquals column true), .loose "x"] = .ok fragment ∧
        predicate [column, column] [.field "f" (.flagEquals column true)] = .ok first ∧
        predicate [column, column] [.loose "x"] = .ok second ∧
        cut " AND ".toList false 0 fragment.sql.toList =
          [first.sql.toList, second.sql.toList] := by
  let column : ColumnName := ⟨["a\x22) AND ('?' OR (\x22b"], by simp, by simp⟩
  have asks : List.Forall₂ Condition.Asks [.field "f" (.flagEquals column true), .loose "x"]
      [.flag column true, .loose "x"] := .cons .flag (.cons .loose .nil)
  obtain ⟨fragment, legs, compiled, each, pieces⟩ :=
    (predicate_reads_one_way [column, column] (by simp)).1 _ _ (by simp) asks
  cases each with
  | cons first each =>
    cases each with
    | cons second each =>
      cases each with
      | nil => exact ⟨column, rfl, fragment, _, _, compiled, first, second, pieces⟩

end LinkSearch.Query
