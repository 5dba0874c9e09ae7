import LinkSearch.Proofs.Links.Searching
import LinkSearch.Proofs.Sql.Precedence

/-!
# Columns that the table does not have

Nothing keeps a schema from naming a column that the table of links does not have.  With a qualifier
such a name is an error in every search that mentions it.  Bare it is none: quoted as it is, the
name is read as a text, so that a test of a flag in it fails for every link, and a test of a text in
it passes for every link or for none.
-/

namespace LinkSearch.Links

open LinkSearch.Sql LinkSearch.Query

/-! ### What names stand for -/

/-- The last part of a name is neither a column of the table nor another name of the id. -/
def IsForeign (segments : List String) : Prop :=
  ∀ last ∈ segments.getLast?, ∀ known ∈ Column.idNames ++ Column.all.map Column.name,
    Text.sameAscii last known = false

instance (segments : List String) : Decidable (IsForeign segments) :=
  inferInstanceAs (Decidable (∀ _ ∈ _, ∀ _ ∈ _, _ = false))

/-- The name stands for nothing, wherever it is mentioned. -/
def IsRefused (segments : List String) : Prop :=
  ∀ offset, ∃ fault, Reference.ofMention ⟨segments, offset⟩ = .error fault

/-- What a name stands for that is not refused: a column, or its own text if it is none. -/
def referenceOf (segments : List String) : Reference :=
  match Column.ofName? (segments.getLast?.getD "") with
  | some found => .column found
  | none => .literal (segments.getLast?.getD "")

theorem ofName?_eq_none_iff {name : String} :
    Column.ofName? name = none ↔ ∀ known ∈ Column.idNames ++ Column.all.map Column.name,
      Text.sameAscii name known = false := by
  rw [Column.ofName?, List.forall_mem_append, List.forall_mem_map]
  split
  · next other =>
    obtain ⟨known, member, same⟩ := List.any_eq_true.mp other
    simp only [reduceCtorEq, false_iff, not_and]
    intro different
    rw [different known member] at same
    cases same
  · next none_other =>
    simp only [List.any_eq_true, not_exists, not_and, Bool.not_eq_true] at none_other
    rw [List.find?_eq_none, and_iff_right none_other]
    simp

theorem IsForeign.ofName?_eq {segments : List String} {last : String} (foreign : IsForeign segments)
    (ends : segments.getLast? = some last) : Column.ofName? last = none :=
  ofName?_eq_none_iff.mpr (foreign last ends)

theorem qualified_of_foreign {name : String} (foreign : Column.ofName? name = none)
    (mention : Mention) (database table : String) :
    ∃ fault, Reference.qualified mention database table name = .error fault := by
  unfold Reference.qualified
  rw [foreign]
  exact ⟨_, rfl⟩

/-- A qualifier is right or wrong, wherever the name is mentioned. -/
theorem qualified_cases (database table : String) {name : String} {found : Column}
    (known : Column.ofName? name = some found) :
    (∀ mention, ∃ fault, Reference.qualified mention database table name = .error fault) ∨
      ∀ mention, Reference.qualified mention database table name = .ok (.column found) := by
  unfold Reference.qualified
  rw [known]
  dsimp only
  split
  · exact .inr fun _ => rfl
  · exact .inl fun _ => ⟨_, rfl⟩

theorem isRefused_or_of_qualified {segments : List String} {database table name : String}
    (ends : segments.getLast? = some name)
    (same : ∀ offset, Reference.ofMention ⟨segments, offset⟩ =
      Reference.qualified ⟨segments, offset⟩ database table name) :
    IsRefused segments ∨
      ∀ offset, Reference.ofMention ⟨segments, offset⟩ = .ok (referenceOf segments) := by
  simp only [IsRefused, same]
  cases known : Column.ofName? name with
  | none => exact .inl fun offset => qualified_of_foreign known _ _ _
  | some found =>
    have reference : referenceOf segments = .column found := by simp [referenceOf, ends, known]
    rw [reference]
    rcases qualified_cases database table known with wrong | right
    · exact .inl fun offset => wrong _
    · exact .inr fun offset => right _

/-- A name is refused, or it stands for one thing wherever it is mentioned. -/
theorem isRefused_or_ofMention_eq (segments : List String) :
    IsRefused segments ∨
      ∀ offset, Reference.ofMention ⟨segments, offset⟩ = .ok (referenceOf segments) := by
  match segments with
  | [] => exact .inl fun offset => ⟨_, rfl⟩
  | [name] =>
    right
    intro offset
    cases found : Column.ofName? name <;> simp [Reference.ofMention, referenceOf, found]
  | [_, _] | [_, _, _] => exact isRefused_or_of_qualified rfl fun _ => rfl
  | _ :: _ :: _ :: _ :: _ => exact .inl fun offset => ⟨_, rfl⟩

/-- A foreign name is refused if it has a qualifier, and only then. -/
theorem IsForeign.isRefused_iff {segments : List String} (foreign : IsForeign segments) :
    IsRefused segments ↔ segments.length ≠ 1 := by
  match segments with
  | [] => exact ⟨fun _ => by simp, fun _ offset => ⟨_, rfl⟩⟩
  | [name] =>
    have missing : Column.ofName? name = none := foreign.ofName?_eq rfl
    refine ⟨fun refused => ?_, fun longer => absurd rfl longer⟩
    obtain ⟨fault, failed⟩ := refused 0
    simp [Reference.ofMention, missing] at failed
  | [_, name] | [_, _, name] =>
    have missing : Column.ofName? name = none := foreign.ofName?_eq rfl
    exact ⟨fun _ => by simp, fun _ offset => qualified_of_foreign missing _ _ _⟩
  | _ :: _ :: _ :: _ :: _ => exact ⟨fun _ => by simp, fun _ offset => ⟨_, rfl⟩⟩

/-! ### Rows under the names of a condition -/

/-- Whether the row satisfies a condition as its names are read. -/
def Row.passes (row : Row) (condition : Expression (List String)) : Bool :=
  row.satisfies (condition.map referenceOf)

theorem passes_eq (row : Row) (condition : Expression (List String)) :
    row.passes condition = condition.holds (fun segments => (referenceOf segments).value row)
      fun segments => (referenceOf segments).affinity :=
  satisfies_map row _ condition

theorem passes_chain_and {row : Row} {first : Expression (List String)}
    {rest : List (Expression (List String))} :
    row.passes (chain .and first rest) = true ↔
      ∀ part ∈ first :: rest, row.passes part = true :=
  satisfies_chain_and

theorem passes_chain_or {row : Row} {first : Expression (List String)}
    {rest : List (Expression (List String))} :
    row.passes (chain .or first rest) = true ↔
      ∃ part ∈ first :: rest, row.passes part = true :=
  satisfies_chain_or

theorem IsForeign.referenceOf_eq {name : String} (foreign : IsForeign [name]) :
    referenceOf [name] = .literal name := by
  have missing : Column.ofName? name = none := foreign.ofName?_eq rfl
  simp [referenceOf, missing]

/-- No row has the flag of a column that is a text, since no number is a text. -/
theorem IsForeign.passes_flagTest {name : String} (foreign : IsForeign [name]) (row : Row)
    (flag : Bool) : row.passes (flagTest [name] flag) = false := by
  rw [passes_eq]
  simp [flagTest, Expression.holds, Operand.value, Operand.affinity, Affinity.meet, Value.prefer,
    Relation.holds, Value.compare, Value.ratio?, Bound.value, Bound.ofBool, foreign.referenceOf_eq,
    Reference.value, Reference.affinity]

/-- A value is looked for in the name, whatever the row. -/
theorem IsForeign.passes_textTest {name : String} (foreign : IsForeign [name]) (row : Row)
    (value : String) :
    row.passes (textTest [name] value) = true ↔ ContainsUpToCase name value := by
  rw [passes_eq]
  apply holds_textTest
  rw [foreign.referenceOf_eq, Reference.value]

/-! ### Terms -/

/-- The term is about the column: its field compares it, or it is one for loose values. -/
inductive Tests (schema : Schema) (column : ColumnName) : Term → Prop where
  | field {kind : Kind} {name value : String}
      (registered : .ofColumn kind name column ∈ schema.fields) :
      Tests schema column (.field name value)
  | loose {value : String} (member : column ∈ schema.looseColumns) :
      Tests schema column (.loose value)

/-- The row passes the test of a term, as the names in it are read. -/
inductive Row.Suits (schema : Schema) (row : Row) : Term → Prop where
  | flag {name value : String} {column : ColumnName} {flag : Bool}
      (registered : .ofColumn .boolean name column ∈ schema.fields)
      (spelled : SpellsBoolean flag value)
      (passes : row.passes (flagTest column.segments flag) = true) :
      Suits schema row (.field name value)
  | text {name value : String} {column : ColumnName}
      (registered : .ofColumn .string name column ∈ schema.fields)
      (passes : row.passes (textTest column.segments value) = true) :
      Suits schema row (.field name value)
  | loose {value : String} {column : ColumnName} (member : column ∈ schema.looseColumns)
      (passes : row.passes (textTest column.segments value) = true) :
      Suits schema row (.loose value)

section Terms

variable {schema : Schema} {term : Term} {condition : Expression (List String)}

/-- The tests of the columns for loose values, of which there is one at least. -/
theorem exists_textTest_iff {first : ColumnName} {others : List ColumnName} {value : String}
    (columns : schema.looseColumns = first :: others) {p : Expression (List String) → Prop} :
    (∃ part ∈ textTest first.segments value ::
        others.map (fun column => textTest column.segments value), p part) ↔
      ∃ column ∈ schema.looseColumns, p (textTest column.segments value) := by
  rw [columns]
  simp

theorem Asks.mem_names_iff (asks : Asks schema term condition) (column : ColumnName) :
    column.segments ∈ condition.names ↔ Tests schema column term := by
  cases asks with
  | flag registered | text registered =>
    change column.segments ∈ [_] ↔ _
    rw [List.mem_singleton]
    constructor
    · intro same
      obtain rfl := ColumnName.segments_injective same
      exact .field registered
    · intro tests
      cases tests with
      | field other => rw [(registered_unique registered other).2]
  | loose columns =>
    rw [mem_names_chain, exists_textTest_iff columns]
    constructor
    · rintro ⟨other, member, inside⟩
      rw [names_textTest, List.mem_singleton] at inside
      obtain rfl := ColumnName.segments_injective inside
      exact .loose member
    · intro tests
      cases tests with
      | loose member => exact ⟨column, member, List.mem_cons_self⟩

theorem Asks.passes_iff (asks : Asks schema term condition) (row : Row) :
    row.passes condition = true ↔ row.Suits schema term := by
  cases asks with
  | flag registered spelled =>
    constructor
    · exact .flag registered spelled
    · intro suits
      cases suits with
      | text other => cases (registered_unique registered other).1
      | flag other again passes =>
        obtain rfl := (registered_unique registered other).2
        obtain rfl := spelled.unique again
        exact passes
  | text registered =>
    constructor
    · exact .text registered
    · intro suits
      cases suits with
      | flag other => cases (registered_unique registered other).1
      | text other passes =>
        obtain rfl := (registered_unique registered other).2
        exact passes
  | loose columns =>
    rw [passes_chain_or, exists_textTest_iff columns]
    constructor
    · rintro ⟨column, member, passes⟩
      exact .loose member passes
    · intro suits
      cases suits with
      | loose member passes => exact ⟨_, member, passes⟩

variable {terms : List Term}

theorem AsksAll.mem_names_iff (asks : AsksAll schema terms condition) (column : ColumnName) :
    column.segments ∈ condition.names ↔ ∃ term ∈ terms, Tests schema column term := by
  cases asks with
  | nothing => simp [Expression.names, Operand.names]
  | chain each =>
    rw [mem_names_chain]
    constructor
    · rintro ⟨part, member, inside⟩
      obtain ⟨term, present, asks⟩ := exists_mem_of_forall₂ each member
      exact ⟨term, present, (asks.mem_names_iff column).mp inside⟩
    · rintro ⟨term, present, tests⟩
      obtain ⟨part, member, asks⟩ := exists_mem_of_forall₂ each.flip present
      exact ⟨part, member, (asks.mem_names_iff column).mpr tests⟩

theorem AsksAll.passes_iff (asks : AsksAll schema terms condition) (row : Row) :
    row.passes condition = true ↔ ∀ term ∈ terms, row.Suits schema term := by
  cases asks with
  | nothing =>
    have always : row.passes (.compare .equal (.constant (.integer 1))
      (.constant (.integer 1))) = true := rfl
    simpa using always
  | chain each =>
    rw [passes_chain_and]
    apply forall_mem_iff_of_forall₂
    exact each.flip.imp fun _ _ asks => asks.passes_iff row

end Terms

/-! ### Searches -/

/-- A search fails if its condition mentions a name that is refused. -/
theorem search_refuses {fragment : Fragment} {condition : Expression (List String)}
    (chain : fragment.IsChain condition) {segments : List String}
    (mentioned : segments ∈ condition.names) (refused : IsRefused segments) (table : Table)
    (limit : Nat) :
    ∃ fault, (Store.links table).search fragment limit = .error (.statement fault) := by
  obtain ⟨tokens, read, lexes, reads, rfl⟩ := chain 68
  rw [Store.search, Store.run, parse_select limit lexes reads]
  cases conditionHeight read with
  | error fault => exact ⟨fault, rfl⟩
  | ok height =>
    cases resolved : Selection.resolve ⟨read, boundLimit limit⟩ with
    | error fault =>
      refine ⟨fault, ?_⟩
      change ((Selection.resolve ⟨read, boundLimit limit⟩).mapError .statement >>= table.answer) = _
      rw [resolved]
      rfl
    | ok selection =>
      -- All names were replaced, the refused one among them.
      obtain ⟨_, replaced, _⟩ := exists_of_bind_eq_ok resolved
      rw [Expression.names_map] at mentioned
      obtain ⟨mention, inside, rfl⟩ := List.mem_map.mp mentioned
      obtain ⟨reference, found⟩ := Expression.exists_of_mapNames replaced mention inside
      obtain ⟨fault, failed⟩ := refused mention.offset
      cases found.symm.trans failed

/--
What a search makes of the names in its condition.  With fields that compare columns, the condition
of an accepted query mentions the columns that its terms are about, and asks of a row what the terms
ask.  A search fails if a name in its condition is refused.  If none is, it answers the links of the
rows that satisfy the condition as its names are read, unless that has too many levels.  A name that
is no column is refused if it has a qualifier.  A bare one is read as a text: no row passes a test
of a flag in it, and a test of a text in it passes for all rows or for none.
-/
theorem search_reads_names {schema : Schema} {query : String} {fragment : Fragment}
    (accepted : schema.predicate query = .ok fragment) :
    (schema.ComparesColumns → ∃ condition, fragment.condition? = some condition ∧
      (∀ column : ColumnName, column.segments ∈ condition.names ↔
        ∃ term ∈ Term.readAll query.toList, Tests schema column term) ∧
      ∀ row : Row, row.passes condition = true ↔
        ∀ term ∈ Term.readAll query.toList, row.Suits schema term) ∧
    (∀ condition, fragment.condition? = some condition → ∀ table limit,
      (∀ segments ∈ condition.names, IsRefused segments →
        ∃ fault, (Store.links table).search fragment limit = .error (.statement fault)) ∧
      ((∀ segments ∈ condition.names, ¬ IsRefused segments) →
        (greatestHeight < condition.levels List.length →
          (Store.links table).search fragment limit = .error (.statement .tooHigh)) ∧
        (condition.levels List.length ≤ greatestHeight → (∀ row ∈ table.rows, row.HasFlags) →
          ∃ found : List Row, found.Pairwise (fun newer older => older.id < newer.id) ∧
            (∀ row, row ∈ found ↔ row ∈ table.rows ∧ row.passes condition = true) ∧
            (Store.links table).search fragment limit =
              .ok ((found.take (min limit (Nat.pow 2 63 - 1))).map Row.toLink)))) ∧
    (∀ segments, IsForeign segments → (IsRefused segments ↔ segments.length ≠ 1)) ∧
    ∀ name, IsForeign [name] → ∀ (row : Row) (value : String),
      (∀ flag, row.passes (flagTest [name] flag) = false) ∧
      (row.passes (textTest [name] value) = true ↔ ContainsUpToCase name value) := by
  refine ⟨fun compares => ?_, fun condition said table limit => ?_,
    fun segments foreign => foreign.isRefused_iff, fun name foreign row value => ?_⟩
  · obtain ⟨condition, chain, asks⟩ := exists_asksAll compares accepted
    exact ⟨condition, Fragment.condition?_eq_some_iff.mpr chain, asks.mem_names_iff,
      asks.passes_iff⟩
  · have chain := Fragment.condition?_eq_some_iff.mp said
    refine ⟨fun segments mentioned refused => ?_, fun none_refused => ?_⟩
    · exact search_refuses chain mentioned refused table limit
    · have known : ∀ segments ∈ condition.names, ∀ offset,
          Reference.ofMention ⟨segments, offset⟩ = .ok (referenceOf segments) := by
        intro segments mentioned
        exact (isRefused_or_ofMention_eq segments).resolve_left (none_refused segments mentioned)
      refine ⟨fun high => ?_, fun low flags => exists_found flags limit chain known low⟩
      rw [search_eq limit chain known, if_neg (Nat.not_le.mpr high)]
  · exact ⟨foreign.passes_flagTest row, foreign.passes_textTest row value⟩

/-- A column that the table does not have, as a search may call it. -/
def notesName : ColumnName := ⟨["notes"], by decide, by decide⟩

/-- The same with its qualifier. -/
def qualifiedNotesName : ColumnName := ⟨["l", "notes"], by decide, by decide⟩

/-- A field for notes, in whatever column they are. -/
def noteIn (column : ColumnName) : Schema where
  fields := [.ofColumn .string "note" column]
  looseColumns := []
  names_nodup := by simp

theorem comparesColumns_noteIn (column : ColumnName) : (noteIn column).ComparesColumns := by
  intro field member
  exact ⟨.string, "note", column, List.mem_singleton.mp member⟩

theorem readAll_note : Term.readAll "note:note".toList = [.field "note" "note"] :=
  Term.readAll_of_readSteps (show Term.readSteps 2 _ = _ by decide)

theorem predicate_noteIn (column : ColumnName) :
    (noteIn column).predicate "note:note" = .ok (.contains column "note") := by
  have registered : .ofColumn .string "note" column ∈ (noteIn column).fields :=
    List.mem_singleton_self _
  rw [predicate_eq_iff, readAll_note]
  refine .accepted (by simp) ?_ (fun value loose => ?_) (.cons (.field (.string registered)) .nil)
  · intro term member
    obtain rfl := List.mem_singleton.mp member
    exact issue?_string registered
  · cases List.mem_singleton.mp loose

theorem condition?_contains (column : ColumnName) (value : String) :
    (Fragment.contains column value).condition? = some (textTest column.segments value) :=
  Fragment.condition?_eq_some_iff.mpr (isAtom_contains column value).isChain

theorem isForeign_notesName : IsForeign notesName.segments := by decide

/-- The name of the column contains the value, so each link is answered. -/
theorem contains_notes : ContainsUpToCase "notes" "note" :=
  ⟨"note".toList, ⟨[], ['s'], by decide⟩, by decide⟩

/-- With the qualifier the search fails; without it every link is found. -/
theorem search_reads_names_notes :
    (noteIn qualifiedNotesName).predicate "note:note" = .ok (.contains qualifiedNotesName "note") ∧
      (∃ fault, (Store.links twoLinks).search (.contains qualifiedNotesName "note") 20 =
        .error (.statement fault)) ∧
      (noteIn notesName).predicate "note:note" = .ok (.contains notesName "note") ∧
      ∃ found : List Row, (∀ row, row ∈ found ↔ row ∈ twoLinks.rows) ∧
        (Store.links twoLinks).search (.contains notesName "note") 20 =
          .ok ((found.take 20).map Row.toLink) := by
  have qualified := predicate_noteIn qualifiedNotesName
  have bare := predicate_noteIn notesName
  obtain ⟨_, searches, refused_iff, _⟩ := search_reads_names qualified
  obtain ⟨_, searches_bare, _, texts⟩ := search_reads_names bare
  have said (column : ColumnName) := condition?_contains column "note"
  refine ⟨qualified, ?_, bare, ?_⟩
  · have foreign : IsForeign qualifiedNotesName.segments := by decide
    refine (searches _ (said qualifiedNotesName) twoLinks 20).1 qualifiedNotesName.segments ?_ ?_
    · rw [names_textTest]
      exact List.mem_cons_self
    · exact (refused_iff _ foreign).mpr (by decide)
  · have none_refused : ∀ segments ∈ (textTest notesName.segments "note").names,
        ¬ IsRefused segments := by
      intro segments mentioned
      obtain rfl := List.mem_singleton.mp mentioned
      rw [isForeign_notesName.isRefused_iff]
      decide
    have low : (textTest notesName.segments "note").levels List.length ≤ greatestHeight := by
      decide
    obtain ⟨found, _, exactly, answer⟩ :=
      ((searches_bare _ (said notesName) twoLinks 20).2 none_refused).2 low hasFlags_twoLinks
    refine ⟨found, fun row => ?_, answer⟩
    rw [exactly]
    exact and_iff_left ((texts "notes" isForeign_notesName row "note").2.mpr contains_notes)

theorem newestFirst_twoLinks : twoLinks.newestFirst = [archivedBirds, gardenBirds] := by
  have ordered : [archivedBirds, gardenBirds].Pairwise fun newer older => older.id < newer.id := by
    decide
  have perm : twoLinks.newestFirst.Perm [archivedBirds, gardenBirds] :=
    (perm_newestFirst twoLinks).trans (.swap _ _ _)
  apply perm.eq_of_pairwise _ (pairwise_newestFirst twoLinks) ordered
  intro first second _ _ less more
  omega

/-- A misspelled column is no error: a field for it finds links that have nothing of the value. -/
theorem foreign_column_answered :
    (noteIn notesName).ComparesColumns ∧ IsForeign notesName.segments ∧
      (noteIn notesName).predicate "note:note" = .ok (.contains notesName "note") ∧
      (∃ condition, (Fragment.contains notesName "note").condition? = some condition ∧
        notesName.segments ∈ condition.names) ∧
      (Store.links twoLinks).search (.contains notesName "note") 20 =
        .ok [archivedBirds.toLink, gardenBirds.toLink] := by
  have chain := (isAtom_contains notesName "note").isChain
  refine ⟨comparesColumns_noteIn notesName, isForeign_notesName, predicate_noteIn notesName,
    ⟨_, condition?_contains notesName "note", List.mem_cons_self⟩, ?_⟩
  have known : ∀ segments ∈ (textTest notesName.segments "note").names, ∀ offset,
      Reference.ofMention ⟨segments, offset⟩ = .ok (referenceOf segments) := by
    intro segments mentioned offset
    obtain rfl := List.mem_singleton.mp mentioned
    rfl
  have every : [archivedBirds, gardenBirds].filter
      (·.passes (textTest notesName.segments "note")) = [archivedBirds, gardenBirds] :=
    List.filter_eq_self.mpr fun row _ =>
      (isForeign_notesName.passes_textTest row "note").mpr contains_notes
  rw [search_eq 20 chain known, if_pos (by decide)]
  change ((twoLinks.newestFirst.filter (·.passes (textTest notesName.segments "note"))).take
    (boundLimit 20).toNat).mapM Row.link = _
  rw [newestFirst_twoLinks, every]
  rfl

end LinkSearch.Links
