import LinkSearch.Proofs.Links.Fitting
import LinkSearch.Proofs.Links.Selections
import LinkSearch.Proofs.Lists

/-!
# A search finds what its query describes

With fields that test the columns of the table, a row satisfies the predicate of a query if it fits
all terms of the query.  A search answers the links of these rows, the newest first.  It is refused
if the predicate has too many levels, for which a loose term needs almost as many columns.
-/

namespace LinkSearch.Links

open LinkSearch.Sql LinkSearch.Query

/-! ### Predicates -/

theorem disjunction_eq_parenthesized {columns : List ColumnName} (value : String)
    (present : columns ≠ []) : disjunction columns value =
      (Fragment.join " OR " (columns.map (Fragment.contains · value))).parenthesized := by
  have made := anyContains_eq_disjunction value present
  rw [anyContains, if_neg (by simpa using present)] at made
  exact (Except.ok.inj made).symm

/-- The condition as which the test of a term is read. -/
inductive Asks (schema : Schema) : Term → Expression (List String) → Prop where
  | flag {name value : String} {column : ColumnName} {flag : Bool}
      (registered : .ofColumn .boolean name column ∈ schema.fields)
      (spelled : SpellsBoolean flag value) :
      Asks schema (.field name value) (flagTest column.segments flag)
  | text {name value : String} {column : ColumnName}
      (registered : .ofColumn .string name column ∈ schema.fields) :
      Asks schema (.field name value) (textTest column.segments value)
  | loose {value : String} {first : ColumnName} {others : List ColumnName}
      (columns : schema.looseColumns = first :: others) :
      Asks schema (.loose value) (chain .or (textTest first.segments value)
        (others.map fun column => textTest column.segments value))

/-- The test of a term is read as one condition. -/
theorem exists_asks {schema : Schema} {term : Term} {leg : Fragment}
    (test : HasTest schema term leg) :
    ∃ condition, leg.IsAtom condition ∧ Asks schema term condition := by
  cases test with
  | flag registered spelled => exact ⟨_, isAtom_flagEquals _ _, .flag registered spelled⟩
  | text registered => exact ⟨_, isAtom_contains _ _, .text registered⟩
  | @loose value present =>
    obtain ⟨first, others, columns⟩ := List.exists_cons_of_ne_nil present
    refine ⟨_, ?_, .loose columns⟩
    rw [disjunction_eq_parenthesized value present, columns]
    apply Fragment.IsChain.parenthesized
    apply isChain_join .or
    refine .cons (isAtom_contains first value) ?_
    rw [List.forall₂_map_left_iff, List.forall₂_map_right_iff, List.forall₂_same]
    exact fun column _ => isAtom_contains column value

theorem exists_conditions {schema : Schema} {terms : List Term} {legs : List Fragment}
    (tests : List.Forall₂ (HasTest schema) terms legs) :
    ∃ conditions, List.Forall₂ Fragment.IsAtom legs conditions ∧
      List.Forall₂ (Asks schema) terms conditions := by
  induction tests with
  | nil => exact ⟨[], .nil, .nil⟩
  | cons test _ ih =>
    obtain ⟨conditions, atoms, each⟩ := ih
    obtain ⟨condition, atom, first⟩ := exists_asks test
    exact ⟨condition :: conditions, .cons atom atoms, .cons first each⟩

/-- The condition as which the tests of some terms are read together. -/
inductive AsksAll (schema : Schema) : List Term → Expression (List String) → Prop where
  | nothing : AsksAll schema [] (.compare .equal (.constant (.integer 1)) (.constant (.integer 1)))
  | chain {terms : List Term} {first : Expression (List String)}
      {rest : List (Expression (List String))}
      (each : List.Forall₂ (Asks schema) terms (first :: rest)) :
      AsksAll schema terms (chain .and first rest)

/-- With fields that compare columns, the predicate of an accepted query is one condition. -/
theorem exists_asksAll {schema : Schema} {query : String} {fragment : Fragment}
    (compares : schema.ComparesColumns) (accepted : schema.predicate query = .ok fragment) :
    ∃ condition, fragment.IsChain condition ∧
      AsksAll schema (Term.readAll query.toList) condition := by
  obtain ⟨legs, tests, rfl⟩ := compares.tests accepted
  obtain ⟨conditions, atoms, each⟩ := exists_conditions tests
  cases conditions with
  | nil =>
    cases atoms
    generalize Term.readAll query.toList = terms at each
    cases each
    exact ⟨_, isAtom_alwaysTrue.isChain, .nothing⟩
  | cons first rest =>
    have present : legs ≠ [] := by
      rintro rfl
      cases atoms
    refine ⟨_, ?_, .chain each⟩
    rw [← join_eq_conjunction present]
    exact isChain_join .and atoms

theorem Asks.renders {schema : Schema} {term : Term} {condition : Expression (List String)}
    (asks : Asks schema term condition) (searches : SearchesLinks schema) :
    Renders schema term condition := by
  cases asks with
  | flag registered spelled => exact renders_flag searches registered spelled
  | text registered => exact renders_text searches registered
  | loose columns => exact renders_loose searches _ columns

/-- A condition that asks of a row what all terms ask; the terms have these levels. -/
structure Describes (schema : Schema) (terms : List Term) (heights : List Nat)
    (condition : Expression (List String)) : Prop where
  heights_terms : List.Forall₂ (HasLevels schema) terms heights
  levels : condition.levels List.length ≤ greatestHeight ↔ chainLevels heights ≤ greatestHeight
  known : ∀ segments ∈ condition.names, ∀ offset,
    Reference.ofMention ⟨segments, offset⟩ = .ok (.column (columnOf segments))
  fits : ∀ row : Row, row.HasFlags →
    (row.meets condition = true ↔ ∀ term ∈ terms, row.Fits schema term)

theorem fits_of_renders {schema : Schema} {terms : List Term}
    {conditions : List (Expression (List String))}
    (renders : List.Forall₂ (Renders schema) terms conditions) {row : Row} (flags : row.HasFlags) :
    (∀ part ∈ conditions, row.meets part = true) ↔ ∀ term ∈ terms, row.Fits schema term := by
  induction renders with
  | nil => simp
  | cons first _ ih => rw [List.forall_mem_cons, List.forall_mem_cons, first.fits row flags, ih]

theorem describes_chain {schema : Schema} {terms : List Term} {first : Expression (List String)}
    {rest : List (Expression (List String))}
    (renders : List.Forall₂ (Renders schema) terms (first :: rest)) :
    Describes schema terms ((first :: rest).map (Expression.levels List.length))
      (chain .and first rest) := by
  refine ⟨?_, ?_, ?_, fun row flags => ?_⟩
  · rw [List.forall₂_map_right_iff]
    exact renders.imp fun _ _ term => term.levels
  · rw [levels_chain]
  · intro segments member
    obtain ⟨part, present, inside⟩ := mem_names_chain.mp member
    obtain ⟨_, _, term⟩ := exists_mem_of_forall₂ renders present
    exact term.known segments inside
  · rw [meets_chain_and]
    exact fits_of_renders renders flags

/-- The predicate of an accepted query is read as a condition that asks what its terms ask. -/
theorem exists_describes {schema : Schema} {query : String} {fragment : Fragment}
    (searches : SearchesLinks schema) (accepted : schema.predicate query = .ok fragment) :
    ∃ heights condition, fragment.IsChain condition ∧
      Describes schema (Term.readAll query.toList) heights condition := by
  have compares : schema.ComparesColumns := by
    intro field member
    obtain ⟨kind, name, columnName, _, same, _⟩ := searches.fields field member
    exact ⟨kind, name, columnName, same⟩
  obtain ⟨condition, chain, asks⟩ := exists_asksAll compares accepted
  generalize Term.readAll query.toList = terms at asks ⊢
  cases asks with
  | nothing =>
    refine ⟨[], _, chain, .nil, ?_, ?_, ?_⟩
    · decide
    · simp [Expression.names, Operand.names]
    · intro row _
      have always : row.meets (.compare .equal (.constant (.integer 1))
        (.constant (.integer 1))) = true := rfl
      simpa using always
  | chain each =>
    exact ⟨_, _, chain, describes_chain (each.imp fun _ _ asks => asks.renders searches)⟩

/-! ### Levels -/

theorem length_segments_le {name : ColumnName} {column : Column} (named : NamesColumn name column) :
    name.segments.length ≤ 2 := by
  rcases named with segments | segments
  all_goals simp [segments]

theorem HasLevels.le {schema : Schema} {term : Term} {height : Nat}
    (searches : SearchesLinks schema) (has : HasLevels schema term height) :
    height ≤ max 1 schema.looseColumns.length + 4 := by
  cases has with
  | flag registered | text registered =>
    obtain ⟨column, named, _⟩ := searches.exists_column registered
    have := length_segments_le named
    omega
  | loose =>
    have each : ∀ height ∈ schema.looseColumns.map (·.segments.length + 3), height ≤ 5 := by
      intro height member
      obtain ⟨columnName, present, rfl⟩ := List.mem_map.mp member
      obtain ⟨column, named, _⟩ := searches.columns columnName present
      have := length_segments_le named
      omega
    have bound := chainLevels_le each
    rw [List.length_map] at bound
    omega

theorem chainLevels_heights_le {schema : Schema} {terms : List Term} {heights : List Nat}
    (searches : SearchesLinks schema) (few : terms.length ≤ 5)
    (heights_terms : List.Forall₂ (HasLevels schema) terms heights) :
    chainLevels heights ≤ max 1 schema.looseColumns.length + 8 := by
  have each : ∀ height ∈ heights, height ≤ max 1 schema.looseColumns.length + 4 := by
    intro height member
    obtain ⟨_, _, term⟩ := exists_mem_of_forall₂ heights_terms member
    exact term.le searches
  have bound := chainLevels_le each
  rw [← heights_terms.length_eq] at bound
  omega

/-- One loose value is too much if there are more than a thousand columns to look in. -/
theorem search_tooHigh_of_columns {table : Table} {schema : Schema}
    (searches : SearchesLinks schema) {query value : String} {fragment : Fragment}
    (accepted : schema.predicate query = .ok fragment)
    (loose : .loose value ∈ Term.readAll query.toList)
    (many : greatestHeight < schema.looseColumns.length) (limit : Nat) :
    (Store.links table).search fragment limit = .error (.statement .tooHigh) := by
  obtain ⟨heights, condition, chain, describes⟩ := exists_describes searches accepted
  obtain ⟨height, member, has⟩ := exists_mem_of_forall₂ describes.heights_terms.flip loose
  have tall : schema.looseColumns.length ≤ height := by
    cases has with
    | loose =>
      have positive : ∀ height ∈ schema.looseColumns.map (·.segments.length + 3), 0 < height := by
        simp
      simpa using length_le_chainLevels positive
  have high : greatestHeight < chainLevels heights :=
    Nat.lt_of_lt_of_le many (Nat.le_trans tall (le_chainLevels member))
  rw [search_eq limit chain describes.known, if_neg (mt describes.levels.mp (Nat.not_le.mpr high))]

theorem toNat_boundLimit (limit : Nat) :
    (boundLimit limit).toNat = min limit (Nat.pow 2 63 - 1) := by
  simp only [boundLimit, Table.greatestId, Nat.pow_eq]
  omega

/-- A search for a condition answers the links of the rows that satisfy it, the newest first. -/
theorem exists_found {table : Table} (flags : ∀ row ∈ table.rows, row.HasFlags)
    {fragment : Fragment} {condition : Expression (List String)}
    {reference : List String → Reference} (limit : Nat) (chain : fragment.IsChain condition)
    (known : ∀ segments ∈ condition.names, ∀ offset,
      Reference.ofMention ⟨segments, offset⟩ = .ok (reference segments))
    (low : condition.levels List.length ≤ greatestHeight) :
    ∃ found : List Row, found.Pairwise (fun newer older => older.id < newer.id) ∧
      (∀ row, row ∈ found ↔ row ∈ table.rows ∧ row.satisfies (condition.map reference) = true) ∧
      (Store.links table).search fragment limit =
        .ok ((found.take (min limit (Nat.pow 2 63 - 1))).map Row.toLink) := by
  refine ⟨table.newestFirst.filter (·.satisfies (condition.map reference)), ?_, fun row => ?_, ?_⟩
  · exact (pairwise_newestFirst table).filter _
  · rw [List.mem_filter, (perm_newestFirst table).mem_iff]
  · rw [search_eq limit chain known, if_pos low, ← toNat_boundLimit]
    apply mapM_link_eq_ok
    intro row member
    have present := List.mem_of_mem_filter (List.mem_of_mem_take member)
    exact flags row ((perm_newestFirst table).mem_iff.mp present)

/--
A search answers the links of exactly the rows that fit all terms of its query, from the greatest id
to the least and no more than its limit, with the values of these rows.  It is refused if the terms
make a condition of more than a thousand levels.  They make eight levels more than there are columns
for loose values, at most.  No cell and no bound value is taken to have more than the 10^9 bytes that
a database allows.
-/
theorem search_finds_described {table : Table} (flags : ∀ row ∈ table.rows, row.HasFlags)
    {schema : Schema} (searches : SearchesLinks schema) {query : String} {fragment : Fragment}
    (accepted : schema.predicate query = .ok fragment) (limit : Nat) :
    ∃ heights, List.Forall₂ (HasLevels schema) (Term.readAll query.toList) heights ∧
      chainLevels heights ≤ max 1 schema.looseColumns.length + 8 ∧
      (greatestHeight < chainLevels heights →
        (Store.links table).search fragment limit = .error (.statement .tooHigh)) ∧
      (chainLevels heights ≤ greatestHeight → ∃ found : List Row,
        found.Pairwise (fun newer older => older.id < newer.id) ∧
        (∀ row, row ∈ found ↔ row ∈ table.rows ∧
          ∀ term ∈ Term.readAll query.toList, row.Fits schema term) ∧
        (Store.links table).search fragment limit =
          .ok ((found.take (min limit (Nat.pow 2 63 - 1))).map Row.toLink)) := by
  obtain ⟨heights, condition, chain, describes⟩ := exists_describes searches accepted
  have few : (Term.readAll query.toList).length ≤ 5 := by
    cases predicate_eq_iff.mp accepted with
    | accepted fits => exact fits
  refine ⟨heights, describes.heights_terms,
    chainLevels_heights_le searches few describes.heights_terms, fun high => ?_, fun low => ?_⟩
  · rw [search_eq limit chain describes.known,
      if_neg (mt describes.levels.mp (Nat.not_le.mpr high))]
  · obtain ⟨found, order, exactly, answer⟩ :=
      exists_found flags limit chain describes.known (describes.levels.mpr low)
    refine ⟨found, order, fun row => ?_, answer⟩
    rw [exactly]
    exact and_congr_right fun member => describes.fits row (flags row member)

/-- A column of the table, as a search may call it. -/
def titleName : ColumnName := ⟨["title"], by decide, by decide⟩

/-- A column of the table with its qualifier. -/
def archiveName : ColumnName := ⟨["l", "archive"], by decide, by decide⟩

/-- One flag, and so many times the title for loose values. -/
def archiveAndTitles (count : Nat) : Schema where
  fields := [.ofColumn .boolean "archive" archiveName]
  looseColumns := List.replicate count titleName
  names_nodup := by decide

/-- A link that is not in the archive. -/
def gardenBirds : Row := ⟨2, "Garden birds", "https://birds.example", "", .integer 0, .integer 1⟩

/-- A link that is in the archive. -/
def archivedBirds : Row := ⟨5, "Birds", "u", "", .integer 1, .integer 0⟩

def twoLinks : Table where
  rows := [gardenBirds, archivedBirds]
  ids_nodup := by decide

theorem hasFlags_twoLinks : ∀ row ∈ twoLinks.rows, row.HasFlags := by
  intro row member
  simp only [twoLinks, List.mem_cons, List.not_mem_nil, or_false] at member
  rcases member with rfl | rfl
  · exact ⟨.inl rfl, .inr rfl⟩
  · exact ⟨.inr rfl, .inl rfl⟩

section Titles

variable (count : Nat)

theorem searchesLinks_archiveAndTitles : SearchesLinks (archiveAndTitles count) where
  fields := by
    intro field member
    obtain rfl := List.mem_singleton.mp member
    exact ⟨_, _, _, .archive, rfl, .inr rfl, rfl⟩
  columns := by
    intro columnName member
    obtain rfl := List.eq_of_mem_replicate member
    exact ⟨.title, .inl rfl, rfl⟩

theorem registered_archive :
    .ofColumn .boolean "archive" archiveName ∈ (archiveAndTitles count).fields :=
  List.mem_singleton_self _

theorem readAll_birdsArchive : Term.readAll "BIRDS archive:False".toList =
    [.loose "BIRDS", .field "archive" "False"] :=
  Term.readAll_of_readSteps (show Term.readSteps 3 _ = _ by decide)

theorem exists_birdsArchive (present : 0 < count) :
    ∃ fragment, (archiveAndTitles count).predicate "BIRDS archive:False" = .ok fragment := by
  have columns : (archiveAndTitles count).looseColumns ≠ [] :=
    List.ne_nil_of_length_pos (by simpa [archiveAndTitles] using present)
  have registered := registered_archive count
  have spelled : SpellsBoolean false "False" := by decide
  simp only [predicate_eq_iff, readAll_birdsArchive]
  refine ⟨_, .accepted (by simp) ?_ (fun _ _ => columns)
    (.cons (.loose columns) (.cons (.field (.boolean registered spelled)) .nil))⟩
  intro term member
  simp only [List.mem_cons, List.not_mem_nil, or_false] at member
  rcases member with rfl | rfl
  · rfl
  · rw [Field.ofColumn] at registered
    rw [issue?_boolean registered, if_neg fun unspelled => unspelled false spelled]

theorem gardenBirds_fits (present : 0 < count) :
    ∀ term ∈ Term.readAll "BIRDS archive:False".toList,
      gardenBirds.Fits (archiveAndTitles count) term := by
  rw [readAll_birdsArchive]
  intro term member
  simp only [List.mem_cons, List.not_mem_nil, or_false] at member
  rcases member with rfl | rfl
  · have column : titleName ∈ (archiveAndTitles count).looseColumns :=
      List.mem_replicate.mpr ⟨Nat.pos_iff_ne_zero.mp present, rfl⟩
    have named : NamesColumn titleName .title := .inl rfl
    have contains : ContainsUpToCase "Garden birds" "BIRDS" :=
      ⟨"birds".toList, ⟨"Garden ".toList, [], by decide⟩, by decide⟩
    exact .loose column named rfl contains
  · have named : NamesColumn archiveName .archive := .inr rfl
    have spelled : SpellsBoolean false "False" := by decide
    exact .flag (registered_archive count) named spelled rfl

theorem not_archivedBirds_fits :
    ¬ archivedBirds.Fits (archiveAndTitles count) (.field "archive" "False") := by
  intro fits
  cases fits with
  | text registered => cases (registered_unique (registered_archive count) registered).1
  | @flag _ _ _ column flag registered named spelled equal =>
    obtain rfl := (registered_unique (registered_archive count) registered).2
    obtain rfl : column = .archive := named.unique (.inr rfl)
    obtain rfl : flag = false := spelled.unique (by decide)
    exact absurd equal (by decide)

end Titles

/-- The link that fits is answered, and the one in the archive is not. -/
theorem search_finds_described_birds :
    (∀ row ∈ twoLinks.rows, row.HasFlags) ∧ SearchesLinks (archiveAndTitles 1) ∧
      ∃ (fragment : Fragment) (found : List Row),
        (archiveAndTitles 1).predicate "BIRDS archive:False" = .ok fragment ∧
        gardenBirds ∈ found ∧ archivedBirds ∉ found ∧
        (Store.links twoLinks).search fragment 10 = .ok ((found.take 10).map Row.toLink) := by
  have searches := searchesLinks_archiveAndTitles 1
  obtain ⟨fragment, accepted⟩ := exists_birdsArchive 1 (by decide)
  obtain ⟨heights, _, bound, _, answered⟩ :=
    search_finds_described hasFlags_twoLinks searches accepted 10
  have low : chainLevels heights ≤ greatestHeight := Nat.le_trans bound (by decide)
  obtain ⟨found, _, exactly, answer⟩ := answered low
  have member : gardenBirds ∈ found :=
    (exactly _).mpr ⟨List.mem_cons_self, gardenBirds_fits 1 (by decide)⟩
  have absent : archivedBirds ∉ found := by
    intro present
    have asked : .field "archive" "False" ∈ Term.readAll "BIRDS archive:False".toList := by
      rw [readAll_birdsArchive]
      exact List.mem_cons_of_mem _ List.mem_cons_self
    exact not_archivedBirds_fits 1 (((exactly _).mp present).2 _ asked)
  exact ⟨hasFlags_twoLinks, searches, fragment, found, accepted, member, absent, answer⟩

/-- With more than a thousand columns for loose values a link that fits is not found. -/
theorem search_refuses_manyTitles :
    (∀ row ∈ twoLinks.rows, row.HasFlags) ∧ SearchesLinks (archiveAndTitles 1001) ∧
      gardenBirds ∈ twoLinks.rows ∧
      (∀ term ∈ Term.readAll "BIRDS archive:False".toList,
        gardenBirds.Fits (archiveAndTitles 1001) term) ∧
      ∃ fragment, (archiveAndTitles 1001).predicate "BIRDS archive:False" = .ok fragment ∧
        (Store.links twoLinks).search fragment 10 = .error (.statement .tooHigh) := by
  obtain ⟨fragment, accepted⟩ := exists_birdsArchive 1001 (by decide)
  have loose : .loose "BIRDS" ∈ Term.readAll "BIRDS archive:False".toList := by
    rw [readAll_birdsArchive]
    exact List.mem_cons_self
  have many : greatestHeight < (archiveAndTitles 1001).looseColumns.length := by
    rw [archiveAndTitles, List.length_replicate]
    decide
  have searches := searchesLinks_archiveAndTitles 1001
  exact ⟨hasFlags_twoLinks, searches, List.mem_cons_self, gardenBirds_fits 1001 (by decide),
    fragment, accepted, search_tooHigh_of_columns searches accepted loose many 10⟩

end LinkSearch.Links
