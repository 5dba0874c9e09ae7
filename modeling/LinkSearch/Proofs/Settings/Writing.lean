import LinkSearch.Proofs.Settings.Acceptance
import LinkSearch.Proofs.Toml.Documents
import LinkSearch.Proofs.Toml.Tables
import LinkSearch.Settings.Writer

/-!
# Written settings are read back

The file that is written for settings declares all of them, and says nothing else.  So reading it
gives the same settings, from whatever file they are said to come, if their store does not depend on
the directory of that file.
-/

namespace LinkSearch.Settings

open LinkSearch.Files LinkSearch.Query LinkSearch.Toml

/-! ### Lists of texts -/

/-- An item on a line of its own. -/
def itemText (text : String) : List Char :=
  ' ' :: ' ' :: ' ' :: ' ' :: ((writeString text).toList ++ [',', '\n'])

theorem toList_join_items (texts : List String) :
    (String.join (texts.map fun text => "    " ++ writeString text ++ ",\n")).toList =
      texts.flatMap itemText := by
  simp only [String.toList_join, List.flatMap_map, String.toList_append, List.append_assoc]
  rfl

theorem length_le_items (texts : List String) :
    texts.length ≤ (texts.flatMap itemText).length := by
  induction texts with
  | nil => exact Nat.le_refl 0
  | cons text texts ih =>
    simp only [List.flatMap_cons, List.length_append, itemText, List.length_cons] at ih ⊢
    omega

/-- By induction on the items, each of which begins after the line end of the one before. -/
theorem readItems?_items (texts : List String) {fuel : Nat} (enough : texts.length < fuel)
    (depth : Nat) (rest : List Char) :
    readItems? fuel depth ('\n' :: (texts.flatMap itemText ++ ']' :: rest)) =
      some (texts.map Value.string, rest) := by
  induction texts generalizing fuel with
  | nil =>
    obtain ⟨fuel, rfl⟩ := Nat.exists_eq_add_of_lt enough
    have skipped : skipFiller? ('\n' :: ']' :: rest) = some (']' :: rest) := by
      rw [skipFiller?_lineEnd, skipFiller?_of_isSolid (by decide)]
    simp [readItems?, skipped]
  | cons text texts ih =>
    obtain ⟨fuel, rfl⟩ : ∃ more, fuel = more + 2 :=
      ⟨fuel - 2, by rw [List.length_cons] at enough; omega⟩
    have others : readItems? (fuel + 1) depth _ = _ := ih (Nat.lt_of_succ_lt_succ enough)
    have start : skipFiller? ('\n' :: ((text :: texts).flatMap itemText ++ ']' :: rest)) =
        some ((writeString text).toList ++ ',' :: '\n' :: (texts.flatMap itemText ++ ']' :: rest)) := by
      rw [skipFiller?_lineEnd]
      apply skipFiller?_writeString
      simp [itemText, dropBlanks_space]
    rw [readItems?_comma fuel depth start, others]
    rfl

theorem readsValue_writeList (texts : List String) :
    ReadsValue (writeList texts).toList (.array (texts.map Value.string)) := by
  match texts with
  | [] =>
    apply readsValue_bracket (s := [']'])
    intro fuel depth rest enough
    obtain ⟨fuel, rfl⟩ := Nat.exists_eq_add_of_lt enough
    exact readItems?_bracket _ _ _
  | [only] =>
    have written : (writeList [only]).toList = '[' :: ((writeString only).toList ++ [']']) := by
      simp [writeList]
    rw [written]
    apply readsValue_bracket
    intro fuel depth rest enough
    rw [List.length_append, List.length_singleton] at enough
    obtain ⟨fuel, rfl⟩ : ∃ more, fuel = more + 2 := ⟨fuel - 2, by omega⟩
    rw [List.append_assoc, List.singleton_append]
    exact readItems?_last fuel depth (skipFiller?_writeString rfl)
  | first :: second :: others =>
    have written : (writeList (first :: second :: others)).toList =
        '[' :: '\n' :: ((first :: second :: others).flatMap itemText ++ [']']) := by
      rw [writeList, String.toList_append, String.toList_append, toList_join_items]
      · rfl
      · nofun
      · nofun
    rw [written]
    apply readsValue_bracket
    intro fuel depth rest enough
    have bound := length_le_items (first :: second :: others)
    rw [List.cons_append, List.append_assoc, List.singleton_append]
    apply readItems?_items
    refine Nat.lt_of_le_of_lt bound ?_
    simp only [List.length_cons, List.length_append] at enough
    omega

/-! ### The lines of a settings file -/

theorem spells_writePair (key : String) {text : String} {value : Value} (bare : IsBareKey key)
    (reads : ReadsValue text.toList value) :
    Spells (writePair key text).toList (pairLines [(key, value)]) := by
  have written : (writePair key text).toList =
      (key.toList ++ ' ' :: '=' :: ' ' :: text.toList) ++ ['\n'] := by
    simp [writePair]
  rw [written]
  exact (readsLine_pair bare reads).spells

/-- What stands before all sections: an empty array, if there are no fields. -/
def openingPairs (settings : Settings) : List (String × Value) :=
  if settings.fields.isEmpty then [("field", .array [])] else []

def searchPairs (settings : Settings) : List (String × Value) :=
  [("loose_columns", .array (settings.looseColumns.map Value.string))]

def fieldPairs (spec : FieldSpec) : List (String × Value) :=
  [("name", .string spec.name), ("kind", .string spec.kind.word)] ++
    (spec.column.map fun column => ("column", Value.string column)).toList

def storePairs (settings : Settings) : List (String × Value) :=
  (settings.store.map fun path => ("path", Value.string path.text)).toList

theorem spells_writeSearch (settings : Settings) :
    Spells (writeSearch settings).toList (.table [] "search" :: pairLines (searchPairs settings)) := by
  rw [writeSearch, String.toList_append]
  have header : Spells "[search]\n".toList [.table [] "search"] :=
    (readsLine_table "search" (by decide)).spells
  exact header.append (spells_writePair "loose_columns" (by decide) (readsValue_writeList _))

theorem spells_writeField (spec : FieldSpec) :
    Spells (writeField spec).toList (.element [] "field" :: pairLines (fieldPairs spec)) := by
  have header : Spells "[[field]]\n".toList [.element [] "field"] :=
    (readsLine_element "field" (by decide)).spells
  have name := spells_writePair "name" (by decide) (readsValue_writeString spec.name)
  have kind := spells_writePair "kind" (by decide) (readsValue_writeString spec.kind.word)
  have first := (header.append name).append kind
  simp only [writeField, String.toList_append]
  cases column : spec.column with
  | none => simpa [fieldPairs, column, pairLines] using first
  | some text =>
    have last := spells_writePair "column" (by decide) (readsValue_writeString text)
    simpa [fieldPairs, column, pairLines] using first.append last

theorem spells_writeStore (settings : Settings) :
    Spells (writeStore settings).toList (.table [] "store" :: pairLines (storePairs settings)) := by
  have header : Spells "[store]\n".toList [.table [] "store"] :=
    (readsLine_table "store" (by decide)).spells
  rw [writeStore, String.toList_append]
  cases store : settings.store with
  | none => simpa [storePairs, store, pairLines] using header
  | some path =>
    have last := spells_writePair "path" (by decide) (readsValue_writeString path.text)
    simpa [storePairs, store, pairLines] using header.append last

/-- The lines that are not blank. -/
def writtenLines (settings : Settings) : List Line :=
  pairLines (openingPairs settings) ++ (.table [] "search" :: pairLines (searchPairs settings)) ++
    elementLines "field" (settings.fields.map fieldPairs) ++
    (.table [] "store" :: pairLines (storePairs settings))

theorem spells_write (settings : Settings) :
    Spells (write settings).toList (writtenLines settings) := by
  have opening : List.Forall₂ (fun text lines => Spells text.toList lines)
      (if settings.fields.isEmpty then [writePair "field" "[]"] else [])
      ((openingPairs settings).map fun pair => pairLines [pair]) := by
    unfold openingPairs
    split
    · exact .cons (spells_writePair "field" (by decide) (readsValue_writeList [])) .nil
    · exact .nil
  have search := List.rel_append opening (.cons (spells_writeSearch settings) .nil)
  have fields : List.Forall₂ (fun text lines => Spells text.toList lines)
      (settings.fields.map writeField)
      (settings.fields.map fun spec => .element [] "field" :: pairLines (fieldPairs spec)) := by
    rw [List.forall₂_map_left_iff, List.forall₂_map_right_iff, List.forall₂_same]
    exact fun spec _ => spells_writeField spec
  have store := List.rel_append (List.rel_append search fields)
    (.cons (spells_writeStore settings) .nil)
  have lines := spells_intercalate store
  have pairs : (openingPairs settings).flatMap (fun pair => pairLines [pair]) =
      pairLines (openingPairs settings) := by
    simp [pairLines, List.map_eq_flatMap]
  simp only [List.flatten_append, List.flatten_singleton, ← List.flatMap_def, pairs] at lines
  rw [writtenLines, elementLines, List.flatMap_map]
  exact lines

/-! ### The table that a settings file fills -/

theorem nodup_fieldPairs (spec : FieldSpec) : ((fieldPairs spec).map Prod.fst).Nodup := by
  cases column : spec.column <;> simp [fieldPairs, column]

theorem nodup_storePairs (settings : Settings) : ((storePairs settings).map Prod.fst).Nodup := by
  cases store : settings.store <;> simp [storePairs, store]

/-- The entries that the lines fill, in the order of the lines. -/
def writtenEntries (settings : Settings) : Entries :=
  valueEntries (openingPairs settings) ++
    [("search", .table .defined (valueEntries (searchPairs settings)))] ++
    arrayEntry "field" (elementNodes (settings.fields.map fieldPairs)) ++
    [("store", .table .defined (valueEntries (storePairs settings)))]

theorem fills_elementLines_fieldPairs (settings : Settings) (search : Node) (current : List String) :
    ∃ path, Fills ⟨valueEntries (openingPairs settings) ++ [("search", search)], current⟩
      (elementLines "field" (settings.fields.map fieldPairs))
      ⟨valueEntries (openingPairs settings) ++ [("search", search)] ++
        arrayEntry "field" (elementNodes (settings.fields.map fieldPairs)), path⟩ := by
  by_cases unfielded : settings.fields = []
  · simp only [unfielded, List.map_nil, elementNodes, arrayEntry_nil, List.append_nil]
    exact ⟨current, .nil _⟩
  · have absent : "field" ∉
        (valueEntries (openingPairs settings) ++ [("search", search)]).map Prod.fst := by
      simp [openingPairs, unfielded, valueEntries]
    have distinct : ∀ pairs ∈ settings.fields.map fieldPairs, (pairs.map Prod.fst).Nodup := by
      intro pairs member
      obtain ⟨spec, _, rfl⟩ := List.mem_map.mp member
      exact nodup_fieldPairs spec
    simpa only [arrayEntry_nil, List.append_nil, List.nil_append] using
      fills_elementLines absent distinct [] current

theorem fills_writtenLines (settings : Settings) :
    ∃ path, Fills ⟨[], []⟩ (writtenLines settings) ⟨writtenEntries settings, path⟩ := by
  have opening_keys : ((openingPairs settings).map Prod.fst).Nodup ∧
      "search" ∉ (valueEntries (openingPairs settings)).map Prod.fst ∧
      "store" ∉ (valueEntries (openingPairs settings)).map Prod.fst := by
    rw [map_fst_valueEntries, openingPairs]
    split <;> decide
  obtain ⟨distinct, search_new, store_new⟩ := opening_keys
  have opening := fills_pairLines isPlace_document [] distinct
  have search := fills_table search_new [] (show ((searchPairs settings).map Prod.fst).Nodup by
    simp [searchPairs])
  obtain ⟨path, fields⟩ := fills_elementLines_fieldPairs settings
    (.table .defined (valueEntries (searchPairs settings))) ["search"]
  have absent : "store" ∉ (valueEntries (openingPairs settings) ++
      [("search", Node.table .defined (valueEntries (searchPairs settings)))] ++
      arrayEntry "field" (elementNodes (settings.fields.map fieldPairs))).map Prod.fst := by
    simp only [List.map_append, List.mem_append, store_new, arrayEntry]
    split <;> simp
  exact ⟨["store"], ((opening.append search).append fields).append
    (fills_table absent path (nodup_storePairs settings))⟩

/-- The sections of a file in the order of their keys. -/
def writtenSections (settings : Settings) : List (String × Value) :=
  [("field", .array (settings.fields.map fun spec => .table (fieldPairs spec))),
    ("search", .table (searchPairs settings)), ("store", .table (storePairs settings))]

/-- An empty array of fields is the first section, any other the second. -/
theorem mergeSort_writtenEntries (settings : Settings) :
    (entriesToValues (writtenEntries settings)).mergeSort (fun a b => !(b.1 < a.1)) =
      writtenSections settings := by
  have values (search store : Node) (fields : Entries) :
      entriesToValues (valueEntries (openingPairs settings) ++ [("search", search)] ++ fields ++
        [("store", store)]) = openingPairs settings ++ ("search", search.toValue) ::
          (entriesToValues fields ++ [("store", store.toValue)]) := by
    simp [entriesToValues_append, entriesToValues_valueEntries, entriesToValues]
  rw [writtenEntries, values, Node.toValue, Node.toValue, entriesToValues_valueEntries,
    entriesToValues_valueEntries, writtenSections]
  have ascending : ["field", "search", "store"].Pairwise (· < ·) := by decide
  by_cases unfielded : settings.fields = []
  · have opening : openingPairs settings = [("field", .array [])] := by
      simp [openingPairs, unfielded]
    rw [opening, unfielded, List.map_nil, List.map_nil, elementNodes, List.map_nil, arrayEntry_nil]
    exact mergeSort_keys_eq (.refl _) ascending
  · have opening : openingPairs settings = [] := by simp [openingPairs, unfielded]
    have entry : arrayEntry "field" (elementNodes (settings.fields.map fieldPairs)) =
        [("field", .tables (elementNodes (settings.fields.map fieldPairs)))] := by
      simp [arrayEntry, elementNodes, unfielded]
    rw [opening, entry, entriesToValues, entriesToValues, Node.toValue,
      elementsToValues_elementNodes, List.map_map]
    exact mergeSort_keys_eq (.swap _ _ _) ascending

theorem exists_readDocument?_write (settings : Settings) :
    ∃ entries, readDocument? (write settings) = some entries ∧
      entries.mergeSort (fun a b => !(b.1 < a.1)) = writtenSections settings := by
  obtain ⟨path, filled⟩ := fills_writtenLines settings
  exact ⟨_, readDocument?_of_spells (spells_write settings) filled,
    mergeSort_writtenEntries settings⟩

/-! ### What the file declares -/

theorem kind_word (kind : Kind) : Declared.kind (.string kind.word) = .ok kind := by
  cases kind <;> rfl

theorem texts_strings (texts : List String) :
    Declared.texts (.array (texts.map Value.string)) = .ok texts := by
  change (texts.map Value.string).mapM Declared.text = .ok texts
  rw [mapM_eq_ok_iff, List.forall₂_map_left_iff, List.forall₂_same]
  exact fun text _ => rfl

/-- In the order of their keys, the pairs of a field are the other way round. -/
theorem entries?_fieldPairs (spec : FieldSpec) :
    Declared.entries? (.table (fieldPairs spec)) = some (fieldPairs spec).reverse := by
  refine congrArg some (mergeSort_keys_eq (List.reverse_perm _).symm ?_)
  cases column : spec.column with
  | none =>
    rw [fieldPairs, column]
    exact show ["kind", "name"].Pairwise (· < ·) by decide
  | some text =>
    rw [fieldPairs, column]
    exact show ["column", "kind", "name"].Pairwise (· < ·) by decide

theorem visit_fieldPairs (spec : FieldSpec) :
    Declared.visit Declared.fieldKeys Declared.takeFieldKey ⟨none, none, none⟩
      (fieldPairs spec).reverse = .ok ⟨some spec.name, some spec.kind, spec.column⟩ := by
  have known := kind_word spec.kind
  cases column : spec.column <;>
    simp [fieldPairs, column, Declared.visit, Declared.fieldKeys, Declared.takeFieldKey, known,
      Declared.text, bind, Except.bind, pure, Except.pure]

theorem field_fieldPairs (spec : FieldSpec) :
    Declared.field (.table (fieldPairs spec)) = .ok spec := by
  unfold Declared.field
  rw [entries?_fieldPairs]
  change (Declared.visit _ _ _ _).bind _ = _
  rw [visit_fieldPairs]
  rfl

/-- Everything that the settings hold is declared, the source apart. -/
def declaredAs (settings : Settings) : Declared where
  looseColumns := some settings.looseColumns
  fields := some settings.fields
  storePath := settings.store.map Path.text

theorem fields_fieldPairs (specs : List FieldSpec) :
    (specs.map fun spec => Value.table (fieldPairs spec)).mapM Declared.field = .ok specs := by
  rw [mapM_eq_ok_iff, List.forall₂_map_left_iff, List.forall₂_same]
  exact fun spec _ => field_fieldPairs spec

theorem readSection?_pair {α : Type} {take : Value → Except Fault α} (key expected : String)
    {value : Value} {taken : α} (read : take value = .ok taken) :
    Declared.readSection? key expected take (.table [(key, value)]) = .ok (some taken) := by
  simp [Declared.readSection?, Declared.entries?, Declared.visit, read, bind, Except.bind, pure,
    Except.pure]

section Sections

variable (settings : Settings) (declared : Declared)

theorem takeSection_field :
    Declared.takeSection declared "field"
        (.array (settings.fields.map fun spec => .table (fieldPairs spec))) =
      .ok { declared with fields := some settings.fields } := by
  have read := fields_fieldPairs settings.fields
  simp only [Declared.takeSection, Declared.items, read, bind, Except.bind, pure, Except.pure]
  rfl

theorem takeSection_search :
    Declared.takeSection declared "search" (.table (searchPairs settings)) =
      .ok { declared with looseColumns := some settings.looseColumns } := by
  have read := readSection?_pair "loose_columns" "struct RawSearchSettings"
    (texts_strings settings.looseColumns)
  simp [Declared.takeSection, searchPairs, read, bind, Except.bind, pure, Except.pure]

theorem takeSection_store :
    Declared.takeSection declared "store" (.table (storePairs settings)) =
      .ok { declared with storePath := settings.store.map Path.text } := by
  have read : Declared.readSection? "path" "struct RawStoreSettings" Declared.text
      (.table (storePairs settings)) = .ok (settings.store.map Path.text) := by
    unfold storePairs
    cases settings.store with
    | none => simp [Declared.readSection?, Declared.entries?, Declared.visit, pure, Except.pure]
    | some path => exact readSection?_pair "path" "struct RawStoreSettings" rfl
  simp [Declared.takeSection, read, bind, Except.bind, pure, Except.pure]

end Sections

theorem ofDocument_writtenSections {settings : Settings} {entries : List (String × Value)}
    (sorted : entries.mergeSort (fun a b => !(b.1 < a.1)) = writtenSections settings) :
    Declared.ofDocument entries = .ok (declaredAs settings) := by
  rw [Declared.ofDocument, sorted]
  simp only [writtenSections, Declared.visit, List.foldlM_cons, List.foldlM_nil, Declared.sections,
    List.mem_cons, true_or, or_true, if_true, takeSection_field, takeSection_search,
    takeSection_store, bind, Except.bind, pure, Except.pure]
  rfl

theorem read_write (settings : Settings) :
    Declared.read (write settings) = .ok (declaredAs settings) := by
  obtain ⟨entries, document, sorted⟩ := exists_readDocument?_write settings
  unfold Declared.read
  rw [document]
  simp only [ofDocument_writtenSections sorted]

/-! ### The same settings -/

theorem isDeclaredStore_declaredAs {settings : Settings}
    (placed : ∀ path, settings.store = some path → path.isAbsolute = true)
    (home source : Option Path) :
    IsDeclaredStore home source (declaredAs settings) settings.store := by
  cases store : settings.store with
  | none => exact .undeclared (by simp [declaredAs, store])
  | some path =>
    have absolute := placed path store
    have given : (declaredAs settings).storePath = some path.text := by simp [declaredAs, store]
    exact .absolute given (.plain (not_needsHome_of_isAbsolute absolute)) absolute

/--
The file written for settings whose schema can be made, and whose store is absolute or missing, is
accepted wherever it is said to be, and gives the same settings again.
-/
theorem written_settings_reload (settings : Settings) (schema : Schema)
    (described : settings.schema = .ok schema)
    (placed : ∀ path, settings.store = some path → path.isAbsolute = true)
    (home source : Option Path) :
    ∃ declared, Declared.read (write settings) = .ok declared ∧
      ofDeclared home source declared = .ok { settings with source := source } := by
  refine ⟨declaredAs settings, read_write settings, ?_⟩
  rw [ofDeclared_eq_ok_iff]
  exact ⟨⟨schema, described⟩, rfl, rfl, isDeclaredStore_declaredAs placed home source, rfl⟩

/-- No loose columns, names and a path that need escapes, and a column that is the one by default. -/
def awkward : Settings where
  looseColumns := []
  fields := [⟨"say \"it's\" \\ '''\n\x01", .string, some "l.title"⟩, ⟨"done", .boolean, some "done"⟩,
    ⟨"note", .string, none⟩]
  store := some ⟨"/home/tester/~\t\"links\""⟩
  source := none

theorem written_settings_reload_awkward :
    ∃ schema, awkward.schema = .ok schema ∧
      (∀ path, awkward.store = some path → path.isAbsolute = true) ∧
      ∃ declared, Declared.read (write awkward) = .ok declared ∧
        ofDeclared none (some ⟨"sub/h.toml"⟩) declared =
          .ok { awkward with source := some ⟨"sub/h.toml"⟩ } := by
  obtain ⟨schema, described⟩ : ∃ schema, awkward.schema = .ok schema := by
    rw [exists_schema_iff]
    refine ⟨?_, by simp [awkward], by decide⟩
    simp only [awkward, List.forall_mem_cons, FieldSpec.IsFaulty]
    decide
  have placed : ∀ path, awkward.store = some path → path.isAbsolute = true := by
    rintro path ⟨⟩
    decide
  exact ⟨schema, described, placed, written_settings_reload awkward schema described placed none _⟩

end LinkSearch.Settings
