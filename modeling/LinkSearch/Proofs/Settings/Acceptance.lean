import LinkSearch.Proofs.Lists
import LinkSearch.Settings.Basic

/-!
# Which settings are accepted

Settings are refused for the first thing that is wrong with them: a home directory that is needed and
not known, then the first field without a name or a column, then the first loose column that is
none, then the first name that another field had before.  If nothing is wrong, then each section is
as declared, or built in if it is not declared.
-/

namespace LinkSearch.Settings

open LinkSearch.Files LinkSearch.Query LinkSearch.Sql

/-! ### Fields and columns -/

theorem readColumn_eq_ok_iff {text : String} {column : ColumnName} :
    readColumn text = .ok column ↔ ColumnName.parse? text = some column := by
  unfold readColumn
  cases ColumnName.parse? text <;> simp

theorem readColumn_eq_error_iff (text : String) (error : Settings.Error) :
    readColumn text = .error error ↔
      ColumnName.parse? text = none ∧ error = .invalidColumn text := by
  unfold readColumn
  cases ColumnName.parse? text <;> simp [eq_comm]

/-- A declaration from which no field can be made. -/
def FieldSpec.IsFaulty (spec : FieldSpec) : Prop :=
  spec.name = "" ∨ ColumnName.parse? spec.effectiveColumn = none

/-- A declaration and the field that it describes. -/
def FieldSpec.Describes (spec : FieldSpec) (field : Field) : Prop :=
  spec.name ≠ "" ∧ ∃ column, ColumnName.parse? spec.effectiveColumn = some column ∧
    field = .ofColumn spec.kind spec.name column

theorem readField_eq_ok_iff {spec : FieldSpec} {field : Field} :
    readField spec = .ok field ↔ spec.Describes field := by
  unfold readField FieldSpec.Describes
  by_cases unnamed : spec.name = ""
  · simp [unnamed]
  · rw [if_neg (by simpa using unnamed), readColumn]
    cases ColumnName.parse? spec.effectiveColumn with
    | none => simp [bind, Except.bind]
    | some column =>
      simp only [bind, Except.bind, pure, Except.pure, Except.ok.injEq, ne_eq, unnamed,
        not_false_eq_true, Option.some.injEq, exists_eq_left', true_and]
      exact eq_comm

/-- The name is looked at before the column. -/
theorem readField_eq_error_iff (spec : FieldSpec) (error : Settings.Error) :
    readField spec = .error error ↔ spec.IsFaulty ∧
      error = if spec.name = "" then .emptyFieldName else .invalidColumn spec.effectiveColumn := by
  unfold readField FieldSpec.IsFaulty
  by_cases unnamed : spec.name = ""
  · simpa [unnamed] using eq_comm
  · rw [if_neg (by simpa using unnamed), readColumn]
    cases ColumnName.parse? spec.effectiveColumn with
    | none => simpa [bind, Except.bind, unnamed] using eq_comm
    | some column => simp [bind, Except.bind, pure, Except.pure, unnamed]

theorem FieldSpec.Describes.name_eq {spec : FieldSpec} {field : Field}
    (describes : spec.Describes field) : field.name = spec.name := by
  obtain ⟨_, column, _, rfl⟩ := describes
  exact Field.name_ofColumn spec.kind spec.name column

theorem names_eq {specs : List FieldSpec} {fields : List Field}
    (each : List.Forall₂ FieldSpec.Describes specs fields) :
    fields.map Field.name = specs.map FieldSpec.name := by
  induction each with
  | nil => rfl
  | cons describes _ ih => rw [List.map_cons, List.map_cons, describes.name_eq, ih]

/-! ### Schemas -/

/-- Why fields and columns make no schema. -/
inductive Refusal (specs : List FieldSpec) (columns : List String) : Settings.Error → Prop where
  /-- The first faulty field has no name. -/
  | unnamed {spec : FieldSpec} (first : IsFirst FieldSpec.IsFaulty spec specs)
      (unnamed : spec.name = "") : Refusal specs columns .emptyFieldName
  /-- The first faulty field has a name, but its column is none. -/
  | fieldColumn {spec : FieldSpec} (first : IsFirst FieldSpec.IsFaulty spec specs)
      (named : spec.name ≠ "") : Refusal specs columns (.invalidColumn spec.effectiveColumn)
  /-- The fields are sound, and this is the first loose column that is none. -/
  | looseColumn {column : String} (sound : ∀ spec ∈ specs, ¬ spec.IsFaulty)
      (first : IsFirst (ColumnName.parse? · = none) column columns) :
      Refusal specs columns (.invalidColumn column)
  /-- Fields and columns are sound, and this is the first name that stood before. -/
  | repeatedName {name : String} {before after : List String}
      (sound : ∀ spec ∈ specs, ¬ spec.IsFaulty)
      (known : ∀ column ∈ columns, ColumnName.parse? column ≠ none)
      (names : specs.map FieldSpec.name = before ++ name :: after) (distinct : before.Nodup)
      (repeated : name ∈ before) : Refusal specs columns (.invalidSchema (.duplicateField name))

theorem make_eq_error_iff {fields : List Field} {columns : List ColumnName} {error : Query.Error} :
    Schema.make fields columns = .error error ↔
      ∃ name, error = .duplicateField name ∧ ∃ before after,
        fields.map Field.name = before ++ name :: after ∧ before.Nodup ∧ name ∈ before := by
  have found (name : String) := @firstRepeated?_eq_some_iff [] (fields.map Field.name) name
  simp only [List.not_mem_nil, not_false_eq_true, implies_true, true_and, or_false] at found
  unfold Schema.make
  split
  · next name present =>
    simp only [← found, Except.error.injEq]
    constructor
    · rintro rfl
      exact ⟨name, rfl, present⟩
    · rintro ⟨other, rfl, same⟩
      rw [Option.some.inj (present.symm.trans same)]
  · next absent =>
    constructor
    · rintro ⟨⟩
    · rintro ⟨name, rfl, parts⟩
      simp [(found name).mpr parts] at absent

/-- Making a schema changes neither fields nor columns. -/
theorem make_eq_ok {fields : List Field} {columns : List ColumnName} {schema : Schema}
    (made : Schema.make fields columns = .ok schema) :
    schema.fields = fields ∧ schema.looseColumns = columns := by
  unfold Schema.make at made
  split at made
  · cases made
  · cases made
    exact ⟨rfl, rfl⟩

/-- The fields of the schema are those that the settings declare, in the same order. -/
theorem schema_eq_ok {settings : Settings} {schema : Schema}
    (described : settings.schema = .ok schema) :
    List.Forall₂ FieldSpec.Describes settings.fields schema.fields ∧
      List.Forall₂ (fun text column => ColumnName.parse? text = some column)
        settings.looseColumns schema.looseColumns := by
  unfold Settings.schema at described
  cases fields_read : settings.fields.mapM readField with
  | error error => simp [fields_read, bind, Except.bind] at described
  | ok fields =>
    cases columns_read : settings.looseColumns.mapM readColumn with
    | error error => simp [fields_read, columns_read, bind, Except.bind] at described
    | ok columns =>
      cases made : Schema.make fields columns with
      | error error => simp [fields_read, columns_read, made, bind, Except.bind] at described
      | ok other =>
        have same : other = schema := by
          simpa [fields_read, columns_read, made, bind, Except.bind, pure, Except.pure]
            using described
        obtain ⟨rfl, rfl⟩ := make_eq_ok (same ▸ made)
        simp only [mapM_eq_ok_iff, readField_eq_ok_iff, readColumn_eq_ok_iff] at *
        exact ⟨fields_read, columns_read⟩

/-- A refusal comes from the fields, from the columns, or from the names of both. -/
theorem refusal_iff {specs : List FieldSpec} {columns : List String} {error : Settings.Error} :
    Refusal specs columns error ↔
      (∃ spec, IsFirst FieldSpec.IsFaulty spec specs ∧
        error = if spec.name = "" then .emptyFieldName else .invalidColumn spec.effectiveColumn) ∨
      ((∀ spec ∈ specs, ¬ spec.IsFaulty) ∧
        ∃ column, IsFirst (ColumnName.parse? · = none) column columns ∧
          error = .invalidColumn column) ∨
      ((∀ spec ∈ specs, ¬ spec.IsFaulty) ∧ (∀ column ∈ columns, ColumnName.parse? column ≠ none) ∧
        ∃ name, error = .invalidSchema (.duplicateField name) ∧ ∃ before after,
          specs.map FieldSpec.name = before ++ name :: after ∧ before.Nodup ∧ name ∈ before) := by
  constructor
  · intro refusal
    cases refusal with
    | @unnamed spec first unnamed => exact .inl ⟨spec, first, by rw [if_pos unnamed]⟩
    | @fieldColumn spec first named => exact .inl ⟨spec, first, by rw [if_neg named]⟩
    | looseColumn sound first => exact .inr (.inl ⟨sound, _, first, rfl⟩)
    | repeatedName sound known names distinct repeated =>
      exact .inr (.inr ⟨sound, known, _, rfl, _, _, names, distinct, repeated⟩)
  · rintro (⟨spec, first, rfl⟩ | ⟨sound, column, first, rfl⟩ |
      ⟨sound, known, name, rfl, before, after, names, distinct, repeated⟩)
    · by_cases unnamed : spec.name = ""
      · rw [if_pos unnamed]
        exact .unnamed first unnamed
      · rw [if_neg unnamed]
        exact .fieldColumn first unnamed
    · exact .looseColumn sound first
    · exact .repeatedName sound known names distinct repeated

/-- The fields are read first, then the columns, and then the names are compared. -/
theorem schema_eq_error_iff {settings : Settings} {error : Settings.Error} :
    settings.schema = .error error ↔ Refusal settings.fields settings.looseColumns error := by
  rw [refusal_iff, ← mapM_eq_error_iff readField_eq_error_iff,
    ← mapM_eq_error_iff readColumn_eq_error_iff]
  unfold Settings.schema
  cases fields_read : settings.fields.mapM readField with
  | error fault =>
    obtain ⟨spec, first, _⟩ := (mapM_eq_error_iff readField_eq_error_iff).mp fields_read
    have faulty : ¬ ∀ spec ∈ settings.fields, ¬ spec.IsFaulty :=
      fun sound => sound spec first.mem.1 first.mem.2
    simp [bind, Except.bind, faulty]
  | ok fields =>
    have sound := forall_not_of_mapM_eq_ok readField_eq_error_iff fields_read
    cases columns_read : settings.looseColumns.mapM readColumn with
    | error fault =>
      obtain ⟨column, first, _⟩ := (mapM_eq_error_iff readColumn_eq_error_iff).mp columns_read
      have faulty : ¬ ∀ column ∈ settings.looseColumns, ColumnName.parse? column ≠ none :=
        fun known => known column first.mem.1 first.mem.2
      simp [bind, Except.bind, faulty]
      exact fun _ => sound
    | ok columns =>
      have known := forall_not_of_mapM_eq_ok readColumn_eq_error_iff columns_read
      simp only [mapM_eq_ok_iff, readField_eq_ok_iff] at fields_read
      have repeated : (∃ name, error = .invalidSchema (.duplicateField name) ∧ ∃ before after,
          settings.fields.map FieldSpec.name = before ++ name :: after ∧ before.Nodup ∧
            name ∈ before) ↔
          ∃ fault, Schema.make fields columns = .error fault ∧ error = .invalidSchema fault := by
        rw [← names_eq fields_read]
        simp only [make_eq_error_iff]
        constructor
        · rintro ⟨name, rfl, parts⟩
          exact ⟨_, ⟨name, rfl, parts⟩, rfl⟩
        · rintro ⟨_, ⟨name, rfl, parts⟩, rfl⟩
          exact ⟨name, rfl, parts⟩
      rw [repeated]
      cases made : Schema.make fields columns with
      | error fault =>
        simp only [bind, Except.bind, made, Except.error.injEq, reduceCtorEq, exists_eq_left',
          false_or, and_false]
        exact ⟨fun same => ⟨sound, known, same.symm⟩, fun ⟨_, _, same⟩ => same.symm⟩
      | ok schema => simp [bind, Except.bind, pure, Except.pure, made]

/-- Settings without a fault describe a schema. -/
theorem exists_schema_iff {settings : Settings} :
    (∃ schema, settings.schema = .ok schema) ↔
      (∀ spec ∈ settings.fields, ¬ spec.IsFaulty) ∧
      (∀ column ∈ settings.looseColumns, ColumnName.parse? column ≠ none) ∧
      (settings.fields.map FieldSpec.name).Nodup := by
  constructor
  · rintro ⟨schema, described⟩
    obtain ⟨fields, columns⟩ := schema_eq_ok described
    refine ⟨?_, ?_, names_eq fields ▸ schema.names_nodup⟩
    · have read := mapM_eq_ok_iff.mpr (fields.imp fun _ _ => readField_eq_ok_iff.mpr)
      exact forall_not_of_mapM_eq_ok readField_eq_error_iff read
    · have read := mapM_eq_ok_iff.mpr (columns.imp fun _ _ => readColumn_eq_ok_iff.mpr)
      exact forall_not_of_mapM_eq_ok readColumn_eq_error_iff read
  · rintro ⟨sound, known, distinct⟩
    cases described : settings.schema with
    | ok schema => exact ⟨schema, rfl⟩
    | error error =>
      exfalso
      cases schema_eq_error_iff.mp described with
      | unnamed first | fieldColumn first => exact sound _ first.mem.1 first.mem.2
      | looseColumn _ first => exact known _ first.mem.1 first.mem.2
      | repeatedName _ _ names _ repeated =>
        rw [names] at distinct
        exact (List.nodup_append.mp distinct).2.2 _ repeated _ List.mem_cons_self rfl

/-- The built-in fields and columns are without fault. -/
theorem exists_schema_of_default {settings : Settings} (fields : settings.fields = default.fields)
    (columns : settings.looseColumns = default.looseColumns) :
    ∃ schema, settings.schema = .ok schema := by
  rw [exists_schema_iff, fields, columns]
  refine ⟨?_, ?_, show (defaultFields.map FieldSpec.name).Nodup by decide⟩
  · simp only [default, defaultFields, List.forall_mem_cons, FieldSpec.IsFaulty]
    decide
  · simp only [default, List.forall_mem_cons]
    decide

/-! ### The store -/

/-- A path for which the home directory has to be known. -/
def NeedsHome (text : String) : Prop := text = "~" ∨ ∃ rest, text = "~/" ++ rest

theorem head?_of_needsHome {text : String} (needs : NeedsHome text) :
    text.toList.head? = some '~' := by
  rcases needs with rfl | ⟨rest, rfl⟩
  · rfl
  · simp

theorem not_needsHome_of_isAbsolute {path : Path} (absolute : path.isAbsolute = true) :
    ¬ NeedsHome path.text := by
  intro needs
  simp [Path.isAbsolute, head?_of_needsHome needs] at absolute

theorem expandTilde?_of_not_needsHome (home : Option Path) {text : String}
    (plain : ¬ NeedsHome text) : expandTilde? home text = some ⟨text⟩ := by
  unfold expandTilde?
  split
  · next tilde => exact absurd (.inl (String.toList_inj.mp tilde)) plain
  · next rest tilde =>
    refine absurd (.inr ⟨String.ofList rest, ?_⟩) plain
    rw [← String.toList_inj, tilde]
    simp
  · rfl

theorem expandTilde?_below (home : Option Path) (rest : String) :
    expandTilde? home ("~/" ++ rest) = home.map (·.join ⟨rest⟩) := by
  simp [expandTilde?]

theorem expandTilde?_of_needsHome (home : Path) {text : String} (needs : NeedsHome text) :
    ∃ path, expandTilde? (some home) text = some path ∧ expandTilde? none text = none := by
  rcases needs with rfl | ⟨rest, rfl⟩
  · exact ⟨home, rfl, rfl⟩
  · exact ⟨home.join ⟨rest⟩, expandTilde?_below (some home) rest, expandTilde?_below none rest⟩

/-- What the text of a path stands for: a tilde at its beginning stands for the home directory. -/
inductive StandsFor (home : Option Path) : String → Path → Prop where
  | home {house : Path} (known : home = some house) : StandsFor home "~" house
  | belowHome {house : Path} (known : home = some house) (rest : String) :
      StandsFor home ("~/" ++ rest) (house.join ⟨rest⟩)
  | plain {text : String} (plain : ¬ NeedsHome text) : StandsFor home text ⟨text⟩

/-- The directory of a settings file as its path names it, and the empty path if it names none. -/
inductive IsDirectoryOf : Option Path → Path → Prop where
  | noFile : IsDirectoryOf none ⟨""⟩
  | noParent {file : Path} (top : file.parent? = none) : IsDirectoryOf (some file) ⟨""⟩
  | parent {file directory : Path} (found : file.parent? = some directory) :
      IsDirectoryOf (some file) directory

/-- A store and the path that was declared for it, if one was. -/
inductive IsDeclaredStore (home source : Option Path) (declared : Declared) :
    Option Path → Prop where
  | undeclared (absent : declared.storePath = none) : IsDeclaredStore home source declared none
  /-- An absolute path is the store. -/
  | absolute {text : String} {path : Path} (given : declared.storePath = some text)
      (stands : StandsFor home text path) (rooted : path.isAbsolute = true) :
      IsDeclaredStore home source declared (some path)
  /-- A relative path begins in the directory of the settings file. -/
  | relative {text : String} {path directory : Path} (given : declared.storePath = some text)
      (stands : StandsFor home text path) (relative : path.isAbsolute = false)
      (base : IsDirectoryOf source directory) :
      IsDeclaredStore home source declared (some (directory.join path))

theorem standsFor_iff {home : Option Path} {text : String} {path : Path} :
    StandsFor home text path ↔ expandTilde? home text = some path := by
  constructor
  · intro stands
    cases stands with
    | home known => exact known
    | belowHome known rest => rw [expandTilde?_below, known, Option.map_some]
    | plain plain => exact expandTilde?_of_not_needsHome home plain
  · intro expanded
    by_cases needs : NeedsHome text
    · rcases needs with rfl | ⟨rest, rfl⟩
      · exact .home expanded
      · rw [expandTilde?_below] at expanded
        obtain ⟨house, known, rfl⟩ := Option.map_eq_some_iff.mp expanded
        exact .belowHome known rest
    · rw [expandTilde?_of_not_needsHome home needs] at expanded
      cases expanded
      exact .plain needs

theorem isDirectoryOf_iff {source : Option Path} {directory : Path} :
    IsDirectoryOf source directory ↔ directory = directoryOf source := by
  constructor
  · intro base
    cases base with
    | noFile => rfl
    | noParent top => simp [directoryOf, top]
    | parent found => simp [directoryOf, found]
  · rintro rfl
    cases source with
    | none => exact .noFile
    | some file =>
      cases found : file.parent? with
      | none =>
        have unnamed : directoryOf (some file) = ⟨""⟩ := by simp [directoryOf, found]
        exact unnamed ▸ .noParent found
      | some directory =>
        have named : directoryOf (some file) = directory := by simp [directoryOf, found]
        exact named ▸ .parent found

theorem isDeclaredStore_of_absent {home source store : Option Path} {declared : Declared}
    (absent : declared.storePath = none) :
    IsDeclaredStore home source declared store ↔ store = none := by
  constructor
  · intro isStore
    cases isStore with
    | undeclared => rfl
    | absolute given | relative given => cases absent.symm.trans given
  · rintro rfl
    exact .undeclared absent

/-- A store that is declared is the path to which the text is resolved. -/
theorem isDeclaredStore_of_given {home source store : Option Path} {declared : Declared}
    {text : String} (given : declared.storePath = some text) :
    IsDeclaredStore home source declared store ↔
      ∃ path, resolveStorePath? home text (directoryOf source) = some path ∧ store = some path := by
  simp only [resolveStorePath?, Option.map_eq_some_iff, ← standsFor_iff]
  constructor
  · intro isStore
    cases isStore with
    | undeclared absent => cases given.symm.trans absent
    | @absolute _ path again stands rooted =>
      cases given.symm.trans again
      have same : (directoryOf source).join path = path := by rw [Path.join, if_pos rooted]
      exact ⟨path, ⟨path, stands, same⟩, rfl⟩
    | relative again stands _ base =>
      cases given.symm.trans again
      cases isDirectoryOf_iff.mp base
      exact ⟨_, ⟨_, stands, rfl⟩, rfl⟩
  · rintro ⟨_, ⟨path, stands, rfl⟩, rfl⟩
    by_cases rooted : path.isAbsolute = true
    · rw [Path.join, if_pos rooted]
      exact .absolute given stands rooted
    · exact .relative given stands (Bool.not_eq_true _ ▸ rooted) (isDirectoryOf_iff.mpr rfl)

theorem declaredStore_eq_ok_iff {home source : Option Path} {declared : Declared}
    {store : Option Path} :
    declaredStore home source declared = .ok store ↔
      IsDeclaredStore home source declared store := by
  unfold declaredStore
  cases given : declared.storePath with
  | none =>
    rw [isDeclaredStore_of_absent given]
    simpa using eq_comm
  | some text =>
    rw [isDeclaredStore_of_given given]
    cases found : resolveStorePath? home text (directoryOf source) with
    | none => simp [found]
    | some path => simpa [found] using eq_comm

/-- What is declared, with the built-in values for the rest. -/
def filled (declared : Declared) (store source : Option Path) : Settings where
  looseColumns := declared.looseColumns.getD ["title", "url", "note"]
  fields := declared.fields.getD defaultFields
  store := store
  source := source

theorem ofDeclared_of_error {home source : Option Path} {declared : Declared}
    {error : Settings.Error} (refused : declaredStore home source declared = .error error) :
    ofDeclared home source declared = .error error := by
  rw [ofDeclared, refused]
  rfl

theorem ofDeclared_of_ok {home source store : Option Path} {declared : Declared}
    (stored : declaredStore home source declared = .ok store) :
    ofDeclared home source declared =
      (filled declared store source).schema.map fun _ => filled declared store source := by
  rw [ofDeclared, stored]
  change (filled declared store source).schema.bind _ = _
  cases (filled declared store source).schema with
  | error error => rfl
  | ok schema => rfl

theorem ofDeclared_eq_ok_iff {home source : Option Path} {declared : Declared}
    {settings : Settings} :
    ofDeclared home source declared = .ok settings ↔
      (∃ schema, settings.schema = .ok schema) ∧
      settings.fields = declared.fields.getD defaultFields ∧
      settings.looseColumns = declared.looseColumns.getD ["title", "url", "note"] ∧
      IsDeclaredStore home source declared settings.store ∧ settings.source = source := by
  cases stored : declaredStore home source declared with
  | error fault =>
    rw [ofDeclared_of_error stored, ← declaredStore_eq_ok_iff, stored]
    simp
  | ok store =>
    rw [ofDeclared_of_ok stored, ← declaredStore_eq_ok_iff, stored, Except.ok.injEq]
    constructor
    · intro made
      cases described : (filled declared store source).schema with
      | error error => simp [described, Except.map] at made
      | ok schema =>
        rw [described] at made
        cases made
        exact ⟨⟨schema, described⟩, rfl, rfl, rfl, rfl⟩
    · rintro ⟨⟨schema, described⟩, fields, columns, rfl, rfl⟩
      have same : filled declared settings.store settings.source = settings := by
        rw [filled, ← fields, ← columns]
      rw [same, described]
      rfl

/-- The built-in settings with a store, from a file. -/
def storedAt (store source : String) : Settings :=
  { default with store := some ⟨store⟩, source := some ⟨source⟩ }

end LinkSearch.Settings
