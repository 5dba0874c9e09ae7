import LinkSearch.Proofs.Files.Paths
import LinkSearch.Proofs.Settings.Writing

/-!
# Where the link store is

A path is absolute after it is resolved if it is written so, if it begins at the home directory, or
if the settings file is given by an absolute path.  Otherwise it depends on where it is looked up, and
the file that is written for the settings leads elsewhere, unless no names were put before the path.
-/

namespace LinkSearch.Settings

open LinkSearch.Files LinkSearch.Toml

theorem isAbsolute_of_needsHome {home path : Path} {text : String} (rooted : home.isAbsolute = true)
    (needs : NeedsHome text) (expanded : expandTilde? (some home) text = some path) :
    path.isAbsolute = true := by
  rcases needs with rfl | ⟨rest, rfl⟩
  · cases expanded
    exact rooted
  · rw [expandTilde?_below] at expanded
    cases expanded
    exact Path.isAbsolute_join.mpr (.inr rooted)

/-- The directory of a file is absolute if the file is; a file without a parent has none. -/
theorem isAbsolute_directoryOf {source : Option Path} :
    (directoryOf source).isAbsolute = true ↔
      ∃ file, source = some file ∧ file.isAbsolute = true ∧ file.parent? ≠ none := by
  unfold directoryOf
  cases source with
  | none => simp [Path.isAbsolute]
  | some file =>
    cases found : file.parent? with
    | none => simp [found, Path.isAbsolute]
    | some parent => simp [found, Path.isAbsolute_of_parent? found]

theorem isAbsolute_resolveStorePath?_iff {home directory path : Path} {text : String}
    (rooted : home.isAbsolute = true)
    (resolved : resolveStorePath? (some home) text directory = some path) :
    path.isAbsolute = true ↔
      NeedsHome text ∨ (Files.Path.mk text).isAbsolute = true ∨ directory.isAbsolute = true := by
  obtain ⟨expanded, found, rfl⟩ := Option.map_eq_some_iff.mp resolved
  rw [Path.isAbsolute_join]
  by_cases needs : NeedsHome text
  · simp [needs, isAbsolute_of_needsHome rooted needs found]
  · cases (expandTilde?_of_not_needsHome _ needs).symm.trans found
    simp [needs]

/-- A relative directory without names does not make a path one of the home directory. -/
theorem not_needsHome_join {directory path : Path} (plain : ¬ NeedsHome path.text)
    (relative : (directory.join path).isAbsolute = false) (nameless : directory.steps = []) :
    ¬ NeedsHome (directory.join path).text := by
  have both := Path.isAbsolute_join_eq_false.mp relative
  by_cases given : directory.text = ""
  · simpa [Path.join, both.1, given] using plain
  · have dot := (Path.head?_of_steps_eq_nil both.2 nameless).resolve_left given
    rw [← Path.head?_join both.1 given] at dot
    intro needs
    simp [head?_of_needsHome needs] at dot

/--
A resolved path can be resolved again.  The path stays the same only if it is absolute, or if no names
stand before it.
-/
theorem resolveStorePath?_again {home directory path : Path} {text : String}
    (rooted : home.isAbsolute = true)
    (resolved : resolveStorePath? (some home) text directory = some path) :
    ∃ again, resolveStorePath? (some home) path.text directory = some again ∧
      (path.isAbsolute = true → again = path) ∧
      (again.same path = true ↔ path.isAbsolute = true ∨ directory.steps = []) := by
  by_cases absolute : path.isAbsolute = true
  · have expanded := expandTilde?_of_not_needsHome (some home)
      (not_needsHome_of_isAbsolute absolute)
    refine ⟨path, resolveStorePath?_of_isAbsolute expanded absolute directory, fun _ => rfl, ?_⟩
    simp [absolute, Path.same]
  · have relative : path.isAbsolute = false := Bool.not_eq_true _ ▸ absolute
    have plain : ¬ NeedsHome text := fun needs =>
      absolute ((isAbsolute_resolveStorePath?_iff rooted resolved).mpr (.inl needs))
    obtain ⟨expanded, found, rfl⟩ := Option.map_eq_some_iff.mp resolved
    cases (expandTilde?_of_not_needsHome _ plain).symm.trans found
    rw [or_iff_right absolute]
    by_cases needs : NeedsHome (directory.join ⟨text⟩).text
    · -- Only a directory that is itself written with a tilde leads here.
      obtain ⟨expanded, again, _⟩ := expandTilde?_of_needsHome home needs
      have moved : resolveStorePath? (some home) (directory.join ⟨text⟩).text directory =
          some (directory.join expanded) := by
        rw [resolveStorePath?, again]
        rfl
      have elsewhere := (isAbsolute_resolveStorePath?_iff rooted moved).mpr (.inl needs)
      refine ⟨_, moved, fun here => absurd here absolute, ?_⟩
      have named : directory.steps ≠ [] := fun nameless =>
        not_needsHome_join plain relative nameless needs
      simp [Path.same, elsewhere, relative, named]
    · have moved : resolveStorePath? (some home) (directory.join ⟨text⟩).text directory =
          some (directory.join (directory.join ⟨text⟩)) := by
        rw [resolveStorePath?, expandTilde?_of_not_needsHome _ needs]
        rfl
      exact ⟨_, moved, fun here => absurd here absolute, Path.same_join_join_iff relative⟩

/-- The file that is written for accepted settings is accepted, with the store that is found then. -/
theorem reloads_with {settings : Settings} {home : Option Path} {path again : Path}
    {schema : Query.Schema} (described : settings.schema = .ok schema)
    (stored : settings.store = some path)
    (moved : resolveStorePath? home path.text (directoryOf settings.source) = some again) :
    ofDeclared home settings.source (declaredAs settings) =
      .ok { settings with store := some again } := by
  have given : (declaredAs settings).storePath = some path.text := by simp [declaredAs, stored]
  have found : IsDeclaredStore home settings.source (declaredAs settings) (some again) :=
    (isDeclaredStore_of_given given).mpr ⟨again, moved, rfl⟩
  exact ofDeclared_eq_ok_iff.mpr ⟨⟨schema, described⟩, rfl, rfl, found, rfl⟩

theorem same_with_store_iff {settings : Settings} {path again : Path}
    (stored : settings.store = some path) :
    Settings.same { settings with store := some again } settings = true ↔
      again.same path = true := by
  have source : samePath settings.source settings.source = true := by
    cases settings.source <;> simp [samePath, Path.same]
  have store : samePath (some again) (some path) = again.same path := rfl
  simp [Settings.same, source, stored, store]

/--
With an absolute home directory, the store of accepted settings is absolute just if its path was
declared so, if it begins at the home directory, or if the settings file is given by an absolute path
other than the root.  What is written for the settings is accepted again.  It gives the same settings
if the store is absolute, and otherwise only if the directory of the settings file has no names.
-/
theorem store_isAbsolute_and_reloads_iff {home : Path} (rooted : home.isAbsolute = true)
    {source : Option Path} {declared : Declared} {text : String}
    (given : declared.storePath = some text) {settings : Settings}
    (made : ofDeclared (some home) source declared = .ok settings) :
    ∃ path, settings.store = some path ∧
      (path.isAbsolute = true ↔ NeedsHome text ∨ (Files.Path.mk text).isAbsolute = true ∨
        ∃ file, source = some file ∧ file.isAbsolute = true ∧ file.parent? ≠ none) ∧
      ∃ again moved, Declared.read (write settings) = .ok again ∧
        ofDeclared (some home) source again = .ok moved ∧
        (path.isAbsolute = true → moved = settings) ∧
        (moved.same settings = true ↔
          path.isAbsolute = true ∨ (directoryOf source).steps = []) := by
  obtain ⟨⟨schema, described⟩, _, _, store, rfl⟩ := ofDeclared_eq_ok_iff.mp made
  obtain ⟨path, resolved, stored⟩ := (isDeclaredStore_of_given given).mp store
  obtain ⟨again, moved, stays, same_iff⟩ := resolveStorePath?_again rooted resolved
  refine ⟨path, stored, ?_, _, _, read_write settings, reloads_with described stored moved, ?_, ?_⟩
  · rw [isAbsolute_resolveStorePath?_iff rooted resolved, isAbsolute_directoryOf]
  · intro absolute
    rw [stays absolute, ← stored]
  · rw [same_with_store_iff stored]
    exact same_iff

/-- The section of the store is a file by itself. -/
theorem read_writeStore (settings : Settings) :
    Declared.read (writeStore settings) = .ok ⟨none, none, settings.store.map Path.text⟩ := by
  have absent : "store" ∉ ([] : Entries).map Prod.fst := List.not_mem_nil
  have filled := fills_table absent [] (nodup_storePairs settings)
  have document := readDocument?_of_spells (spells_writeStore settings) filled
  have values : entriesToValues [("store", .table .defined (valueEntries (storePairs settings)))] =
      [("store", .table (storePairs settings))] := by
    rw [entriesToValues, Node.toValue, entriesToValues_valueEntries]
    rfl
  unfold Declared.read
  rw [document, List.nil_append, values]
  simp [Declared.ofDocument, Declared.visit, Declared.sections, takeSection_store]

/-- A file that declares the path of the store, and nothing else. -/
def storeOnly : String := "[store]\npath = \"links.db\"\n"

theorem read_storeOnly : Declared.read storeOnly = .ok ⟨none, none, some "links.db"⟩ := by
  have written : storeOnly = writeStore (storedAt "links.db" "h.toml") := by decide
  rw [written]
  exact read_writeStore _

theorem ofDeclared_storedAt {home : Option Path} {declared : Declared} {text store source : String}
    (columns : declared.looseColumns.getD default.looseColumns = default.looseColumns)
    (fields : declared.fields.getD defaultFields = defaultFields)
    (given : declared.storePath = some text)
    (resolved : resolveStorePath? home text (directoryOf (some ⟨source⟩)) = some ⟨store⟩) :
    ofDeclared home (some ⟨source⟩) declared = .ok (storedAt store source) := by
  have found : IsDeclaredStore home (some ⟨source⟩) declared (some ⟨store⟩) :=
    (isDeclaredStore_of_given given).mpr ⟨⟨store⟩, resolved, rfl⟩
  exact ofDeclared_eq_ok_iff.mpr
    ⟨exists_schema_of_default rfl rfl, fields.symm, columns.symm, found, rfl⟩

/-- From a file that is given by an absolute path, a relative path of the store is settled. -/
theorem store_isAbsolute_and_reloads_iff_srv :
    ∃ declared, Declared.read storeOnly = .ok declared ∧ declared.storePath = some "links.db" ∧
      (Files.Path.mk "/home/tester").isAbsolute = true ∧
      ofDeclared (some ⟨"/home/tester"⟩) (some ⟨"/srv/h.toml"⟩) declared =
        .ok (storedAt "/srv/links.db" "/srv/h.toml") ∧
      ∃ path, (storedAt "/srv/links.db" "/srv/h.toml").store = some path ∧
        path.isAbsolute = true ∧
        ∃ again, Declared.read (write (storedAt "/srv/links.db" "/srv/h.toml")) = .ok again ∧
          ofDeclared (some ⟨"/home/tester"⟩) (some ⟨"/srv/h.toml"⟩) again =
            .ok (storedAt "/srv/links.db" "/srv/h.toml") := by
  have rooted : (Files.Path.mk "/home/tester").isAbsolute = true := by decide
  have made : ofDeclared (some ⟨"/home/tester"⟩) (some ⟨"/srv/h.toml"⟩)
      ⟨none, none, some "links.db"⟩ = .ok (storedAt "/srv/links.db" "/srv/h.toml") :=
    ofDeclared_storedAt rfl rfl rfl (by decide)
  obtain ⟨path, stored, absolute, again, moved, read, reloaded, stays, _⟩ :=
    store_isAbsolute_and_reloads_iff rooted rfl made
  have settled : path.isAbsolute = true :=
    absolute.mpr (.inr (.inr ⟨⟨"/srv/h.toml"⟩, rfl, by decide, by decide⟩))
  rw [stays settled] at reloaded
  exact ⟨_, read_storeOnly, rfl, rooted, made, path, stored, settled, again, read, reloaded⟩

/-- From a file that is given by a relative path, the store moves each time it is written. -/
theorem relative_store_moves :
    Declared.read storeOnly = .ok ⟨none, none, some "links.db"⟩ ∧
      (Files.Path.mk "/home/tester").isAbsolute = true ∧
      ofDeclared (some ⟨"/home/tester"⟩) (some ⟨"sub/h.toml"⟩) ⟨none, none, some "links.db"⟩ =
        .ok (storedAt "sub/links.db" "sub/h.toml") ∧
      (Files.Path.mk "sub/links.db").isAbsolute = false ∧
      ∃ again, Declared.read (write (storedAt "sub/links.db" "sub/h.toml")) = .ok again ∧
        ofDeclared (some ⟨"/home/tester"⟩) (some ⟨"sub/h.toml"⟩) again =
          .ok (storedAt "sub/sub/links.db" "sub/h.toml") ∧
        (Files.Path.mk "sub/links.db").same ⟨"sub/sub/links.db"⟩ = false := by
  refine ⟨read_storeOnly, by decide, ?_, by decide, _, read_write _, ?_, by decide⟩
  · exact ofDeclared_storedAt rfl rfl rfl (by decide)
  · exact ofDeclared_storedAt rfl rfl rfl (by decide)

end LinkSearch.Settings
