import LinkSearch.Proofs.CommandLine.Runs
import LinkSearch.Proofs.Settings.Template

/-!
# The settings after `init`

The file that `init` writes is the nearest one to its directory, so it is the one that applies
there.  It declares nothing: the settings are the built-in ones, and queries mean what they mean
without any file.
-/

namespace LinkSearch.Settings

open LinkSearch.Files

/-! ### Which file applies -/

variable {δ : Type} {tree : FileTree δ} {home : Option Path} {cwd : Address} {directory : Path}

/-- Where nothing has the name of a settings file, none is found. -/
theorem discover?_eq_none
    (absent : ∀ above content, tree.entryAt? (above ++ [fileName.text]) ≠ some (.file content)) :
    discover? tree home cwd directory = none := by
  have missing (base : Path) : ¬ HasSettings tree cwd base := by
    intro there
    obtain ⟨_, content, found⟩ := Tree.isFile_iff.mp there
    rw [placeFrom_join_fileName] at found
    exact absent _ content found
  exact discover?_eq_iff.mpr (.absent (fun dir _ => missing dir) fun base _ => missing base)

theorem load_of_absent
    (absent : ∀ above content, tree.entryAt? (above ++ [fileName.text]) ≠ some (.file content)) :
    load tree home cwd directory = .ok default := by
  rw [load, discover?_eq_none absent]

/-- A file that declares nothing leaves the built-in settings, but for their source. -/
theorem load_of_find {text : String}
    (found : tree.find cwd (directory.join fileName) = .ok (.file (.text text)))
    (empty : Declared.read text = .ok ⟨none, none, none⟩) :
    load tree home cwd directory =
      .ok { default with source := some (directory.join fileName) } := by
  have there : HasSettings tree cwd directory := by rw [HasSettings, Tree.isFile, found]
  have read : tree.readText cwd (directory.join fileName) = .ok text := by
    simp [Tree.readText, Tree.read, found, bind, Except.bind, pure, Except.pure]
  rw [load, discover?_of_hasSettings there]
  simp only [loadFile, read, empty]
  exact ofDeclared_eq_ok_iff.mpr ⟨exists_schema_of_default rfl rfl, rfl, rfl, .undeclared rfl, rfl⟩

end LinkSearch.Settings

namespace LinkSearch.CommandLine

open LinkSearch.Files LinkSearch.Links LinkSearch.Settings

/-! ### What depends on the schema alone -/

theorem withSchema_congr {first second : Settings} (same : first.schema = second.schema) :
    withSchema first = withSchema second := by
  funext use
  rw [withSchema, withSchema, same]

theorem parseQuery_congr {first second : Settings} (same : first.schema = second.schema)
    (query : String) (json : Bool) :
    parseQuery first query json = parseQuery second query json := by
  rw [parseQuery, parseQuery, withSchema_congr same]

theorem showPredicate_congr {first second : Settings} (same : first.schema = second.schema)
    (query : String) (json : Bool) :
    showPredicate first query json = showPredicate second query json := by
  rw [showPredicate, showPredicate, withPredicate, withPredicate, withSchema_congr same]

namespace Surroundings

theorem inquire_eq_answer {here : Surroundings} {settings : Settings}
    (loaded : load here.tree here.home here.cwd here.cwd.path = .ok settings) (inquiry : Inquiry) :
    here.inquire none inquiry = here.answer settings inquiry := by
  rw [inquire, Surroundings.settings, loaded]

/--
After an `init` that succeeds, the settings in its directory are the built-in ones, read without a
warning from the new file; and queries are taken apart and translated as where there is no
settings file at all, in runs without `-v`.
-/
theorem init_gives_default {here : Surroundings} {invocation : Invocation} {force : Bool}
    (command : invocation.command = .init false force)
    (done : (here.run invocation).1.succeeded = true) :
    let after : Surroundings := { here with tree := (here.run invocation).2 }
    let settings := { Settings.default with source := some (here.cwd.path.join fileName) }
    load after.tree after.home after.cwd after.cwd.path = .ok settings ∧ warnings settings = [] ∧
    ∀ there : Surroundings,
      (∀ above content, there.tree.entryAt? (above ++ [fileName.text]) ≠ some (.file content)) →
      ∀ query json,
        (after.run ⟨.inquire (.parse query json), none, 0⟩).1 =
          (there.run ⟨.inquire (.parse query json), none, 0⟩).1 ∧
        (after.run ⟨.inquire (.sql query json), none, 0⟩).1 =
          (there.run ⟨.inquire (.sql query json), none, 0⟩).1 := by
  intro after settings
  have loaded : load after.tree after.home after.cwd after.cwd.path = .ok settings := by
    have result := init_cases here false force
    rw [← run_init command, done] at result
    obtain ⟨_, path, made⟩ := result.resolve_right fun failed => nomatch failed.1
    cases made.path_eq
    exact load_of_find (Tree.find_of_write made.written) read_template
  have unwarned : warnings Settings.default = [] := by decide
  refine ⟨loaded, unwarned, fun there absent query json => ?_⟩
  have bare : load there.tree there.home there.cwd there.cwd.path = .ok Settings.default :=
    load_of_absent absent
  have same : settings.schema = Settings.default.schema := rfl
  constructor
  · change after.inquire none _ = there.inquire none _
    rw [inquire_eq_answer loaded, inquire_eq_answer bare]
    exact parseQuery_congr same query json
  · change after.inquire none _ = there.inquire none _
    rw [inquire_eq_answer loaded, inquire_eq_answer bare]
    exact showPredicate_congr same query json

/-- The file that does not parse is replaced; the other tree has nothing in it. -/
theorem init_gives_default_unparsed :
    let here : Surroundings := ⟨Run.workTree "[search", some ⟨"/home"⟩, ["work"]⟩
    let replaced := here.run ⟨.init false true, none, 0⟩
    let after : Surroundings := { here with tree := replaced.2 }
    let there : Surroundings := ⟨.directory [], none, []⟩
    replaced.1.succeeded = true ∧
      (∀ above content, there.tree.entryAt? (above ++ [fileName.text]) ≠ some (.file content)) ∧
      load after.tree after.home after.cwd after.cwd.path =
        .ok { Settings.default with source := some ⟨"/work/.haudoi.toml"⟩ } ∧
      (after.run ⟨.inquire (.parse "archive:true bird" true), none, 0⟩).1 =
        (there.run ⟨.inquire (.parse "archive:true bird" true), none, 0⟩).1 := by
  intro here replaced after there
  have done : replaced.1.succeeded = true := by decide
  have absent (above : Address) (content : Content Database) :
      there.tree.entryAt? (above ++ [fileName.text]) ≠ some (.file content) := by
    cases above <;> simp [there, Tree.entryAt?_cons, Tree.child?]
  have named : here.cwd.path.join fileName = ⟨"/work/.haudoi.toml"⟩ := by decide
  have command : Invocation.command ⟨.init false true, none, 0⟩ = .init false true := rfl
  obtain ⟨loaded, _, same⟩ := init_gives_default command done
  rw [named] at loaded
  exact ⟨done, absent, loaded, (same there absent "archive:true bird" true).1⟩

end Surroundings

end LinkSearch.CommandLine
