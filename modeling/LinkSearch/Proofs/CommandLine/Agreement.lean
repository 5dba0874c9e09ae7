import LinkSearch.Proofs.CommandLine.NewSettings
import LinkSearch.Proofs.Output.Predicates
import LinkSearch.Proofs.Query.Accounting

/-!
# What `parse`, `sql` and `search` have in common

All three begin with the settings, and `sql` and `search` then need the predicate of the query.
What refuses it is the same report for both, and the store has no part in it.  Only `parse` accepts
a loose term without columns to look in.  A search that comes to its store carries out one
statement, which is the predicate that `sql` shows between two fixed texts.
-/

namespace LinkSearch.CommandLine

open LinkSearch.Files LinkSearch.Links LinkSearch.Output LinkSearch.Query LinkSearch.Sql

/-! ### Exit codes -/

theorem Report.exitCode_eq_zero_iff {report : Report} :
    report.exitCode = 0 ↔ report.succeeded = true := by
  cases succeeded : report.succeeded <;> simp [Report.exitCode, succeeded]

/-- A failure shows nothing but what went wrong. -/
structure Report.Fails (report : Report) : Prop where
  exitCode : report.exitCode ≠ 0
  output : report.output = ""

theorem Report.fails_failure (reason : String) (more : List String) :
    (Report.failure reason more).Fails :=
  ⟨by simp [Report.failure, Report.exitCode], rfl⟩

/-- Showing a predicate succeeds, and nothing but the predicate is shown. -/
theorem displays_showAs (predicate : Fragment) (json : Bool) :
    ∃ output, Displays predicate json output ∧
      showAs json (fragmentJson predicate) (fragmentLines predicate) = ⟨true, output, ""⟩ := by
  cases json with
  | false => exact ⟨_, displays_lines predicate, rfl⟩
  | true => exact ⟨_, displays_json predicate, rfl⟩

theorem exitCode_showAs (json : Bool) (document : Json) (lines : List String) :
    (showAs json document lines).exitCode = 0 := rfl

/-! ### The predicate of a query -/

/-- Some term of the query has no field. -/
def HasLoose (query : String) : Prop :=
  ∃ value, .loose value ∈ Term.readAll query.toList

/-- A query has a predicate if no term has an issue and there are columns for its loose terms. -/
theorem exists_predicate_iff {schema : Schema} {query : String} :
    (∃ predicate, schema.predicate query = .ok predicate) ↔
      (∃ reading, schema.read query = .ok reading ∧ reading.hasIssues = false) ∧
      ¬ (schema.looseColumns = [] ∧ HasLoose query) := by
  have answer := answer_predicate schema query
  constructor
  · rintro ⟨predicate, accepted⟩
    rw [accepted] at answer
    cases answer with
    | accepted fits sound columns _ =>
      refine ⟨⟨_, by rw [Schema.read, read_eq_ite, if_pos fits], ?_⟩, ?_⟩
      · simpa [Reading.hasIssues, issues_ofOutcomes] using sound
      · rintro ⟨missing, value, member⟩
        exact columns value member missing
  · rintro ⟨⟨reading, read, unquestioned⟩, columns⟩
    rw [Schema.read, read_eq_ite] at read
    cases refused : schema.predicate query with
    | ok predicate => exact ⟨predicate, rfl⟩
    | error error =>
      exfalso
      rw [refused] at answer
      cases answer with
      | tooMany more =>
        rw [if_neg (Nat.not_le_of_lt more)] at read
        cases read
      | rejected fits faulty =>
        obtain ⟨term, member, faulty⟩ := faulty
        rw [if_pos fits, Except.ok.injEq] at read
        rw [← read] at unquestioned
        have sound : ∀ term ∈ Term.readAll query.toList, issue? schema term = none := by
          simpa [Reading.hasIssues, issues_ofOutcomes] using unquestioned
        exact faulty (sound term member)
      | noColumns _ _ member missing => exact columns ⟨missing, _, member⟩

/-- The predicate of a query with given settings, or the report of its refusal. -/
def prepareWith (settings : Settings) (query : String) : Except Report Fragment :=
  match settings.schema with
  | .error error => .error (.failure ("search misconfigured: " ++ error.message) [])
  | .ok schema => (schema.predicate query).mapError .ofQueryError

/-- What `sql` and `search` begin with: the predicate of a query, or the report of its refusal. -/
def prepare (settings : Except Settings.Error Settings) (query : String) :
    Except Report Fragment :=
  match settings with
  | .error error => .error (.failure ("failed to load configuration: " ++ error.message) [])
  | .ok settings => prepareWith settings query

theorem prepare_eq_ok_iff {settings : Except Settings.Error Settings} {query : String}
    {predicate : Fragment} :
    prepare settings query = .ok predicate ↔
      ∃ loaded schema, settings = .ok loaded ∧ loaded.schema = .ok schema ∧
        schema.predicate query = .ok predicate := by
  cases settings with
  | error error => simp [prepare]
  | ok loaded =>
    simp only [prepare, prepareWith, Except.ok.injEq, exists_and_left, exists_eq_left']
    cases loaded.schema with
    | error error => simp
    | ok schema =>
      simp only [Except.ok.injEq, exists_eq_left']
      cases schema.predicate query <;> simp [Except.mapError]

theorem fails_of_prepare {settings : Except Settings.Error Settings} {query : String}
    {report : Report} (refused : prepare settings query = .error report) : report.Fails := by
  cases settings with
  | error error =>
    cases refused
    exact Report.fails_failure _ _
  | ok settings =>
    change prepareWith settings query = .error report at refused
    unfold prepareWith at refused
    split at refused
    · cases refused
      exact Report.fails_failure _ _
    · next schema _ =>
      cases compiled : schema.predicate query with
      | error error =>
        rw [compiled] at refused
        cases refused
        exact Report.fails_failure _ _
      | ok predicate =>
        rw [compiled] at refused
        cases refused

/-- The settings but for the path of the store. -/
def withoutStore (settings : Settings) : Settings :=
  { settings with store := none }

/-- The path of the store has no part in the predicate of a query, nor in its refusal. -/
theorem prepare_congr {one other : Except Settings.Error Settings}
    (same : one.map withoutStore = other.map withoutStore) (query : String) :
    prepare one query = prepare other query := by
  cases one with
  | error error =>
    cases other with
    | error fault =>
      cases same
      rfl
    | ok settings => cases same
  | ok settings =>
    cases other with
    | error fault => cases same
    | ok others =>
      have alike : withoutStore settings = withoutStore others := Except.ok.inj same
      have schema : (withoutStore settings).schema = (withoutStore others).schema := by rw [alike]
      change settings.schema = others.schema at schema
      change prepareWith settings query = prepareWith others query
      rw [prepareWith, prepareWith, schema]

theorem withPredicate_eq (settings : Settings) (query : String) (use : Fragment → Report) :
    withPredicate settings query use =
      match prepareWith settings query with
      | .error report => report
      | .ok predicate => use predicate := by
  unfold withPredicate withSchema prepareWith
  cases settings.schema with
  | error error => rfl
  | ok schema =>
    dsimp only
    cases schema.predicate query <;> rfl

/-- With any settings the inquiry is answered from the predicate of the query. -/
def AnsweredFrom (here : Surroundings) (inquiry : Inquiry) (query : String)
    (use : Settings → Fragment → Report) : Prop :=
  ∀ settings, here.answer settings inquiry = withPredicate settings query (use settings)

variable {here : Surroundings} {config : Option Path} {inquiry : Inquiry} {query : String}
  {use : Settings → Fragment → Report}

theorem inquire_eq_of_error {report : Report} (asks : AnsweredFrom here inquiry query use)
    (refused : prepare (here.settings config) query = .error report) :
    here.inquire config inquiry = report := by
  unfold Surroundings.inquire
  cases loaded : here.settings config with
  | error error =>
    rw [loaded] at refused
    exact Except.error.inj refused
  | ok settings =>
    rw [loaded] at refused
    change prepareWith settings query = .error report at refused
    change here.answer settings inquiry = report
    rw [asks settings, withPredicate_eq, refused]

theorem inquire_eq_of_ok {predicate : Fragment} (asks : AnsweredFrom here inquiry query use)
    (prepared : prepare (here.settings config) query = .ok predicate) :
    ∃ settings, here.settings config = .ok settings ∧
      here.inquire config inquiry = use settings predicate := by
  unfold Surroundings.inquire
  cases loaded : here.settings config with
  | error error =>
    rw [loaded] at prepared
    cases prepared
  | ok settings =>
    rw [loaded] at prepared
    change prepareWith settings query = .ok predicate at prepared
    refine ⟨settings, rfl, ?_⟩
    change here.answer settings inquiry = use settings predicate
    rw [asks settings, withPredicate_eq, prepared]

/-! ### The three commands -/

theorem answeredFrom_sql (here : Surroundings) (query : String) (json : Bool) :
    AnsweredFrom here (.sql query json) query fun _ predicate =>
      showAs json (fragmentJson predicate) (fragmentLines predicate) :=
  fun _ => rfl

/-- What a search does with the predicate of its query. -/
def useStore (here : Surroundings) (db : Option Path) (limit : Option Nat) (json : Bool)
    (settings : Settings) (predicate : Fragment) : Report :=
  match db.or settings.store with
  | none =>
    .failure "no link store configured" ["pass --db or set [store] path in .haudoi.toml"]
  | some path => searchStore here.tree here.cwd path predicate (limit.getD usualLimit) json

theorem answeredFrom_search (here : Surroundings) (query : String) (db : Option Path)
    (limit : Option Nat) (json : Bool) :
    AnsweredFrom here (.search query db limit json) query (useStore here db limit json) :=
  fun _ => rfl

/-- `sql` succeeds just if there is a predicate to show. -/
theorem exitCode_sql_iff {json : Bool} :
    (here.inquire config (.sql query json)).exitCode = 0 ↔
      ∃ predicate, prepare (here.settings config) query = .ok predicate := by
  have asks := answeredFrom_sql here query json
  cases prepared : prepare (here.settings config) query with
  | error report =>
    have failed := (fails_of_prepare prepared).exitCode
    simp [inquire_eq_of_error asks prepared, failed]
  | ok predicate =>
    obtain ⟨_, _, shown⟩ := inquire_eq_of_ok asks prepared
    simp [shown, exitCode_showAs]

/-- `parse` succeeds just if the query can be taken apart and no term has an issue. -/
theorem exitCode_parse_iff {json : Bool} :
    (here.inquire config (.parse query json)).exitCode = 0 ↔
      ∃ settings schema reading, here.settings config = .ok settings ∧
        settings.schema = .ok schema ∧ schema.read query = .ok reading ∧
        reading.hasIssues = false := by
  rw [Report.exitCode_eq_zero_iff, Surroundings.inquire]
  cases here.settings config with
  | error error => simp [Report.failure]
  | ok settings =>
    simp only [Surroundings.answer, parseQuery, withSchema]
    cases described : settings.schema with
    | error error => simp [described, Report.failure]
    | ok schema =>
      cases read : schema.read query with
      | error error => simp [described, read, Report.ofQueryError, Report.failure]
      | ok reading => simp [described, read]

theorem looseColumns_eq_nil_iff {settings : Settings} {schema : Schema}
    (described : settings.schema = .ok schema) :
    settings.looseColumns = [] ↔ schema.looseColumns = [] := by
  have each := (Settings.schema_eq_ok described).2
  rw [← List.length_eq_zero_iff, ← List.length_eq_zero_iff, each.length_eq]

/-- The query has a predicate if it can be taken apart and finds columns for its loose terms. -/
theorem exists_prepare_iff {settings : Except Settings.Error Settings} :
    (∃ predicate, prepare settings query = .ok predicate) ↔
      (∃ loaded schema reading, settings = .ok loaded ∧ loaded.schema = .ok schema ∧
        schema.read query = .ok reading ∧ reading.hasIssues = false) ∧
      ¬ ((∃ loaded, settings = .ok loaded ∧ loaded.looseColumns = []) ∧ HasLoose query) := by
  simp only [prepare_eq_ok_iff]
  constructor
  · rintro ⟨predicate, loaded, schema, rfl, described, accepted⟩
    obtain ⟨⟨reading, read, sound⟩, columns⟩ := exists_predicate_iff.mp ⟨predicate, accepted⟩
    refine ⟨⟨loaded, schema, reading, rfl, described, read, sound⟩, ?_⟩
    rintro ⟨⟨_, ⟨⟩, missing⟩, loose⟩
    exact columns ⟨(looseColumns_eq_nil_iff described).mp missing, loose⟩
  · rintro ⟨⟨loaded, schema, reading, rfl, described, read, sound⟩, columns⟩
    have present : ¬ (schema.looseColumns = [] ∧ HasLoose query) := by
      rintro ⟨missing, loose⟩
      exact columns ⟨⟨loaded, rfl, (looseColumns_eq_nil_iff described).mpr missing⟩, loose⟩
    obtain ⟨predicate, accepted⟩ := exists_predicate_iff.mpr ⟨⟨reading, read, sound⟩, present⟩
    exact ⟨predicate, loaded, schema, rfl, described, accepted⟩

/-- The statement that a search for a predicate carries out. -/
def statement (predicate : Fragment) (limit : Nat) : Fragment where
  sql := "SELECT id, title, url, note, archive, favorite FROM link AS l WHERE " ++ predicate.sql ++
    " ORDER BY l.id DESC LIMIT ?"
  params := predicate.params ++ [.integer (min limit 9223372036854775807)]

theorem select_eq_statement (predicate : Fragment) (limit : Nat) :
    select predicate limit = statement predicate limit := by
  have tail : selectTail ++ "?" = " ORDER BY l.id DESC LIMIT ?" := by decide
  have greatest : Table.greatestId = 9223372036854775807 := by decide
  have sql : (select predicate limit).sql =
      selectHead ++ predicate.sql ++ " ORDER BY l.id DESC LIMIT ?" := by
    simp only [select, Fragment.sql_append, Fragment.raw, Fragment.param, String.append_assoc, tail]
  have params : (select predicate limit).params =
      predicate.params ++ [.integer (min limit 9223372036854775807)] := by
    simp [select, Fragment.raw, Fragment.param, greatest]
  exact congrArg₂ Fragment.mk sql params

/-- What a search reports once its query is accepted, with a path of the store or without. -/
inductive Reports (tree : FileTree Database) (cwd : Address) (statement : Fragment) (json : Bool) :
    Option Path → Report → Prop where
  | noStore : Reports tree cwd statement json none
      (.failure "no link store configured" ["pass --db or set [store] path in .haudoi.toml"])
  | notOpened {path : Path} {error : OpenError}
      (refused : Store.open tree cwd path = .error error) :
      Reports tree cwd statement json (some path)
        (.failure ("failed to open link store " ++ path.text ++ ": " ++ error.message) [])
  /-- The store is reached, and cannot carry out the statement. -/
  | failed {path : Path} {store : Store} {error : SearchError}
      (opened : Store.open tree cwd path = .ok store) (run : store.run statement = .error error) :
      Reports tree cwd statement json (some path)
        (.failure ("search failed: " ++ error.message statement.sql) [])
  /-- The store is reached, and gives these links for the statement. -/
  | found {path : Path} {store : Store} {links : List Link}
      (opened : Store.open tree cwd path = .ok store) (run : store.run statement = .ok links) :
      Reports tree cwd statement json (some path)
        (showAs json (.list (links.map linkJson)) (linkLines links))

theorem reports_useStore (here : Surroundings) (db : Option Path) (limit : Option Nat) (json : Bool)
    (settings : Settings) (predicate : Fragment) :
    Reports here.tree here.cwd (statement predicate (limit.getD 20)) json (db.or settings.store)
      (useStore here db limit json settings predicate) := by
  unfold useStore
  rw [show (20 : Nat) = usualLimit from rfl]
  cases db.or settings.store with
  | none => exact .noStore
  | some path =>
    dsimp only
    unfold searchStore
    cases opened : Store.open here.tree here.cwd path with
    | error error => exact .notOpened opened
    | ok store =>
      dsimp only
      rw [Store.search, select_eq_statement]
      cases run : store.run (statement predicate (limit.getD usualLimit)) with
      | error error => exact .failed opened run
      | ok links => exact .found opened run

/--
`sql` succeeds just if `parse` does and not both are true: the query has a loose term, and the
settings name no columns for it.  If `sql` fails, then `search` fails with the same errors and shows
nothing, with any store and limit, and in any surroundings whose settings differ in the path of the
store only.  If `sql` succeeds, then it shows the text and the values of the predicate and nothing
else, and a search that comes to a store carries out the statement made of that text, these values
and the limit.
-/
theorem commands_agree (here there : Surroundings) (config other : Option Path)
    (words : List String) :
    (∀ json shown, (here.inquire config (.sql (joinWords words) json)).exitCode = 0 ↔
      (here.inquire config (.parse (joinWords words) shown)).exitCode = 0 ∧
        ¬ ((∃ settings, here.settings config = .ok settings ∧ settings.looseColumns = []) ∧
          HasLoose (joinWords words))) ∧
    ((there.settings other).map withoutStore = (here.settings config).map withoutStore →
      (∀ json, (here.inquire config (.sql (joinWords words) json)).exitCode ≠ 0 →
        ∀ db limit shown,
          let search := there.inquire other (.search (joinWords words) db limit shown)
          search.exitCode ≠ 0 ∧ search.output = "" ∧
            search.errors = (here.inquire config (.sql (joinWords words) json)).errors) ∧
      (∀ json, (here.inquire config (.sql (joinWords words) json)).exitCode = 0 →
        ∃ settings schema predicate, there.settings other = .ok settings ∧
          settings.schema = .ok schema ∧ schema.predicate (joinWords words) = .ok predicate ∧
          (∀ json, ∃ output, Displays predicate json output ∧
            here.inquire config (.sql (joinWords words) json) = ⟨true, output, ""⟩) ∧
          ∀ db limit shown, Reports there.tree there.cwd (statement predicate (limit.getD 20)) shown
            (db.or settings.store)
            (there.inquire other (.search (joinWords words) db limit shown)))) := by
  generalize joinWords words = query
  refine ⟨fun json shown => ?_, fun same => ⟨fun json failed db limit shown => ?_,
    fun json succeeded => ?_⟩⟩
  · rw [exitCode_sql_iff, exitCode_parse_iff]
    exact exists_prepare_iff
  · obtain ⟨report, refused⟩ : ∃ report, prepare (here.settings config) query = .error report := by
      cases prepared : prepare (here.settings config) query with
      | error report => exact ⟨report, rfl⟩
      | ok predicate => exact absurd (exitCode_sql_iff.mpr ⟨predicate, prepared⟩) failed
    have refused_there := (prepare_congr same query).trans refused
    rw [inquire_eq_of_error (answeredFrom_sql here query json) refused,
      inquire_eq_of_error (answeredFrom_search there query db limit shown) refused_there]
    have fails := fails_of_prepare refused
    exact ⟨fails.exitCode, fails.output, rfl⟩
  · obtain ⟨predicate, prepared⟩ := exitCode_sql_iff.mp succeeded
    have prepared_there := (prepare_congr same query).trans prepared
    obtain ⟨settings, schema, loaded, described, accepted⟩ := prepare_eq_ok_iff.mp prepared_there
    refine ⟨settings, schema, predicate, loaded, described, accepted, fun json => ?_,
      fun db limit shown => ?_⟩
    · obtain ⟨_, _, answer⟩ := inquire_eq_of_ok (answeredFrom_sql here query json) prepared
      rw [answer]
      exact displays_showAs predicate json
    · obtain ⟨others, again, answer⟩ :=
        inquire_eq_of_ok (answeredFrom_search there query db limit shown) prepared_there
      cases loaded.symm.trans again
      rw [answer]
      exact reports_useStore there db limit shown settings predicate

/-- The predicate of `archive:true bird` with the built-in settings. -/
def archivedBird : Fragment where
  sql := "\"archive\" = ? AND (instr(lower(\"title\"), lower(?)) != 0 OR " ++
    "instr(lower(\"url\"), lower(?)) != 0 OR instr(lower(\"note\"), lower(?)) != 0)"
  params := [.integer 1, .text "bird", .text "bird", .text "bird"]

theorem predicate_archivedBird {schema : Schema}
    (described : Settings.default.schema = .ok schema) :
    schema.predicate "archive:true bird" = .ok archivedBird := by
  have found : Term.readAll "archive:true bird".toList =
      [.field "archive" "true", .loose "bird"] :=
    Term.readAll_of_readSteps (show Term.readSteps 3 _ = _ by decide)
  cases described
  rw [Schema.predicate, Schema.read, read_eq_ite, found]
  rfl

theorem displays_archivedBird :
    Displays archivedBird false (archivedBird.sql ++ "\n\n" ++
      "   ?1 = 1\n   ?2 = 'bird'\n   ?3 = 'bird'\n   ?4 = 'bird'\n") := by
  have bird (place : Nat) {others : List Bound} {lines : String}
      (later : ValueLines (place + 1) others lines) := ValueLines.cons (.text "bird") later
  obtain ⟨lines, values, text⟩ : ∃ lines, ValueLines 1 archivedBird.params lines ∧
      lines = "   ?1 = 1\n   ?2 = 'bird'\n   ?3 = 'bird'\n   ?4 = 'bird'\n" :=
    ⟨_, .cons (.integer 1) (bird 2 (bird 3 (bird 4 (.nil 5)))), by decide⟩
  rw [← text]
  exact .lines (List.cons_ne_nil _ _) values

/--
A value that is no truth value is refused before a file that is no store is looked at.  With a value
that is one, the search fails at that file.
-/
theorem commands_agree_maybe :
    let here : Surroundings := ⟨.directory [], none, []⟩
    let there : Surroundings := ⟨.directory [("a.db", .file (.text "none"))], none, []⟩
    let search := there.inquire none (.search "archive:maybe bird" (some ⟨"a.db"⟩) none true)
    search.exitCode ≠ 0 ∧ search.output = "" ∧
      search.errors = (here.inquire none (.sql "archive:maybe bird" false)).errors ∧
    here.inquire none (.sql "archive:true bird" false) =
      ⟨true, archivedBird.sql ++ "\n\n" ++
        "   ?1 = 1\n   ?2 = 'bird'\n   ?3 = 'bird'\n   ?4 = 'bird'\n", ""⟩ ∧
    Reports there.tree there.cwd
      ⟨"SELECT id, title, url, note, archive, favorite FROM link AS l WHERE " ++ archivedBird.sql ++
        " ORDER BY l.id DESC LIMIT ?",
        [.integer 1, .text "bird", .text "bird", .text "bird", .integer 20]⟩
      true (some ⟨"a.db"⟩)
      (there.inquire none (.search "archive:true bird" (some ⟨"a.db"⟩) none true)) := by
  intro here there search
  have loaded : here.settings none = .ok Settings.default := by
    apply Settings.load_of_absent
    intro above content
    cases above <;> simp [here, Tree.entryAt?_cons, Tree.child?]
  have loaded_there : there.settings none = .ok Settings.default := by
    apply Settings.load_of_absent
    intro above content
    rcases above with _ | ⟨first, rest⟩
    · simp [there, Settings.fileName, Tree.entryAt?_cons, Tree.child?]
    · by_cases named : "a.db" = first <;> cases rest <;>
        simp [there, named, Tree.entryAt?_cons, Tree.child?]
  have same : (there.settings none).map withoutStore = (here.settings none).map withoutStore := by
    rw [loaded, loaded_there]
  have found : Term.readAll "archive:maybe bird".toList =
      [.field "archive" "maybe", .loose "bird"] :=
    Term.readAll_of_readSteps (show Term.readSteps 3 _ = _ by decide)
  have refused : (here.inquire none (.sql "archive:maybe bird" false)).exitCode ≠ 0 := by
    rw [Ne, exitCode_sql_iff, exists_prepare_iff]
    rintro ⟨⟨settings, schema, reading, same_settings, described, read, sound⟩, _⟩
    cases loaded.symm.trans same_settings
    cases described
    rw [Schema.read, read_eq_ite, found] at read
    cases read
    cases sound
  have succeeded : (here.inquire none (.sql "archive:true bird" false)).exitCode = 0 := by
    obtain ⟨schema, described⟩ := @Settings.exists_schema_of_default Settings.default rfl rfl
    rw [exitCode_sql_iff, loaded]
    exact ⟨_, prepare_eq_ok_iff.mpr ⟨_, schema, rfl, described, predicate_archivedBird described⟩⟩
  obtain ⟨_, agree⟩ := commands_agree here there none none ["archive:maybe", "bird"]
  obtain ⟨_, agree_true⟩ := commands_agree here there none none ["archive:true", "bird"]
  obtain ⟨failed, empty, errors⟩ := (agree same).1 false refused (some ⟨"a.db"⟩) none true
  obtain ⟨settings, schema, predicate, same_settings, described, accepted, shows, reports⟩ :=
    (agree_true same).2 false succeeded
  cases loaded_there.symm.trans same_settings
  cases (predicate_archivedBird described).symm.trans accepted
  obtain ⟨output, displayed, shown⟩ := shows false
  cases displayed.unique displays_archivedBird
  exact ⟨failed, empty, errors, shown, reports (some ⟨"a.db"⟩) none true⟩

end LinkSearch.CommandLine
