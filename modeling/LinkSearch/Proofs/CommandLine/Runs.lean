import LinkSearch.CommandLine.Command
import LinkSearch.Proofs.Settings.Discovery

/-!
# Runs of the program

A command either leaves the tree as it is or is an `init` that succeeds, and then it has written
one file.  So after any number of runs the tree has changed at the places of new settings files
only, and each of these holds the text to start from.  Looking into a store, which is opened for
reading, changes nothing.
-/

namespace LinkSearch.CommandLine

open LinkSearch.Files LinkSearch.Links

namespace Surroundings

variable {here : Surroundings} {invocation : Invocation} {global force : Bool}

/-! ### One run -/

/-- The path of the file that an `init` makes, in the working or in the home directory. -/
inductive IsNewFile (home : Option Path) (cwd : Address) : Bool → Path → Prop where
  | here : IsNewFile home cwd false (cwd.path.join ⟨".haudoi.toml"⟩)
  | atHome {house : Path} (known : home = some house) :
      IsNewFile home cwd true (house.join ⟨".haudoi.toml"⟩)

theorem newFile_eq_some_iff {path : Path} :
    here.newFile global = some path ↔ IsNewFile here.home here.cwd global path := by
  constructor
  · intro named
    cases global with
    | false =>
      cases named
      exact .here
    | true =>
      obtain ⟨house, known, rfl⟩ := Option.map_eq_some_iff.mp named
      exact .atHome known
  · intro file
    cases file with
    | here => rfl
    | atHome known => exact Option.map_eq_some_iff.mpr ⟨_, known, rfl⟩

/-- A settings file is made: there is a path for it, it may be written, and it is. -/
structure Makes (here : Surroundings) (global force : Bool) (path : Path)
    (next : FileTree Database) : Prop where
  path_eq : here.newFile global = some path
  allowed : force = true ∨ here.tree.doesExist here.cwd path = false
  written : here.tree.write here.cwd path (.text Settings.template) = .ok next

/-- Either a settings file is made, or nothing is done. -/
theorem init_cases (here : Surroundings) (global force : Bool) :
    ((here.init global force).1.succeeded = true ∧
      ∃ path, here.Makes global force path (here.init global force).2) ∨
    ((here.init global force).1.succeeded = false ∧ (here.init global force).2 = here.tree) := by
  generalize result : here.init global force = outcome
  unfold init at result
  split at result
  · subst result
    exact .inr ⟨rfl, rfl⟩
  · next path named =>
    split at result
    · subst result
      exact .inr ⟨rfl, rfl⟩
    · next free =>
      split at result
      · subst result
        exact .inr ⟨rfl, rfl⟩
      · next written =>
        subst result
        have allowed : force = true ∨ here.tree.doesExist here.cwd path = false := by
          rwa [Bool.and_eq_true, Bool.not_eq_true', Classical.not_and_iff_not_or_not,
            Bool.not_eq_true, Bool.not_eq_false, or_comm] at free
        exact .inl ⟨rfl, path, named, allowed, written⟩

theorem run_init (command : invocation.command = .init global force) :
    here.run invocation = here.init global force := by
  rw [run, command]

/-- A settings file is made if nothing is lost by it and there is a place to put it. -/
theorem init_succeeded_iff :
    (here.init global force).1.succeeded = true ↔
      ∃ path place, here.newFile global = some path ∧
        (force = true ∨ here.tree.doesExist here.cwd path = false) ∧
        here.tree.target here.cwd path = .ok place := by
  constructor
  · intro done
    rcases init_cases here global force with ⟨_, path, made⟩ | ⟨failed, _⟩
    · obtain ⟨place, found, _⟩ := Tree.exists_target_of_write made.written
      exact ⟨path, place, made.path_eq, made.allowed, found⟩
    · rw [done] at failed
      cases failed
  · rintro ⟨path, place, named, allowed, found⟩
    have free : (here.tree.doesExist here.cwd path && !force) = false := by
      rcases allowed with rfl | missing
      · exact Bool.and_false _
      · rw [missing, Bool.false_and]
    simp [init, named, free, Tree.write, found, bind, Except.bind, pure, Except.pure, Report.shown]

/-- The place of the file that a run makes; there is none unless it is an `init` that succeeds. -/
def newPlace? (here : Surroundings) (invocation : Invocation) : Option Address :=
  match invocation.command with
  | .init global _ =>
    if (here.run invocation).1.succeeded then
      (here.newFile global).map (Tree.placeFrom here.cwd)
    else none
  | .inquire _ => none

theorem newPlace?_eq_some_iff {place : Address} :
    here.newPlace? invocation = some place ↔
      ∃ global force path, invocation.command = .init global force ∧
        (here.run invocation).1.succeeded = true ∧ IsNewFile here.home here.cwd global path ∧
        Tree.placeFrom here.cwd path = place := by
  unfold newPlace?
  cases command : invocation.command with
  | inquire inquiry => simp
  | init global force =>
    simp only [Option.ite_none_right_eq_some, Option.map_eq_some_iff, newFile_eq_some_iff]
    constructor
    · rintro ⟨succeeded, path, file, leads⟩
      exact ⟨global, force, path, rfl, succeeded, file, leads⟩
    · rintro ⟨_, _, path, same, succeeded, file, leads⟩
      cases same
      exact ⟨succeeded, path, file, leads⟩

/-- A run writes the file that it makes and nothing else. -/
theorem entryAt?_run (here : Surroundings) (invocation : Invocation) (place : Address) :
    (here.run invocation).2.entryAt? place =
      if here.newPlace? invocation = some place then some (.file (.text Settings.template))
      else here.tree.entryAt? place := by
  unfold newPlace?
  cases command : invocation.command with
  | inquire inquiry => simp [run, command]
  | init global force =>
    rw [run_init command]
    rcases init_cases here global force with ⟨done, path, made⟩ | ⟨failed, same⟩
    · simp [done, made.path_eq, Tree.entryAt?_of_write made.written, eq_comm]
    · simp [failed, same]

theorem run_eq_of_failed (failed : (here.run invocation).1.succeeded = false) :
    (here.run invocation).2 = here.tree := by
  cases command : invocation.command with
  | inquire inquiry => simp [run, command]
  | init global force =>
    rw [run_init command] at failed ⊢
    rcases init_cases here global force with ⟨done, _⟩ | ⟨_, same⟩
    · simp [done] at failed
    · exact same

/-- Without force nothing that is there is replaced. -/
theorem failed_of_present {path : Path} (named : here.newFile global = some path)
    (present : (here.tree.entryAt? (Tree.placeFrom here.cwd path)).isSome) :
    (here.init global false).1.succeeded = false := by
  rcases init_cases here global false with ⟨_, other, made⟩ | ⟨failed, _⟩
  · cases named.symm.trans made.path_eq
    obtain ⟨place, found, _⟩ := Tree.exists_target_of_write made.written
    rw [← (Tree.leadsTo_of_target found).1.eq_placeFrom] at present
    simpa [Tree.doesExist_of_target found present] using made.allowed
  · exact failed

/-- What `init` reports depends on whether its file exists and whether it can be written. -/
theorem init_report_eq {there : Surroundings} (home : there.home = here.home)
    (cwd : there.cwd = here.cwd)
    (agree : ∀ path, here.newFile global = some path →
      there.tree.doesExist here.cwd path = here.tree.doesExist here.cwd path ∧
        there.tree.target here.cwd path = here.tree.target here.cwd path) :
    (there.init global force).1 = (here.init global force).1 := by
  have named : there.newFile global = here.newFile global := by
    rw [newFile, newFile, home, cwd]
  unfold init
  rw [named, cwd]
  cases path_eq : here.newFile global with
  | none => rfl
  | some path =>
    obtain ⟨exist, target⟩ := agree path path_eq
    simp only [Tree.write, exist, target]
    split
    · rfl
    · cases here.tree.target here.cwd path with
      | error cause => rfl
      | ok place => rfl

end Surroundings

/-! ### Any number of runs -/

/-- One run of the program: a command line, and the directory in which it is given. -/
structure Run where
  cwd : Address
  invocation : Invocation

namespace Run

/-- Where a run takes place, in a tree. -/
def surroundings (run : Run) (home : Option Path) (tree : FileTree Database) : Surroundings :=
  ⟨tree, home, run.cwd⟩

/-- The tree after a run. -/
def treeAfter (run : Run) (home : Option Path) (tree : FileTree Database) : FileTree Database :=
  ((run.surroundings home tree).run run.invocation).2

/-- The tree after some runs, one after the other. -/
def treeAfterAll (home : Option Path) (tree : FileTree Database) (runs : List Run) :
    FileTree Database :=
  runs.foldl (fun tree run => run.treeAfter home tree) tree

/-- A place where one of some runs makes a settings file: that run is an `init` that succeeds. -/
inductive IsNewPlace (home : Option Path) : FileTree Database → List Run → Address → Prop where
  | first {tree : FileTree Database} {run : Run} {later : List Run} {global force : Bool}
      {path : Path} (command : run.invocation.command = .init global force)
      (succeeded : ((run.surroundings home tree).run run.invocation).1.succeeded = true)
      (file : Surroundings.IsNewFile home run.cwd global path) :
      IsNewPlace home tree (run :: later) (Tree.placeFrom run.cwd path)
  | later {tree : FileTree Database} {run : Run} {later : List Run} {place : Address}
      (made : IsNewPlace home (run.treeAfter home tree) later place) :
      IsNewPlace home tree (run :: later) place

/-- The places of the settings files that some runs make. -/
def newPlaces (home : Option Path) (tree : FileTree Database) : List Run → List Address
  | [] => []
  | run :: later =>
    ((run.surroundings home tree).newPlace? run.invocation).toList ++
      newPlaces home (run.treeAfter home tree) later

theorem mem_newPlaces_cons {home : Option Path} {tree : FileTree Database} {run : Run}
    {later : List Run} {place : Address} :
    place ∈ newPlaces home tree (run :: later) ↔
      (run.surroundings home tree).newPlace? run.invocation = some place ∨
        place ∈ newPlaces home (run.treeAfter home tree) later := by
  rw [newPlaces, List.mem_append, Option.mem_toList]

theorem mem_newPlaces_iff {home : Option Path} {tree : FileTree Database} {runs : List Run}
    {place : Address} : place ∈ newPlaces home tree runs ↔ IsNewPlace home tree runs place := by
  induction runs generalizing tree with
  | nil =>
    constructor
    · intro member
      cases member
    · intro made
      cases made
  | cons run later ih =>
    rw [mem_newPlaces_cons, Surroundings.newPlace?_eq_some_iff, ih]
    constructor
    · rintro (⟨global, force, path, command, succeeded, file, rfl⟩ | made)
      · exact .first command succeeded file
      · exact .later made
    · intro made
      cases made with
      | first command succeeded file => exact .inl ⟨_, _, _, command, succeeded, file, rfl⟩
      | later made => exact .inr made

/-- By induction on the runs; a file that is made stays, since only its own text replaces it. -/
theorem entryAt?_treeAfterAll (home : Option Path) (tree : FileTree Database) (runs : List Run)
    (place : Address) :
    (treeAfterAll home tree runs).entryAt? place =
      if place ∈ newPlaces home tree runs then some (.file (.text Settings.template))
      else tree.entryAt? place := by
  induction runs generalizing tree with
  | nil => rfl
  | cons run later ih =>
    have first := Surroundings.entryAt?_run (run.surroundings home tree) run.invocation place
    change (treeAfterAll home (run.treeAfter home tree) later).entryAt? place = _
    rw [ih]
    by_cases again : place ∈ newPlaces home (run.treeAfter home tree) later
    · rw [if_pos again, if_pos (mem_newPlaces_cons.mpr (.inr again))]
    · rw [if_neg again, treeAfter, first]
      exact ite_congr (by rw [mem_newPlaces_cons, or_iff_left again]) (fun _ => rfl) fun _ => rfl

/--
Runs change a tree at the places of the settings files that they make and nowhere else, and these
then hold the text to start from.  A run that fails changes nothing.  Without force an `init` fails
where something is; it succeeds wherever nothing is lost and its file can be written.  What it
reports depends on this alone, not on what any file holds or on its other options.  The place of the
file is in the working or in the home directory.
-/
theorem only_init_writes :
    (∀ home tree runs place,
      (¬ IsNewPlace home tree runs place →
        (treeAfterAll home tree runs).entryAt? place = tree.entryAt? place) ∧
      (IsNewPlace home tree runs place →
        (treeAfterAll home tree runs).entryAt? place =
          some (.file (.text Settings.template)))) ∧
    (∀ (here : Surroundings) invocation, (here.run invocation).1.succeeded = false →
      (here.run invocation).2 = here.tree) ∧
    (∀ (here : Surroundings) invocation global path, invocation.command = .init global false →
      Surroundings.IsNewFile here.home here.cwd global path →
      (here.tree.entryAt? (Tree.placeFrom here.cwd path)).isSome →
      (here.run invocation).1.succeeded = false) ∧
    (∀ (here : Surroundings) invocation global force, invocation.command = .init global force →
      ((here.run invocation).1.succeeded = true ↔
        ∃ path place, Surroundings.IsNewFile here.home here.cwd global path ∧
          (force = true ∨ here.tree.doesExist here.cwd path = false) ∧
          here.tree.target here.cwd path = .ok place)) ∧
    (∀ (here there : Surroundings) first second global force,
      first.command = .init global force → second.command = .init global force →
      there.home = here.home → there.cwd = here.cwd →
      ((∀ path, Surroundings.IsNewFile here.home here.cwd global path →
          there.tree.doesExist here.cwd path = here.tree.doesExist here.cwd path ∧
            there.tree.target here.cwd path = here.tree.target here.cwd path) ∨
        there.tree.SameShape here.tree) →
      (there.run second).1 = (here.run first).1) ∧
    (∀ cwd directory, Tree.placeFrom cwd (directory.join ⟨".haudoi.toml"⟩) =
      Tree.placeFrom cwd directory ++ [".haudoi.toml"]) ∧
    ∀ cwd : Address, (∀ name ∈ cwd, Tree.IsName name.toList ∧ '/' ∉ name.toList) →
      Tree.placeFrom cwd cwd.path = cwd := by
  simp only [← Surroundings.newFile_eq_some_iff, ← mem_newPlaces_iff]
  refine ⟨fun home tree runs place => ⟨fun other => ?_, fun made => ?_⟩,
    fun here invocation => Surroundings.run_eq_of_failed,
    fun here invocation global path command named present => ?_,
    fun here invocation global force command => ?_,
    fun here there first second global force one other home cwd agree => ?_,
    Settings.placeFrom_join_fileName, fun cwd named => Tree.placeFrom_path named cwd⟩
  · rw [entryAt?_treeAfterAll, if_neg other]
  · rw [entryAt?_treeAfterAll, if_pos made]
  · rw [Surroundings.run_init command]
    exact Surroundings.failed_of_present named present
  · rw [Surroundings.run_init command]
    exact Surroundings.init_succeeded_iff
  · rw [Surroundings.run_init one, Surroundings.run_init other]
    refine Surroundings.init_report_eq home cwd fun path named => ?_
    rcases agree with agree | same
    · exact agree path named
    · exact ⟨same.doesExist_eq here.cwd path, same.target_eq here.cwd path⟩

/-- A home directory, and a directory to work in. -/
def plainTree : FileTree Database :=
  .directory [("home", .directory []), ("work", .directory [])]

/-- The same with a settings file to work with. -/
def workTree (text : String) : FileTree Database :=
  Tree.set (.file (.text text)) ["work", ".haudoi.toml"] plainTree

theorem hasRoom_plainTree : plainTree.HasRoom ["work", ".haudoi.toml"] :=
  ⟨List.cons_ne_nil _ _, rfl, nofun⟩

/-- A settings file is not replaced without force; then it is, and one is made at home. -/
def fourRuns : List Run := [
  ⟨["work"], .init false false, none, 0⟩,
  ⟨["work"], .inquire .check, none, 0⟩,
  ⟨["work"], .init false true, some ⟨"/nowhere"⟩, 0⟩,
  ⟨["work"], .init true false, none, 0⟩]

/-- The settings file of the example does not parse, which is nothing to `init`. -/
theorem only_init_writes_unparsed :
    let here : Surroundings := ⟨workTree "[search", some ⟨"/home"⟩, ["work"]⟩
    let there : Surroundings := { here with tree := workTree "" }
    let after := treeAfterAll here.home here.tree fourRuns
    (∀ place, IsNewPlace here.home here.tree fourRuns place ↔
        place = ["work", ".haudoi.toml"] ∨ place = ["home", ".haudoi.toml"]) ∧
      after.entryAt? ["work"] = here.tree.entryAt? ["work"] ∧
      after.entryAt? ["work", ".haudoi.toml"] = some (.file (.text Settings.template)) ∧
      after.entryAt? ["home", ".haudoi.toml"] = some (.file (.text Settings.template)) ∧
      (here.run ⟨.init false false, none, 0⟩).1.succeeded = false ∧
      (here.run ⟨.init false false, none, 0⟩).2 = here.tree ∧
      (here.run ⟨.init false true, none, 0⟩).1.succeeded = true ∧
      (∃ place, here.tree.target here.cwd ⟨"/work/.haudoi.toml"⟩ = .ok place) ∧
      (there.run ⟨.init false true, some ⟨"/nowhere"⟩, 0⟩).1 =
        (here.run ⟨.init false true, none, 0⟩).1 ∧
      Tree.placeFrom here.cwd here.cwd.path = ["work"] := by
  intro here there after
  obtain ⟨changes, fails, keeps, makes, reports, _, leads⟩ := only_init_writes
  have places (place : Address) : IsNewPlace here.home here.tree fourRuns place ↔
      place = ["work", ".haudoi.toml"] ∨ place = ["home", ".haudoi.toml"] := by
    have computed : newPlaces here.home here.tree fourRuns =
        [["work", ".haudoi.toml"], ["home", ".haudoi.toml"]] := by decide
    rw [← mem_newPlaces_iff, computed, List.mem_cons, List.mem_singleton]
  have named : here.cwd.path.join ⟨".haudoi.toml"⟩ = ⟨"/work/.haudoi.toml"⟩ := by decide
  have file : Surroundings.IsNewFile here.home here.cwd false ⟨"/work/.haudoi.toml"⟩ :=
    named ▸ .here
  have failed : (here.run ⟨.init false false, none, 0⟩).1.succeeded = false :=
    keeps here ⟨.init false false, none, 0⟩ false ⟨"/work/.haudoi.toml"⟩ rfl file (by decide)
  have forced : (here.run ⟨.init false true, none, 0⟩).1.succeeded = true := by decide
  obtain ⟨_, place, same, _, found⟩ := (makes here _ false true rfl).mp forced
  cases same
  rw [named] at found
  refine ⟨places, ?_, ?_, ?_, failed, fails _ _ failed, forced, ⟨place, found⟩, ?_, ?_⟩
  · apply (changes _ _ _ _).1
    rw [places]
    decide
  · apply (changes _ _ _ _).2
    rw [places]
    exact .inl rfl
  · apply (changes _ _ _ _).2
    rw [places]
    exact .inr rfl
  · apply reports here there _ _ false true rfl rfl rfl rfl
    exact .inr (hasRoom_plainTree.sameShape_set _ _)
  · exact leads ["work"] (by decide)

end Run

end LinkSearch.CommandLine
