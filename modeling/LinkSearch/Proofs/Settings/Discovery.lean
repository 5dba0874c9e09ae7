import LinkSearch.Proofs.Files.Trees
import LinkSearch.Settings.Discovery

/-!
# The nearest settings

The settings file of a directory is the one of the nearest directory that has one, the directory
itself or one above it; that of the home directory applies where there is none.  Nothing else in a
tree is looked at.  A new settings file applies only to what is below it, up to the next one, or
from the home directory to all that has none above it.
-/

namespace LinkSearch.Settings

open LinkSearch.Files

variable {δ : Type} {tree next : FileTree δ} {home : Option Path} {cwd : Address}
  {directory dir base : Path} {content : Content δ}

/-- A directory has a settings file, and not a directory under that name. -/
def HasSettings (tree : FileTree δ) (cwd : Address) (dir : Path) : Prop :=
  tree.isFile cwd (dir.join fileName) = true

instance (tree : FileTree δ) (cwd : Address) (dir : Path) : Decidable (HasSettings tree cwd dir) :=
  inferInstanceAs (Decidable (_ = true))

/-- Neither the directory nor anything above it has settings. -/
def NoneAbove (tree : FileTree δ) (cwd : Address) (directory : Path) : Prop :=
  ∀ dir ∈ directory.ancestors, ¬ HasSettings tree cwd dir

/-- The deepest directory with settings on the way to a directory: all the others are above it. -/
structure IsNearest (tree : FileTree δ) (cwd : Address) (directory dir : Path) : Prop where
  above : dir ∈ directory.ancestors
  present : HasSettings tree cwd dir
  deepest (other : Path) (on_way : other ∈ directory.ancestors)
    (there : HasSettings tree cwd other) : other ∈ dir.ancestors

theorem IsNearest.unique {other : Path} (one : IsNearest tree cwd directory dir)
    (two : IsNearest tree cwd directory other) : dir = other :=
  Path.mem_ancestors_antisymm (two.deepest dir one.above one.present)
    (one.deepest other two.above two.present)

theorem IsNearest.of_hasSettings (there : HasSettings tree cwd directory) :
    IsNearest tree cwd directory directory :=
  ⟨Path.mem_ancestors_self directory, there, fun _ on_way _ => on_way⟩

theorem IsNearest.of_parent? {parent : Path} (missing : ¬ HasSettings tree cwd directory)
    (found : directory.parent? = some parent) (nearest : IsNearest tree cwd parent dir) :
    IsNearest tree cwd directory dir where
  above := Path.mem_ancestors_of_parent? found nearest.above
  present := nearest.present
  deepest other on_way there := by
    rcases Path.mem_ancestors_iff.mp on_way with rfl | ⟨above, same, on_way⟩
    · exact absurd there missing
    · cases found.symm.trans same
      exact nearest.deepest other on_way there

theorem IsNearest.not_noneAbove (nearest : IsNearest tree cwd directory dir) :
    ¬ NoneAbove tree cwd directory :=
  fun none_above => none_above dir nearest.above nearest.present

theorem NoneAbove.of_top (missing : ¬ HasSettings tree cwd directory)
    (top : directory.parent? = none) : NoneAbove tree cwd directory := by
  intro dir on_way
  rw [Path.ancestors_of_top top, List.mem_singleton] at on_way
  exact on_way ▸ missing

theorem NoneAbove.of_parent? {parent : Path} (missing : ¬ HasSettings tree cwd directory)
    (found : directory.parent? = some parent) (none_above : NoneAbove tree cwd parent) :
    NoneAbove tree cwd directory := by
  intro dir on_way
  rw [Path.ancestors_of_parent? found, List.mem_cons] at on_way
  rcases on_way with rfl | on_way
  · exact missing
  · exact none_above dir on_way

/-! ### What is found -/

/-- Which settings file applies to a directory. -/
inductive Applies (tree : FileTree δ) (home : Option Path) (cwd : Address) (directory : Path) :
    Option Path → Prop
  | nearest (dir : Path) (nearest : IsNearest tree cwd directory dir) :
      Applies tree home cwd directory (some (dir.join fileName))
  | fromHome (house : Path) (none_above : NoneAbove tree cwd directory)
      (home_eq : home = some house) (there : HasSettings tree cwd house) :
      Applies tree home cwd directory (some (house.join fileName))
  | absent (none_above : NoneAbove tree cwd directory)
      (not_home : ∀ house, home = some house → ¬ HasSettings tree cwd house) :
      Applies tree home cwd directory none

theorem Applies.unique {found other : Option Path} (one : Applies tree home cwd directory found)
    (two : Applies tree home cwd directory other) : found = other := by
  cases one with
  | nearest dir nearest =>
    cases two with
    | nearest _ again => rw [nearest.unique again]
    | fromHome _ none_above => exact absurd none_above nearest.not_noneAbove
    | absent none_above => exact absurd none_above nearest.not_noneAbove
  | fromHome house none_above home_eq there =>
    cases two with
    | nearest dir nearest => exact absurd none_above nearest.not_noneAbove
    | fromHome _ _ again =>
      cases home_eq.symm.trans again
      rfl
    | absent _ not_home => exact absurd there (not_home house home_eq)
  | absent none_above not_home =>
    cases two with
    | nearest dir nearest => exact absurd none_above nearest.not_noneAbove
    | fromHome house _ home_eq there => exact absurd there (not_home house home_eq)
    | absent => rfl

/-- A directory without settings has those of its parent. -/
theorem Applies.of_parent? {parent : Path} {found : Option Path}
    (missing : ¬ HasSettings tree cwd directory) (up : directory.parent? = some parent)
    (applies : Applies tree home cwd parent found) : Applies tree home cwd directory found := by
  cases applies with
  | nearest dir nearest => exact .nearest dir (nearest.of_parent? missing up)
  | fromHome house none_above home_eq there =>
    exact .fromHome house (none_above.of_parent? missing up) home_eq there
  | absent none_above not_home => exact .absent (none_above.of_parent? missing up) not_home

theorem discover?_of_hasSettings (there : HasSettings tree cwd directory) :
    discover? tree home cwd directory = some (directory.join fileName) := by
  rw [discover?, Path.ancestors, List.map_cons, List.find?_cons_of_pos there, Option.some_or]

theorem discover?_of_parent? {parent : Path} (missing : ¬ HasSettings tree cwd directory)
    (up : directory.parent? = some parent) :
    discover? tree home cwd directory = discover? tree home cwd parent := by
  rw [discover?, Path.ancestors_of_parent? up, List.map_cons, List.find?_cons_of_neg missing]
  rfl

theorem discover?_of_top (missing : ¬ HasSettings tree cwd directory)
    (top : directory.parent? = none) :
    discover? tree home cwd directory = (globalFile home).filter (tree.isFile cwd) := by
  rw [discover?, Path.ancestors_of_top top, List.map_singleton, List.find?_cons_of_neg missing]
  rfl

/-- By induction along the parents, as far as there is no settings file. -/
theorem applies_discover? (tree : FileTree δ) (home : Option Path) (cwd : Address)
    (directory : Path) :
    Applies tree home cwd directory (discover? tree home cwd directory) := by
  induction directory using Path.ancestors.induct with
  | case1 directory ih =>
    by_cases there : HasSettings tree cwd directory
    · rw [discover?_of_hasSettings there]
      exact .nearest directory (.of_hasSettings there)
    · cases up : directory.parent? with
      | some parent =>
        rw [discover?_of_parent? there up]
        exact (ih parent up).of_parent? there up
      | none =>
        have none_above := NoneAbove.of_top there up
        rw [discover?_of_top there up]
        cases home with
        | none => exact .absent none_above fun house same => by cases same
        | some house =>
          by_cases at_home : HasSettings tree cwd house
          · rw [globalFile, Option.map_some, Option.filter_some_pos at_home]
            exact .fromHome house none_above rfl at_home
          · rw [globalFile, Option.map_some, Option.filter_some_neg (Bool.eq_false_iff.mpr at_home)]
            refine .absent none_above fun other same => ?_
            cases same
            exact at_home

theorem discover?_eq_iff {found : Option Path} :
    discover? tree home cwd directory = found ↔ Applies tree home cwd directory found := by
  have applies := applies_discover? tree home cwd directory
  constructor
  · rintro rfl
    exact applies
  · exact applies.unique

/-! ### What matters -/

/-- Only whether there is a settings file on the way or at home is looked at. -/
theorem discover?_congr {ε : Type} {other : FileTree ε}
    (on_way : ∀ dir ∈ directory.ancestors, HasSettings tree cwd dir ↔ HasSettings other cwd dir)
    (at_home : ∀ house, home = some house →
      (HasSettings tree cwd house ↔ HasSettings other cwd house)) :
    discover? tree home cwd directory = discover? other home cwd directory := by
  rw [discover?_eq_iff]
  have applies := applies_discover? other home cwd directory
  generalize discover? other home cwd directory = found at applies
  have none_here (none_above : NoneAbove other cwd directory) : NoneAbove tree cwd directory :=
    fun dir above there => none_above dir above ((on_way dir above).mp there)
  cases applies with
  | nearest dir nearest =>
    refine .nearest dir ⟨nearest.above, (on_way dir nearest.above).mpr nearest.present, ?_⟩
    intro deeper above there
    exact nearest.deepest deeper above ((on_way deeper above).mp there)
  | fromHome house none_above home_eq there =>
    exact .fromHome house (none_here none_above) home_eq ((at_home house home_eq).mpr there)
  | absent none_above not_home =>
    refine .absent (none_here none_above) fun house home_eq there => ?_
    exact not_home house home_eq ((at_home house home_eq).mp there)

/-! ### A new settings file -/

/-- The settings file of a directory is put into its place. -/
theorem placeFrom_join_fileName (cwd : Address) (dir : Path) :
    Tree.placeFrom cwd (dir.join fileName) = Tree.placeFrom cwd dir ++ [fileName.text] := by
  have relative : fileName.isAbsolute = false := by decide
  have single : fileName.pieces = [fileName.text.toList] := by decide
  have named : Tree.IsName fileName.text.toList := by decide
  rw [Tree.placeFrom_join relative, single, List.foldl_cons, List.foldl_nil, named.moved,
    String.ofList_toList]

theorem HasSettings.of_write
    (done : tree.write cwd (base.join fileName) content = .ok next)
    (there : HasSettings tree cwd dir) : HasSettings next cwd dir :=
  Tree.isFile_of_write done there

/-- Only the directory that a settings file is written to gets settings, under any of its names. -/
theorem HasSettings.before_write
    (done : tree.write cwd (base.join fileName) content = .ok next)
    (there : HasSettings next cwd dir) :
    HasSettings tree cwd dir ∨ Tree.placeFrom cwd dir = Tree.placeFrom cwd base := by
  rcases Tree.isFile_before_write done there with before | same
  · exact .inl before
  · rw [placeFrom_join_fileName, placeFrom_join_fileName] at same
    exact .inr (List.append_cancel_right same)

theorem NoneAbove.before_write
    (done : tree.write cwd (base.join fileName) content = .ok next)
    (none_above : NoneAbove next cwd directory) : NoneAbove tree cwd directory :=
  fun dir on_way there => none_above dir on_way (there.of_write done)

/-- Settings that were nearest still are, unless it is the new file that is found. -/
theorem IsNearest.before_write
    (done : tree.write cwd (base.join fileName) content = .ok next)
    (nearest : IsNearest next cwd directory dir) (before : HasSettings tree cwd dir) :
    IsNearest tree cwd directory dir where
  above := nearest.above
  present := before
  deepest other on_way there := nearest.deepest other on_way (there.of_write done)

/-- What was found is found again, or else the new file is: it is nearest, or at home. -/
theorem discover?_of_write (done : tree.write cwd (base.join fileName) content = .ok next)
    (changed : discover? next home cwd directory ≠ discover? tree home cwd directory) :
    (∃ dir ∈ directory.ancestors, Tree.placeFrom cwd dir = Tree.placeFrom cwd base ∧
      (∀ deeper ∈ directory.ancestors, dir ∈ deeper.ancestors → ¬ HasSettings tree cwd deeper) ∧
      discover? next home cwd directory = some (dir.join fileName)) ∨
    ∃ house, home = some house ∧ Tree.placeFrom cwd house = Tree.placeFrom cwd base ∧
      NoneAbove tree cwd directory ∧
      discover? next home cwd directory = some (house.join fileName) := by
  have after := applies_discover? next home cwd directory
  generalize discover? next home cwd directory = found at after changed
  have new (applies : Applies tree home cwd directory found) : False :=
    changed (discover?_eq_iff.mpr applies).symm
  cases after with
  | nearest dir nearest =>
    left
    have missing : ¬ HasSettings tree cwd dir := fun before =>
      new (.nearest dir (nearest.before_write done before))
    have here := (nearest.present.before_write done).resolve_left missing
    refine ⟨dir, nearest.above, here, fun deeper on_way above there => ?_, rfl⟩
    have same := Path.mem_ancestors_antisymm above
      (nearest.deepest deeper on_way (there.of_write done))
    exact missing (same ▸ there)
  | fromHome house none_above home_eq there =>
    right
    have none_before := none_above.before_write done
    have missing : ¬ HasSettings tree cwd house := fun before =>
      new (.fromHome house none_before home_eq before)
    exact ⟨house, home_eq, (there.before_write done).resolve_left missing, none_before, rfl⟩
  | absent none_above not_home =>
    refine (new (.absent (none_above.before_write done) fun house home_eq there => ?_)).elim
    exact not_home house home_eq (there.of_write done)

/--
The settings file that applies to a directory is that of the nearest directory with one, else that
of the home directory.  Trees that agree on which of these files there are give the same answer.
A new settings file changes the answer only for what is below its directory and has none nearer,
or from the home directory for what has none above it, and then it is the answer.
-/
theorem nearest_settings_apply {δ ε : Type} :
    (∀ (tree : FileTree δ) home cwd directory found,
      discover? tree home cwd directory = found ↔ Applies tree home cwd directory found) ∧
    (∀ (first : FileTree δ) (second : FileTree ε) home cwd directory,
      (∀ dir ∈ directory.ancestors, HasSettings first cwd dir ↔ HasSettings second cwd dir) →
      (∀ house, home = some house → (HasSettings first cwd house ↔ HasSettings second cwd house)) →
      discover? first home cwd directory = discover? second home cwd directory) ∧
    ∀ (tree next : FileTree δ) home cwd directory base content,
      tree.write cwd (base.join fileName) content = .ok next →
      discover? next home cwd directory ≠ discover? tree home cwd directory →
      (∃ dir ∈ directory.ancestors, Tree.placeFrom cwd dir = Tree.placeFrom cwd base ∧
        (∀ deeper ∈ directory.ancestors, dir ∈ deeper.ancestors → ¬ HasSettings tree cwd deeper) ∧
        discover? next home cwd directory = some (dir.join fileName)) ∨
      ∃ house, home = some house ∧ Tree.placeFrom cwd house = Tree.placeFrom cwd base ∧
        NoneAbove tree cwd directory ∧
        discover? next home cwd directory = some (house.join fileName) := by
  refine ⟨fun tree home cwd directory found => discover?_eq_iff,
    fun first second home cwd directory on_way at_home => discover?_congr on_way at_home,
    fun tree next home cwd directory base content done changed => ?_⟩
  exact discover?_of_write done changed

/-- A settings file at the root and at home; one directory has the name of a settings file. -/
def crowdedTree {δ : Type} (content : Content δ) : FileTree δ :=
  .directory [
    (".haudoi.toml", .file content),
    ("home", .directory [(".haudoi.toml", .file content)]),
    ("work", .directory [(".haudoi.toml", .directory []), ("notes", .directory [])])]

/-- What the files hold is nothing to the search; a file that is nearer than the root's is found. -/
theorem nearest_settings_apply_crowded :
    let tree : FileTree Unit := crowdedTree (.text "[search")
    let other : FileTree Nat := crowdedTree (.database 0)
    let next := Tree.set (.file (.text "")) ["work", "notes", ".haudoi.toml"] tree
    let directory : Path := ⟨"/work/notes"⟩
    let home : Option Path := some ⟨"/home"⟩
    let base : Path := ⟨"/work/./notes"⟩
    (∀ dir ∈ directory.ancestors, HasSettings tree [] dir ↔ HasSettings other [] dir) ∧
      (∀ house, home = some house → (HasSettings tree [] house ↔ HasSettings other [] house)) ∧
      discover? tree home [] directory = discover? other home [] directory ∧
      discover? tree home [] directory = some ⟨"/.haudoi.toml"⟩ ∧
      tree.write [] (base.join fileName) (.text "") = .ok next ∧
      discover? next home [] directory = some ⟨"/work/notes/.haudoi.toml"⟩ ∧
      discover? next home [] directory ≠ discover? tree home [] directory ∧
      ∃ dir ∈ directory.ancestors, Tree.placeFrom [] dir = Tree.placeFrom [] base ∧
        (∀ deeper ∈ directory.ancestors, dir ∈ deeper.ancestors → ¬ HasSettings tree [] deeper) ∧
        discover? next home [] directory = some (dir.join fileName) := by
  intro tree other next directory home base
  obtain ⟨applies, agrees, _⟩ := @nearest_settings_apply Unit Nat
  obtain ⟨_, _, writes⟩ := @nearest_settings_apply Unit Unit
  have on_way : ∀ dir ∈ directory.ancestors,
      HasSettings tree [] dir ↔ HasSettings other [] dir := by decide +kernel
  have at_home (house : Path) (same : home = some house) :
      HasSettings tree [] house ↔ HasSettings other [] house := by
    cases Option.some.inj same
    decide
  have done : tree.write [] (base.join fileName) (.text "") = .ok next := by
    have target : (tree.target [] (base.join fileName)).toOption =
        some ["work", "notes", ".haudoi.toml"] := by decide
    cases found : tree.target [] (base.join fileName) with
    | error cause =>
      rw [found] at target
      cases target
    | ok place =>
      rw [found] at target
      cases target
      rw [Tree.write, found]
      rfl
  have before : discover? tree home [] directory = some ⟨"/.haudoi.toml"⟩ := by decide +kernel
  have after : discover? next home [] directory = some ⟨"/work/notes/.haudoi.toml"⟩ := by
    decide +kernel
  have changed : discover? next home [] directory ≠ discover? tree home [] directory := by
    rw [before, after]
    decide
  refine ⟨on_way, at_home, agrees tree other home [] directory on_way at_home, before, done, after,
    changed, ?_⟩
  rcases writes tree next home [] directory base _ done changed with
    nearest | ⟨house, same, place, _⟩
  · exact nearest
  · cases Option.some.inj same
    exact absurd place (by decide)

end LinkSearch.Settings
